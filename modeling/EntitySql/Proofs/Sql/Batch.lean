import EntitySql.Proofs.Outcome
import EntitySql.Sql.Statement
import Mathlib.Data.List.Forall2

/-!
# Batches are their single statements

A batch is the statements of its records put together: it has their common text and one bag for
each of them. Where a record has no statement the whole batch has none, and the first such record
decides with which error. For updates and deletes this takes at least one record, since only the
entity decides about none; an insert of no records has no bags.
-/

namespace EntitySql

/-! ## The bags of a list of records -/

section Bags

variable {bag : Record → Except Error ParamBag} {records : List Record}

theorem allBags_eq_ok {bags : List ParamBag} :
    allBags bag records = .ok bags ↔
      List.Forall₂ (fun record other ↦ bag record = .ok other) records bags := by
  induction records generalizing bags with
  | nil =>
    rw [List.forall₂_nil_left_iff, allBags, Except.ok.injEq]
    exact eq_comm
  | cons record records ih =>
    rw [allBags, bind_eq_ok, List.forall₂_cons_left_iff]
    constructor
    · rintro ⟨first, hfirst, h⟩
      obtain ⟨rest, hrest, h⟩ := bind_eq_ok.1 h
      cases h
      exact ⟨first, rest, hfirst, ih.1 hrest, rfl⟩
    · rintro ⟨first, rest, hfirst, hrest, rfl⟩
      exact ⟨first, hfirst, bind_eq_ok.2 ⟨rest, ih.2 hrest, rfl⟩⟩

/-- The bags fail with the error of the first record that has none. -/
theorem allBags_eq_error {error : Error} (h : allBags bag records = .error error) :
    ∃ before record after, records = before ++ record :: after ∧
      (∀ earlier ∈ before, ∃ other, bag earlier = .ok other) ∧ bag record = .error error := by
  induction records with
  | nil => cases h
  | cons first records ih =>
    rw [allBags, bind_eq_error] at h
    rcases h with hfirst | ⟨other, hother, h⟩
    · exact ⟨[], first, records, rfl, by simp, hfirst⟩
    · rcases bind_eq_error.1 h with hrest | ⟨rest, -, h⟩
      · obtain ⟨before, record, after, rfl, hbefore, hrecord⟩ := ih hrest
        exact ⟨first :: before, record, after, rfl,
          List.forall_mem_cons.2 ⟨⟨other, hother⟩, hbefore⟩, hrecord⟩
      · cases h

end Bags

/-! ## Updates and deletes -/

/-- A batch has a statement where each of its records has one, with their common text and their
bags one by one, and else the error of the first record that has none. -/
structure AllOrNothing (single : Record → Except Error Statement) (records : List Record)
    (batch : Except Error Statement) : Prop where
  succeeds_iff : (∃ st, batch = .ok st) ↔ ∀ record ∈ records, ∃ st, single record = .ok st
  bags : ∀ st, batch = .ok st → ∃ bags, st.params = .batch bags ∧
    List.Forall₂ (fun record bag ↦ single record = .ok ⟨st.sql, .single bag⟩) records bags
  first_error : ∀ error, batch = .error error → ∃ before record after,
    records = before ++ record :: after ∧
      (∀ earlier ∈ before, ∃ st, single earlier = .ok st) ∧ single record = .error error

section AllOrNothing

variable {single : Record → Except Error Statement} {records : List Record}
  {batch : Except Error Statement}

/-- Whether a batch succeeds follows from what it is made of and what it fails with. -/
theorem AllOrNothing.of_outcomes
    (hbags : ∀ st, batch = .ok st → ∃ bags, st.params = .batch bags ∧
      List.Forall₂ (fun record bag ↦ single record = .ok ⟨st.sql, .single bag⟩) records bags)
    (herror : ∀ error, batch = .error error → ∃ before record after,
      records = before ++ record :: after ∧
        (∀ earlier ∈ before, ∃ st, single earlier = .ok st) ∧ single record = .error error) :
    AllOrNothing single records batch where
  bags := hbags
  first_error := herror
  succeeds_iff := by
    constructor
    · rintro ⟨st, hst⟩
      obtain ⟨bags, -, hall⟩ := hbags st hst
      have hsingles : List.Forall₂ (fun record bag ↦ (∃ st', single record = .ok st') ∧
          single record = .ok ⟨st.sql, .single bag⟩) records bags :=
        hall.imp fun _ _ hbag ↦ ⟨⟨_, hbag⟩, hbag⟩
      exact ((List.forall₂_and_left _ _).1 hsingles).1
    · intro h
      cases hbatch : batch with
      | ok st => exact ⟨st, rfl⟩
      | error error =>
        obtain ⟨before, record, after, rfl, -, hrecord⟩ := herror error hbatch
        obtain ⟨st, hst⟩ := h record (by simp)
        rw [hst] at hrecord
        cases hrecord

variable {α : Type} {parts : Except Error α} {sql : α → String}
  {bag : α → Record → Except Error ParamBag}

/-- What the statements of an entity share is found before any record is looked at, so that its
error is that of the first record. -/
theorem allOrNothing_of_parts (hne : records ≠ [])
    (hsingle : ∀ record, single record = do
      let shared ← parts
      let params ← bag shared record
      return ⟨sql shared, .single params⟩)
    (hbatch : batch = do
      let shared ← parts
      let bags ← allBags (bag shared) records
      return ⟨sql shared, .batch bags⟩) :
    AllOrNothing single records batch := by
  cases parts with
  | error error =>
    obtain ⟨first, rest, rfl⟩ := List.exists_cons_of_ne_nil hne
    subst hbatch
    refine .of_outcomes nofun fun other hother ↦ ?_
    cases hother
    exact ⟨[], first, rest, rfl, by simp, hsingle first⟩
  | ok shared =>
    have hone {record : Record} {params : ParamBag} (h : bag shared record = .ok params) :
        single record = .ok ⟨sql shared, .single params⟩ :=
      (hsingle record).trans (bind_eq_ok.2 ⟨shared, rfl, bind_eq_ok.2 ⟨params, h, rfl⟩⟩)
    refine .of_outcomes (fun st hst ↦ ?_) fun error herror ↦ ?_
    · rw [hbatch] at hst
      obtain ⟨_, ⟨⟩, hst⟩ := bind_eq_ok.1 hst
      obtain ⟨bags, hbags, hst⟩ := bind_eq_ok.1 hst
      cases hst
      exact ⟨bags, rfl, (allBags_eq_ok.1 hbags).imp fun _ _ ↦ hone⟩
    · rw [hbatch] at herror
      obtain ⟨⟨⟩⟩ | ⟨_, ⟨⟩, herror⟩ := bind_eq_error.1 herror
      rcases bind_eq_error.1 herror with hbags | ⟨bags, -, h⟩
      · obtain ⟨before, record, after, hrecords, hbefore, hrecord⟩ := allBags_eq_error hbags
        refine ⟨before, record, after, hrecords, fun earlier hearlier ↦ ?_,
          (hsingle record).trans (bind_eq_error.2 (.inr ⟨shared, rfl,
            bind_eq_error.2 (.inl hrecord)⟩))⟩
        obtain ⟨params, hparams⟩ := hbefore earlier hearlier
        exact ⟨_, hone hparams⟩
      · cases h

end AllOrNothing

namespace StatementBuilder

variable (b : StatementBuilder) {records : List Record}

/-! ## Inserts -/

/-- Two inserts that differ at most in their values and in the keyword in front of the markers. -/
structure DifferInKeyword (keyword keyword' : String) (s s' : InsertStatement) : Prop where
  rest : s' = { s with sql := s'.sql, params := s'.params }
  sql : s'.sql = s.sql ∨ ∃ into, s.sql = into ++ keyword ++ " (" ++ s.paramList ++ ")" ∧
    s'.sql = into ++ keyword' ++ " (" ++ s.paramList ++ ")"

theorem insertWith_differInKeyword (keyword keyword' : String) (params params' : Params) :
    DifferInKeyword keyword keyword' (b.insertWith keyword params)
      (b.insertWith keyword' params') where
  rest := rfl
  sql := by
    by_cases hcolumns : (b.columnList ", " b.entity.insertProperties).isEmpty = true
    · exact .inl (by simp only [insertWith, insertText, hcolumns, if_true])
    · refine .inr ⟨"INSERT INTO " ++ b.table ++ " (" ++
        b.columnList ", " b.entity.insertProperties ++ ") ", ?_, ?_⟩
      · simp only [insertWith, insertText, hcolumns, Bool.false_eq_true, if_false]
      · simp only [insertWith, insertText, hcolumns, Bool.false_eq_true, if_false]

theorem insertBatch_bags (records : List Record) :
    ∃ bags, (b.insertBatch records).params = .batch bags ∧
      List.Forall₂ (fun record bag ↦ (b.insert record).params = .single bag) records bags :=
  ⟨_, rfl, List.forall₂_map_right_iff.2 (List.forall₂_same.2 fun _ _ ↦ rfl)⟩

/-! ## Every batch -/

/-- The batches of an entity are its single statements put together. An update or a delete is
there for all records or for none, and an insert for any of them, with the keyword in front of
its values in lower case. -/
theorem batches_are_their_singles (hne : records ≠ []) :
    AllOrNothing b.update records (b.updateBatch records) ∧
      AllOrNothing b.delete records (b.deleteBatch records) ∧
      (∃ bags, (b.insertBatch records).params = .batch bags ∧
        List.Forall₂ (fun record bag ↦ (b.insert record).params = .single bag) records bags) ∧
      ∀ record, DifferInKeyword "VALUES" "values" (b.insert record) (b.insertBatch records) :=
  ⟨allOrNothing_of_parts hne (fun _ ↦ rfl) rfl, allOrNothing_of_parts hne (fun _ ↦ rfl) rfl,
    b.insertBatch_bags records, fun _ ↦ b.insertWith_differInKeyword _ _ _ _⟩

/-- The second of three records has no key, so that there is no update of any of them. -/
theorem batches_are_their_singles_keyless :
    let b : StatementBuilder := ⟨⟨"Note", "NOTE", [⟨"Id", "ID", true, false, false⟩,
      ⟨"Text", "TEXT", false, false, false⟩]⟩, .sqlite⟩
    let records : List Record := [[("Id", .int 1), ("Text", .string "a")], [("Text", .string "b")],
      [("id", .int 3)]]
    b.updateBatch records = .error (.validation (.missingKey "Id")) ∧
      b.update [("id", .int 3)] = .ok ⟨"update NOTE set TEXT = @Text where ID = @Id",
        .single ⟨[("Text", .null), ("Id", .int 3)]⟩⟩ ∧
      AllOrNothing b.update records (b.updateBatch records) ∧
      AllOrNothing b.delete records (b.deleteBatch records) ∧
      (∃ bags, (b.insertBatch records).params = .batch bags ∧
        List.Forall₂ (fun record bag ↦ (b.insert record).params = .single bag) records bags) ∧
      ∀ record, DifferInKeyword "VALUES" "values" (b.insert record) (b.insertBatch records) :=
  ⟨by rfl, by rfl, batches_are_their_singles _ (List.cons_ne_nil _ _)⟩

end StatementBuilder

end EntitySql
