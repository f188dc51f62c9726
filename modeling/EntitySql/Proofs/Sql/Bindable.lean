import EntitySql.Proofs.Sql.Lowering

/-!
# Records among the values of a filter

A driver takes no record as a value. A comparison with a record is refused when the filter is
lowered, wherever the record comes from, and so is a record in the place of a condition. A string
method of a column binds whatever its argument is, so that there is a record in the bag just where
such a method was given one.
-/

namespace EntitySql

/-! ## The first fault of a filter -/

namespace Expr

/-- The predicates that a filter is made of by connectives and negation, from left to right. -/
def predicates : Expr → List Expr
  | .connect _ left right => left.predicates ++ right.predicates
  | .not inner => inner.predicates
  | e => [e]

theorem isCompound_of_mem_predicates {e p : Expr} (h : p ∈ e.predicates) :
    p.isCompound = false := by
  induction e using predicates.induct with
  | case1 op left right ihl ihr => exact (List.mem_append.1 h).elim ihl ihr
  | case2 inner ih => exact ih h
  | case3 e hconnect hnot =>
    rw [predicates] at h
    · rw [List.mem_singleton.1 h]
      cases e with
      | connect op left right => exact absurd rfl (hconnect op left right)
      | not inner => exact absurd rfl (hnot inner)
      | _ => rfl
    all_goals assumption

/-- Only the predicates bind values. -/
theorem mem_boundValues_iff {e : Expr} {v : Value} :
    v ∈ e.boundValues ↔ ∃ p ∈ e.predicates, v ∈ p.boundValues := by
  induction e using predicates.induct with
  | case1 op left right ihl ihr =>
    rw [boundValues, predicates, List.mem_append, ihl, ihr]
    simp only [List.mem_append, or_and_right, exists_or]
  | case2 inner ih => exact ih
  | case3 e hconnect hnot =>
    rw [predicates]
    · simp
    all_goals assumption

end Expr

namespace Lowering

variable {resolve : Resolver}

def fault? (resolve : Resolver) (p : Expr) : Option Error :=
  failure? (condition resolve p .empty)

theorem failure?_compareWith (column : String) (op : CompareOp) (v : Value) (b : Bindings) :
    failure? (compareWith column op v b) =
      if v.kind = .record then some (.unsupported (.recordCompared column)) else none := by
  cases v <;> cases op <;> rfl

theorem failure?_comparison (op : CompareOp) (left right : Expr) (b b' : Bindings) :
    failure? (comparison resolve op left right b) =
      failure? (comparison resolve op left right b') := by
  unfold comparison
  cases operand resolve left with
  | error e => rfl
  | ok l =>
    cases operand resolve right with
    | error e => rfl
    | ok r =>
      cases l with
      | column l =>
        cases r with
        | column r => rfl
        | value v => exact (failure?_compareWith l op v b).trans (failure?_compareWith ..).symm
      | value v =>
        cases r with
        | column r => exact (failure?_compareWith r op v b).trans (failure?_compareWith ..).symm
        | value w => rfl

theorem failure?_stringPredicate (target : Expr) (method : String) (args : List Expr)
    (b b' : Bindings) : failure? (stringPredicate resolve target method args b) =
      failure? (stringPredicate resolve target method args b') := by
  unfold stringPredicate
  split
  · rfl
  · split
    · rfl
    · split
      · next property _ _ arg =>
        split
        · rfl
        · cases arg.evaluate with
          | error e => rfl
          | ok v =>
            cases resolve property with
            | error e => rfl
            | ok column => rfl
      · rfl

theorem failure?_leaf (e : Expr) (b b' : Bindings) :
    failure? (leaf resolve e b) = failure? (leaf resolve e b') := by
  unfold leaf
  split
  · rw [failure?_map, failure?_map]
  · split
    · rw [failure?_map, failure?_map]
    · rfl

theorem findSome?_single {p : Expr} {b : Bindings}
    (h : failure? (condition resolve p b) = failure? (condition resolve p .empty)) :
    failure? (condition resolve p b) = [p].findSome? (fault? resolve) := by
  rw [h]
  change fault? resolve p = _
  cases hfault : fault? resolve p <;> simp [hfault]

/-- A filter is refused for the first of its predicates that is refused, whatever was bound. -/
theorem failure?_condition (e : Expr) (b : Bindings) :
    failure? (condition resolve e b) = e.predicates.findSome? (fault? resolve) := by
  induction e, b using condition.induct with
  | case1 op left right b => exact findSome?_single (failure?_comparison op left right b .empty)
  | case2 op left right b ihl ihr =>
    rw [condition, Expr.predicates, List.findSome?_append, ← ihl]
    refine failure?_bind fun l ↦ ?_
    rw [← ihr l.2]
    exact failure?_bind_last fun r ↦ rfl
  | case3 inner b ih =>
    rw [condition, Expr.predicates, ← ih]
    exact failure?_bind_last fun c ↦ rfl
  | case4 target method args b =>
    exact findSome?_single (failure?_stringPredicate target method args b .empty)
  | case5 e b hcompare hconnect hnot hcall =>
    cases e with
    | compare op left right => exact absurd rfl (hcompare op left right)
    | connect op left right => exact absurd rfl (hconnect op left right)
    | not inner => exact absurd rfl (hnot inner)
    | call target method args => exact absurd rfl (hcall target method args)
    | _ => exact findSome?_single (failure?_leaf _ b .empty)

end Lowering

theorem failure?_lower (e : Expr) (resolve : Resolver) (dialect : Dialect) :
    failure? (e.lower resolve dialect) = e.predicates.findSome? (Lowering.fault? resolve) := by
  rw [← Lowering.failure?_condition e .empty]
  exact failure?_bind_last fun c ↦ rfl

/-! ## Records -/

namespace Expr

variable {e p : Expr} {v : Value}

/-- The expression is known without a row, and what is known of it is a record. -/
def IsRecord (e : Expr) : Prop :=
  e.isClosed = true ∧ ∃ fields, e.evaluate = .ok (.record fields)

/-- A predicate has a record for an operand, receiver or argument, or is one itself. -/
def TakesRecord : Expr → Prop
  | .compare _ left right => left.IsRecord ∨ right.IsRecord
  | .call target _ args => target.IsRecord ∨ ∃ arg ∈ args, arg.IsRecord
  | e => e.IsRecord

inductive MatchesRecord : Expr → Prop
  | intro {property method : String} {m : StringMethod} {arg : Expr} :
    StringMethod.ofName? method = some m → arg.IsRecord →
      MatchesRecord (.call (.column property) method [arg])

theorem IsRecord.column?_eq_none (h : e.IsRecord) : e.column? = none := by
  cases hcolumn : e.column? with
  | none => rfl
  | some name =>
    obtain rfl := column?_eq_some.1 hcolumn
    exact absurd h.1 (Bool.false_ne_true)

theorem isRecord_iff : e.IsRecord ↔ ∃ v ∈ e.known, v.kind = .record := by
  constructor
  · rintro ⟨hclosed, fields, hfields⟩
    exact ⟨.record fields, by simp [Lowering.known_of_isClosed hclosed hfields], rfl⟩
  · rintro ⟨v, hv, hkind⟩
    unfold known at hv
    split at hv
    · next w hclosed hw =>
      obtain rfl := List.mem_singleton.1 hv
      cases v with
      | record fields => exact ⟨hclosed, fields, hw⟩
      | _ => cases hkind
    · cases hv

/-- Where a record is bound, a predicate was given one. -/
theorem takesRecord_of_mem_boundValues (hsingle : p.isCompound = false) (hv : v ∈ p.boundValues)
    (hkind : v.kind = .record) : p.TakesRecord := by
  cases p with
  | compare op left right =>
    rcases List.mem_append.1 (List.mem_filter.1 hv).1 with hleft | hright
    · exact .inl (isRecord_iff.2 ⟨v, hleft, hkind⟩)
    · exact .inr (isRecord_iff.2 ⟨v, hright, hkind⟩)
  | call target method args =>
    obtain ⟨arg, harg, hknown⟩ := List.mem_flatMap.1 hv
    exact .inr ⟨arg, harg, isRecord_iff.2 ⟨v, hknown, hkind⟩⟩
  | connect op left right => cases hsingle
  | not inner => cases hsingle
  | _ => cases hv

theorem MatchesRecord.mem_boundValues (h : p.MatchesRecord) :
    ∃ v ∈ p.boundValues, v.kind = .record := by
  obtain ⟨-, harg⟩ := h
  obtain ⟨v, hv, hkind⟩ := isRecord_iff.1 harg
  exact ⟨v, by simpa [boundValues] using hv, hkind⟩

end Expr

namespace Lowering

variable {resolve : Resolver}

/-- What a predicate with a record may be refused for: that it is no predicate, or what keeps one
side of a comparison from having a value. -/
inductive Refused (resolve : Resolver) : Expr → Error → Prop
  | unsupported (p : Expr) (cause : UnsupportedError) : Refused resolve p (.unsupported cause)
  | left {op : CompareOp} {left right : Expr} {error : Error} :
    operand resolve left = .error error → Refused resolve (.compare op left right) error
  | right {op : CompareOp} {left right : Expr} {error : Error} :
    operand resolve right = .error error → Refused resolve (.compare op left right) error

theorem operand_of_isRecord (resolve : Resolver) {e : Expr} (h : e.IsRecord) :
    ∃ fields, operand resolve e = .ok (.value (.record fields)) := by
  obtain ⟨hclosed, fields, hfields⟩ := h
  exact ⟨fields, operand_of_evaluate hclosed hfields⟩

theorem failure?_leaf_of_isRecord {e : Expr} (h : e.IsRecord) (b : Bindings) :
    failure? (leaf resolve e b) = some (.unsupported (.condition .record)) := by
  obtain ⟨hclosed, fields, hfields⟩ := id h
  rw [leaf, h.column?_eq_none, if_pos hclosed, failure?_map, constant, hfields]
  rfl

theorem comparison_refused (resolve : Resolver) {op : CompareOp} {left right : Expr}
    (b : Bindings) (h : left.IsRecord ∨ right.IsRecord) :
    ∃ error, comparison resolve op left right b = .error error ∧
      Refused resolve (.compare op left right) error := by
  unfold comparison
  rcases h with hleft | hright
  · obtain ⟨fields, hl⟩ := operand_of_isRecord resolve hleft
    rw [hl]
    cases hr : operand resolve right with
    | error error => exact ⟨error, rfl, .right hr⟩
    | ok r =>
      cases r with
      | column r => exact ⟨_, rfl, .unsupported _ (.recordCompared r)⟩
      | value w => exact ⟨_, rfl, .unsupported _ (.withoutColumn left op right)⟩
  · obtain ⟨fields, hr⟩ := operand_of_isRecord resolve hright
    rw [hr]
    cases hl : operand resolve left with
    | error error => exact ⟨error, rfl, .left hl⟩
    | ok l =>
      cases l with
      | column l => exact ⟨_, rfl, .unsupported _ (.recordCompared l)⟩
      | value w => exact ⟨_, rfl, .unsupported _ (.withoutColumn left op right)⟩

/-- A string method that is given a record, but not as the lone argument of a method of a
column. -/
theorem stringPredicate_refused (resolve : Resolver) {target : Expr} {method : String}
    {args : List Expr} (b : Bindings) (h : target.IsRecord ∨ ∃ arg ∈ args, arg.IsRecord)
    (hmatch : ¬(Expr.call target method args).MatchesRecord) :
    ∃ cause, stringPredicate resolve target method args b = .error (.unsupported cause) := by
  unfold stringPredicate
  split
  · exact ⟨_, rfl⟩
  next m hm =>
  split
  · exact ⟨_, rfl⟩
  next property hproperty =>
  obtain rfl := Expr.column?_eq_some.1 hproperty
  split
  · next arg =>
    rcases h with htarget | ⟨arg', harg', hrecord⟩
    · exact absurd htarget.1 Bool.false_ne_true
    · obtain rfl := List.mem_singleton.1 harg'
      exact absurd (.intro hm hrecord) hmatch
  · exact ⟨_, rfl⟩

/-- A predicate with a record is refused, unless it matches a column against the record. -/
theorem fault?_of_takesRecord {p : Expr} (hsingle : p.isCompound = false) (h : p.TakesRecord)
    (hmatch : ¬p.MatchesRecord) :
    ∃ error, fault? resolve p = some error ∧ Refused resolve p error := by
  have hleaf {e : Expr} (hrecord : e.IsRecord)
      (hcondition : condition resolve e .empty = leaf resolve e .empty) :
      ∃ error, fault? resolve e = some error ∧ Refused resolve e error := by
    refine ⟨_, ?_, .unsupported e (.condition .record)⟩
    rw [fault?, hcondition, failure?_leaf_of_isRecord hrecord]
  cases p with
  | compare op left right =>
    obtain ⟨error, herror, hrefused⟩ := comparison_refused resolve .empty h
    exact ⟨error, failure?_eq_some.2 herror, hrefused⟩
  | call target method args =>
    obtain ⟨cause, hcause⟩ := stringPredicate_refused resolve .empty h hmatch
    exact ⟨_, failure?_eq_some.2 hcause, .unsupported _ cause⟩
  | connect op left right => cases hsingle
  | not inner => cases hsingle
  | _ => exact hleaf h rfl

end Lowering

open Lowering

/-- A lowered filter binds a record just where one of its predicates matches a column against a
record. Any other predicate that is given a record has the filter refused, for that or for what is
wrong before it. -/
theorem records_bound_iff (resolve : Resolver) (dialect : Dialect) (e : Expr) :
    (∀ f, e.lower resolve dialect = .ok f →
      ((∃ entry ∈ f.params.entries, entry.2.kind = .record) ↔
        ∃ p ∈ e.predicates, p.MatchesRecord)) ∧
    ∀ before p after, e.predicates = before ++ p :: after → p.TakesRecord → ¬p.MatchesRecord →
      ∃ error, e.lower resolve dialect = .error error ∧
        (before.findSome? (fault? resolve) = some error ∨ Refused resolve p error) := by
  refine ⟨fun f hf ↦ ?_, fun before p after hparts hrecord hmatch ↦ ?_⟩
  · have hsound : ∀ p ∈ e.predicates, fault? resolve p = none := by
      rw [← List.findSome?_eq_none_iff, ← failure?_lower e resolve dialect, hf]
      rfl
    obtain ⟨c, b, hlowered, rfl⟩ := lowered_of_lower hf
    have hentries : b.bag.entries = c.params.zip e.boundValues :=
      hlowered.entries Bindings.fresh_empty
    have hvalues : b.bag.entries.map (·.2) = e.boundValues := by
      rw [hentries, List.map_snd_zip hlowered.length_params.ge]
    constructor
    · rintro ⟨entry, hentry, hkind⟩
      have hbound : entry.2 ∈ e.boundValues := hvalues ▸ List.mem_map_of_mem hentry
      obtain ⟨p, hp, hmem⟩ := Expr.mem_boundValues_iff.1 hbound
      refine ⟨p, hp, by_contra fun hmatch ↦ ?_⟩
      have hsingle := Expr.isCompound_of_mem_predicates hp
      obtain ⟨error, hfault, -⟩ := fault?_of_takesRecord hsingle
        (Expr.takesRecord_of_mem_boundValues hsingle hmem hkind) hmatch
      exact absurd ((hsound p hp).symm.trans hfault) (Option.some_ne_none error).symm
    · rintro ⟨p, hp, hmatch⟩
      obtain ⟨v, hv, hkind⟩ := hmatch.mem_boundValues
      have hbound : v ∈ e.boundValues := Expr.mem_boundValues_iff.2 ⟨p, hp, hv⟩
      rw [← hvalues] at hbound
      obtain ⟨entry, hentry, rfl⟩ := List.mem_map.1 hbound
      exact ⟨entry, hentry, hkind⟩
  · have hsingle : p.isCompound = false :=
      Expr.isCompound_of_mem_predicates (e := e) (by simp [hparts])
    obtain ⟨error, hfault, hrefused⟩ := fault?_of_takesRecord hsingle hrecord hmatch
    have hlower := failure?_lower e resolve dialect
    rw [hparts, List.findSome?_append, List.findSome?_cons, hfault] at hlower
    cases hbefore : before.findSome? (fault? resolve) with
    | some earlier =>
      rw [hbefore] at hlower
      exact ⟨earlier, failure?_eq_some.1 hlower, .inl rfl⟩
    | none =>
      rw [hbefore] at hlower
      exact ⟨error, failure?_eq_some.1 hlower, .inr hrefused⟩

/-- A method that is given a field of a captured record, beside a comparison with the same field. -/
theorem records_bound_iff_captured :
    let home : Expr := .member (.const (.record [("Home", .record [("Id", .int 1)])])) "Home"
    let matched : Expr := .call (.column "Address") "starts_with" [home]
    let compared : Expr := .compare .eq home (.column "Address")
    (∃ f, matched.lower .ok .postgres = .ok f ∧
      ∃ entry ∈ f.params.entries, entry.2.kind = .record) ∧
      ∃ error, (Expr.connect .and matched compared).lower .ok .postgres = .error error ∧
        ([matched].findSome? (fault? .ok) = some error ∨ Refused .ok compared error) := by
  intro home matched compared
  have hhome : home.IsRecord := ⟨rfl, _, rfl⟩
  have hcompared : ¬(Expr.compare .eq home (.column "Address")).MatchesRecord := nofun
  have hlower : matched.lower .ok .postgres = .ok ⟨_, _⟩ := rfl
  refine ⟨⟨_, hlower, ?_⟩, ?_⟩
  · exact ((records_bound_iff .ok .postgres matched).1 _ hlower).2
      ⟨matched, List.mem_singleton_self _, .intro rfl hhome⟩
  · exact (records_bound_iff .ok .postgres (.connect .and matched compared)).2 [matched] compared []
      rfl (.inl hhome) hcompared

/-- A comparison with a record is refused, where a string method binds the same record. -/
theorem string_method_binds_record :
    Expr.lower (.call (.column "Name") "Contains" [.const (.record [("a", .int 1)])]) .ok .db2 =
        .ok ⟨"UCASE(Name) LIKE '%' || UCASE(@Name_0) || '%'",
          ⟨[("Name_0", .record [("a", .int 1)])]⟩⟩ ∧
      Expr.lower (.compare .eq (.column "Name") (.const (.record [("a", .int 1)]))) .ok .db2 =
        .error (.unsupported (.recordCompared "Name")) := by
  constructor <;> rfl

end EntitySql
