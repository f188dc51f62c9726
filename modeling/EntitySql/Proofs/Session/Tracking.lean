import EntitySql.Proofs.Session.Discipline

/-!
# What happens to a tracked entity

The history of a tracked entity says what was last stored of it, and whether it was modified since.
It is dirty exactly where it was; where it is clean, it is what was stored. An update asks for one
statement where the entity is dirty and the statement can be built, and one that fails changes
nothing, so that the next one tries again.
-/

namespace EntitySql

/-- A tracked entity, and the session in which it is updated. -/
structure Tracking (t : EntityType) (σ : Type) where
  held : Tracked t.Entity
  session : Session σ

namespace Tracking

variable {t : EntityType} {σ : Type}

/-- What is done with a tracked entity, or elsewhere with its session. -/
inductive Step (t : EntityType) (σ : Type)
  | modify {β : Type} (change : t.Entity → β × t.Entity)
  | markClean
  | update
  | elsewhere (change : Session σ → Session σ)

/-- The steps taken, each with what it started from, the latest first. -/
abbrev History (t : EntityType) (σ : Type) := List (Tracking t σ × Step t σ)

def Step.modifies : Step t σ → Bool
  | .modify _ => true
  | _ => false

section

variable (ex : Executor σ)

def take (w : Tracking t σ) : Step t σ → Tracking t σ
  | .modify change => { w with held := (w.held.modify change).2 }
  | .markClean => { w with held := w.held.markClean }
  | .update =>
    let ((_, held), session) := Session.updateTracked ex t w.held w.session
    ⟨held, session⟩
  | .elsewhere change => { w with session := change w.session }

def statement (w : Tracking t σ) : Except Error (EntityMeta × Statement) :=
  w.session.registry.prepare t ex.dialect (·.update (t.toRecord w.held.entity))

def updated (w : Tracking t σ) : Except Error Bool × Tracked t.Entity :=
  (Session.updateTracked ex t w.held w.session).1

def calls (w : Tracking t σ) : List Exchange :=
  (Operation.updateTracked w.held).calls ex w.session

/-- Whether the entity is stored after a step: it is noted to be, or a call that writes it
succeeded. -/
def stores (w : Tracking t σ) : Step t σ → Bool
  | .markClean => true
  | .update => (w.calls ex).any (·.failure.isNone)
  | _ => false

def record (run : History t σ × Tracking t σ) (step : Step t σ) : History t σ × Tracking t σ :=
  ((run.2, step) :: run.1, run.2.take ex step)

def run (start : Tracking t σ) (steps : List (Step t σ)) : History t σ × Tracking t σ :=
  steps.foldl (record ex) ([], start)

def lastStored (start : Tracking t σ) : History t σ → t.Entity
  | [] => start.held.entity
  | (w, step) :: h =>
    if w.stores ex step then (w.take ex step).held.entity else lastStored start h

def modifiedSince : History t σ → Bool
  | [] => false
  | (w, step) :: h => !w.stores ex step && (step.modifies || modifiedSince h)

/-- An entity that is tracked anew, or that was fetched to be tracked. -/
inductive Started : Tracking t σ → Prop
  | new (e : t.Entity) (s : Session σ) : Started ⟨.new e, s⟩
  | fetched {key : KeyValues} {s s' : Session σ} {e : Tracked t.Entity}
    (h : Session.getTracked ex t key s = (.ok (some e), s')) : Started ⟨e, s'⟩

end

/-! ## One update -/

variable {ex : Executor σ}

theorem updated_eq {w : Tracking t σ} {o : Outcome t σ} {reply : Except Error Bool}
    {held : Tracked t.Entity} (h : (Operation.updateTracked w.held).run ex w.session = o)
    (hreply : o.reply = reply.map .changed) (hafter : o.after = .updateTracked held) :
    w.updated ex = (reply, held) := by
  subst h
  exact Prod.ext (map_injective (fun _ _ ↦ Reply.changed.inj) hreply)
    (Operation.updateTracked.inj hafter)

/-- The four ways in which an update can go. -/
theorem update_cases (ex : Executor σ) (w : Tracking t σ) :
    (w.held.dirty = false ∧ w.updated ex = (.ok false, w.held) ∧ w.calls ex = []) ∨
    (w.held.dirty = true ∧ ∃ e, w.statement ex = .error e ∧
      w.updated ex = (.error e, w.held) ∧ w.calls ex = []) ∨
    (w.held.dirty = true ∧ ∃ m stmt e, w.statement ex = .ok (m, stmt) ∧
      w.updated ex = (.error e, w.held) ∧
      w.calls ex = [⟨.execute, stmt, w.session.options, some e⟩]) ∨
    (w.held.dirty = true ∧ ∃ m stmt n, w.statement ex = .ok (m, stmt) ∧
      w.updated ex = (.ok (decide (0 < n)), w.held.markClean) ∧
      w.calls ex = [⟨.execute, stmt, w.session.options, none⟩]) := by
  obtain ⟨⟨e, dirty⟩, s⟩ := w
  cases dirty with
  | false => exact .inl ⟨rfl, rfl, rfl⟩
  | true =>
    have hcourse := Operation.course ex (.updateTracked ⟨e, true⟩) s
    unfold calls
    generalize hrun : (Operation.updateTracked ⟨e, true⟩).run ex s = o at hcourse
    generalize (Operation.updateTracked ⟨e, true⟩).calls ex s = log at hcourse
    cases hcourse with
    | idle h => cases h
    | refused _ h => exact .inr (.inl ⟨rfl, _, h, updated_eq hrun rfl rfl, rfl⟩)
    | failed _ h =>
      exact .inr (.inr (.inl ⟨rfl, _, _, _, h, updated_eq hrun rfl rfl, rfl⟩))
    | answered _ h =>
      exact .inr (.inr (.inr ⟨rfl, _, _, _, h, updated_eq hrun rfl rfl, rfl⟩))

/-! ## What the history tells -/

variable {start w : Tracking t σ} {h : History t σ} {step : Step t σ}

/-- A tracked entity, as its history tells it. -/
structure Told (ex : Executor σ) (start : Tracking t σ) (h : History t σ) (w : Tracking t σ) :
    Prop where
  dirty_eq : w.held.dirty = modifiedSince ex h
  entity_eq : w.held.dirty = false → w.held.entity = lastStored ex start h

namespace Told

/-- At first nothing has been modified. -/
theorem of_clean (hclean : start.held.dirty = false) : Told ex start [] start where
  dirty_eq := hclean
  entity_eq _ := rfl

theorem of_stores (hstores : w.stores ex step = true)
    (hclean : (w.take ex step).held.dirty = false) :
    Told ex start ((w, step) :: h) (w.take ex step) where
  dirty_eq := by simp [hclean, modifiedSince, hstores]
  entity_eq _ := by simp [lastStored, hstores]

theorem of_unchanged (ht : Told ex start h w) (hstores : w.stores ex step = false)
    (hmodifies : step.modifies = false) (hheld : (w.take ex step).held = w.held) :
    Told ex start ((w, step) :: h) (w.take ex step) where
  dirty_eq := by simp [hheld, modifiedSince, hstores, hmodifies, ht.dirty_eq]
  entity_eq hclean := by
    rw [hheld] at hclean ⊢
    simp [lastStored, hstores, ht.entity_eq hclean]

/-- An update keeps what the history tells, in each of the four ways it can go. -/
theorem update (ht : Told ex start h w) :
    Told ex start ((w, .update) :: h) (w.take ex .update) := by
  have hheld : (w.take ex .update).held = (w.updated ex).2 := rfl
  rcases update_cases ex w with ⟨-, hupdated, hcalls⟩ | ⟨-, e, -, hupdated, hcalls⟩ |
    ⟨-, m, stmt, e, -, hupdated, hcalls⟩ | ⟨-, m, stmt, n, -, hupdated, hcalls⟩
  · exact ht.of_unchanged (by simp [stores, hcalls]) rfl (by rw [hheld, hupdated])
  · exact ht.of_unchanged (by simp [stores, hcalls]) rfl (by rw [hheld, hupdated])
  · exact ht.of_unchanged (by simp [stores, hcalls]) rfl (by rw [hheld, hupdated])
  · exact .of_stores (by simp [stores, hcalls]) (by rw [hheld, hupdated, Tracked.markClean])

/-- One step keeps what the history tells. -/
theorem record (ht : Told ex start h w) (step : Step t σ) :
    Told ex start (record ex (h, w) step).1 (record ex (h, w) step).2 := by
  cases step with
  | modify change => exact ⟨rfl, fun hclean ↦ by cases hclean⟩
  | markClean => exact .of_stores rfl rfl
  | update => exact ht.update
  | elsewhere change => exact ht.of_unchanged rfl rfl rfl

end Told

theorem run_concat (ex : Executor σ) (start : Tracking t σ) (steps : List (Step t σ))
    (step : Step t σ) : run ex start (steps ++ [step]) = record ex (run ex start steps) step := by
  simp [run]

/-- What is held is what the history tells. By induction on the steps, from the last one back. -/
theorem told_run (hclean : start.held.dirty = false) (steps : List (Step t σ)) :
    Told ex start (run ex start steps).1 (run ex start steps).2 := by
  induction steps using List.reverseRecOn with
  | nil => exact .of_clean hclean
  | append_singleton steps step ih =>
    rw [run_concat]
    exact ih.record step

/-! ## What may be relied on -/

theorem Started.dirty_eq_false (h : Started ex w) : w.held.dirty = false := by
  cases h with
  | new e s => rfl
  | fetched h =>
    unfold Session.getTracked Session.Action.bind at h
    split at h
    · next found _ _ =>
      cases found with
      | none => cases h
      | some e =>
        cases h
        rfl
    · cases h

/-- A modified entity whose statement is built is updated by one call. -/
theorem exists_calls_eq (hdirty : w.held.dirty = true) {m : EntityMeta} {stmt : Statement}
    (hstmt : w.statement ex = .ok (m, stmt)) :
    ∃ failure, w.calls ex = [⟨.execute, stmt, w.session.options, failure⟩] := by
  rcases update_cases ex w with ⟨hclean, -⟩ | ⟨-, e, herror, -⟩ |
    ⟨-, m', stmt', e, hstmt', -, hcalls⟩ | ⟨-, m', stmt', n, hstmt', -, hcalls⟩
  · rw [hdirty] at hclean
    cases hclean
  · rw [hstmt] at herror
    cases herror
  · rw [hstmt] at hstmt'
    cases hstmt'
    exact ⟨_, hcalls⟩
  · rw [hstmt] at hstmt'
    cases hstmt'
    exact ⟨_, hcalls⟩

theorem calls_eq_nil (hnothing : w.held.dirty = false ∨ ∃ e, w.statement ex = .error e) :
    w.calls ex = [] := by
  rcases update_cases ex w with ⟨-, -, hcalls⟩ | ⟨-, e, -, -, hcalls⟩ |
    ⟨hdirty, m, stmt, e, hstmt, -⟩ | ⟨hdirty, m, stmt, n, hstmt, -⟩
  · exact hcalls
  · exact hcalls
  · simp [hdirty, hstmt] at hnothing
  · simp [hdirty, hstmt] at hnothing

theorem updated_of_error {e : Error} {held : Tracked t.Entity}
    (h : w.updated ex = (.error e, held)) : held = w.held ∧ held.dirty = true := by
  rcases update_cases ex w with ⟨-, hupdated, -⟩ | ⟨hdirty, e', -, hupdated, -⟩ |
    ⟨hdirty, m, stmt, e', -, hupdated, -⟩ | ⟨-, m, stmt, n, -, hupdated, -⟩
  · rw [h] at hupdated
    cases hupdated
  · rw [h] at hupdated
    cases hupdated
    exact ⟨rfl, hdirty⟩
  · rw [h] at hupdated
    cases hupdated
    exact ⟨rfl, hdirty⟩
  · rw [h] at hupdated
    cases hupdated

/-- What may be relied on in a tracked entity after a run with this history. -/
structure KeepsTrack (ex : Executor σ) (start : Tracking t σ) (h : History t σ)
    (w : Tracking t σ) : Prop where
  clean : w.held.dirty = false → w.held.entity = lastStored ex start h
  dirty_iff : w.held.dirty = true ↔ modifiedSince ex h = true
  asks : w.held.dirty = true → ∀ m stmt, w.statement ex = .ok (m, stmt) →
    ∃ failure, w.calls ex = [⟨.execute, stmt, w.session.options, failure⟩]
  asks_nothing : (w.held.dirty = false ∨ ∃ e, w.statement ex = .error e) → w.calls ex = []
  failed : ∀ e held, w.updated ex = (.error e, held) → held = w.held ∧ held.dirty = true
  /-- After an update that failed, the next asks again, in whatever session that is. -/
  asks_again : ∀ e held, w.updated ex = (.error e, held) → ∀ s m stmt,
    statement ex ⟨held, s⟩ = .ok (m, stmt) →
      ∃ failure, calls ex ⟨held, s⟩ = [⟨.execute, stmt, s.options, failure⟩]

/-- Whatever is done with a tracked entity, no modification is lost. -/
theorem run_keepsTrack (ex : Executor σ) {start : Tracking t σ} (hstart : Started ex start)
    (steps : List (Step t σ)) :
    KeepsTrack ex start (run ex start steps).1 (run ex start steps).2 where
  clean := (told_run hstart.dirty_eq_false steps).entity_eq
  dirty_iff := by rw [(told_run hstart.dirty_eq_false steps).dirty_eq]
  asks hdirty _ _ hstmt := exists_calls_eq hdirty hstmt
  asks_nothing := calls_eq_nil
  failed _ _ h := updated_of_error h
  asks_again _ _ h _ _ _ hstmt := exists_calls_eq (updated_of_error h).2 hstmt

end Tracking

deriving instance DecidableEq for Tracked

/-- An entity type with a key and a number. -/
def EntityType.note : EntityType :=
  ⟨"Note", none, [⟨"id", .required .int64, .key⟩, ⟨"size", .required .int32, .plain⟩]⟩

instance : DecidableEq EntityType.note.Entity :=
  inferInstanceAs (DecidableEq (Int64 × Int32 × Unit))

/-- An executor that has a note of size 10, and fails in its second call. -/
def Executor.busyOnce : Executor Nat where
  dialect := .sqlite
  execute := fun _ _ n ↦ (if n = 1 then .error (.timeout 5) else .ok 1, n + 1)
  query := fun _ _ n ↦ (.ok [⟨[("ID", .int 1), ("SIZE", .int 10)]⟩], n + 1)
  insert := fun _ _ n ↦ (.ok none, n + 1)

namespace Tracking

/-- A note that was fetched and modified. Its first update fails, and the second stores it. -/
theorem run_keepsTrack_note :
    let ex := Executor.busyOnce
    let fetch := Session.getTracked ex .note (.single (.int 1))
    let s : Session Nat := ⟨.empty .upper, ⟨none⟩, 0⟩
    let large : EntityType.note.Entity := ((1 : Int64), (20 : Int32), ())
    let start : Tracking .note Nat := ⟨.new ((1 : Int64), (10 : Int32), ()), (fetch s).2⟩
    let failed : List (Step .note Nat) := [.modify fun _ ↦ ((), large), .update]
    let stored := failed ++ [.update]
    fetch s = (.ok (some start.held), start.session) ∧
      KeepsTrack ex start (run ex start failed).1 (run ex start failed).2 ∧
      KeepsTrack ex start (run ex start stored).1 (run ex start stored).2 ∧
      (run ex start failed).2.held = ⟨large, true⟩ ∧
      (run ex start stored).2.held = ⟨large, false⟩ := by
  intro ex fetch s large start failed stored
  have hread : (fetch s).1 = .ok (some start.held) := by decide +kernel
  have hfetched : fetch s = (.ok (some start.held), start.session) := Prod.ext hread rfl
  exact ⟨hfetched, run_keepsTrack ex (.fetched hfetched) failed,
    run_keepsTrack ex (.fetched hfetched) stored, by decide +kernel, by decide +kernel⟩

end Tracking

end EntitySql
