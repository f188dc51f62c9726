import EntitySql.Error

/-!
# Outcomes taken apart

A sequence of steps succeeds exactly when each of its steps does, and fails with the error of the
first that does not. Two runs of a sequence have outcomes alike where each step of the one and the
same step of the other do; where only the results of two runs that both succeed are compared, it is
enough to compare those of each step.
-/

namespace EntitySql

variable {ε α β γ δ : Type}

/-- A computation succeeds where its first step does and what follows succeeds too. -/
theorem bind_eq_ok {x : Except ε α} {f : α → Except ε β} {b : β} :
    x >>= f = .ok b ↔ ∃ a, x = .ok a ∧ f a = .ok b := by
  cases x with
  | ok a => simp [bind, Except.bind]
  | error e => simp [bind, Except.bind]

/-- A computation fails in its first step, or later with what that step gave. -/
theorem bind_eq_error {x : Except ε α} {f : α → Except ε β} {e : ε} :
    x >>= f = .error e ↔ x = .error e ∨ ∃ a, x = .ok a ∧ f a = .error e := by
  cases x with
  | ok a => simp [bind, Except.bind]
  | error e' => simp [bind, Except.bind]

theorem map_eq_ok {x : Except ε α} {f : α → β} {b : β} :
    x.map f = .ok b ↔ ∃ a, x = .ok a ∧ f a = b := by
  cases x with
  | ok a => simp [Except.map]
  | error e => simp [Except.map]

theorem map_eq_error {x : Except ε α} {f : α → β} {e : ε} :
    x.map f = .error e ↔ x = .error e := by
  cases x with
  | ok a => simp [Except.map]
  | error e' => simp [Except.map]

/-- A step that fails, or is followed by one that fails whatever it is given, leaves no result. -/
theorem exists_error_bind {x : Except ε α} {f : α → Except ε β}
    (h : (∃ e, x = .error e) ∨ ∀ a, ∃ e, f a = .error e) : ∃ e, x >>= f = .error e := by
  cases x with
  | error e => exact ⟨e, rfl⟩
  | ok a =>
    rcases h with ⟨e, he⟩ | h
    · cases he
    · exact h a

/-- Whether a result is a given success can be decided, whatever the errors are. -/
instance decidableEqOk [DecidableEq α] (x : Except ε α) (a : α) : Decidable (x = .ok a) :=
  match x with
  | .ok b => decidable_of_iff (b = a) (by rw [Except.ok.injEq])
  | .error _ => .isFalse nofun

theorem map_injective {f : α → β} (hf : Function.Injective f) :
    Function.Injective (Except.map f : Except ε α → Except ε β) := by
  intro x y h
  cases x with
  | ok a =>
    obtain ⟨b, rfl, hb⟩ := map_eq_ok.1 h.symm
    rw [hf hb]
  | error e =>
    cases y with
    | ok b => cases h
    | error e' =>
      cases h
      rfl

/-! ## The error of an outcome -/

def failure? : Except ε α → Option ε
  | .ok _ => none
  | .error error => some error

section Failure

variable {x : Except ε α} {error : ε}

/-- The failure of a result is the error it ends with. -/
theorem failure?_eq_some : failure? x = some error ↔ x = .error error := by
  cases x <;> simp [failure?]

theorem failure?_eq_none : failure? x = none ↔ ∃ a, x = .ok a := by
  cases x <;> simp [failure?]

theorem failure?_map (f : α → β) : failure? (x.map f) = failure? x := by
  cases x <;> rfl

/-- What comes after a step that succeeds fails as it does after any other success. -/
theorem failure?_bind {f : α → Except ε β} {later : Option ε}
    (h : ∀ a, failure? (f a) = later) : failure? (x >>= f) = (failure? x).or later := by
  cases x with
  | ok a => exact h a
  | error e => rfl

/-- A last step that never fails leaves the failure of what comes before. -/
theorem failure?_bind_last {f : α → Except ε β} (h : ∀ a, failure? (f a) = none) :
    failure? (x >>= f) = failure? x :=
  (failure?_bind h).trans Option.or_none

end Failure

/-! ## Outcomes of two runs -/

/-- Both runs fail, whatever their errors, or both succeed and their results are related. -/
def Alike (R : α → β → Prop) : Except ε α → Except ε β → Prop
  | .ok a, .ok b => R a b
  | .error _, .error _ => True
  | _, _ => False

namespace Alike

variable {R : α → β → Prop} {S : γ → δ → Prop} {x : Except ε α} {y : Except ε β}

theorem of_eq {x y : Except ε α} (h : x = y) : Alike (· = ·) x y := by
  cases x with
  | ok a =>
    cases h
    exact rfl
  | error e =>
    cases h
    exact trivial

/-- Runs that are alike step by step are alike as a whole. -/
theorem bind {f : α → Except ε γ} {g : β → Except ε δ} (h : Alike R x y)
    (hnext : ∀ a b, R a b → Alike S (f a) (g b)) : Alike S (x >>= f) (y >>= g) := by
  cases x with
  | ok a =>
    cases y with
    | ok b => exact hnext a b h
    | error e => exact h.elim
  | error e =>
    cases y with
    | ok b => exact h.elim
    | error e' => trivial

theorem map {f : α → γ} {g : β → δ} (h : Alike R x y) (hmap : ∀ a b, R a b → S (f a) (g b)) :
    Alike S (x.map f) (y.map g) := by
  cases x with
  | ok a =>
    cases y with
    | ok b => exact hmap a b h
    | error e => exact h.elim
  | error e =>
    cases y with
    | ok b => exact h.elim
    | error e' => trivial

end Alike

/-- Where both runs succeed, their results are related. -/
def WhereBoth (R : α → β → Prop) (x : Except ε α) (y : Except ε β) : Prop :=
  ∀ a b, x = .ok a → y = .ok b → R a b

namespace WhereBoth

variable {R : α → β → Prop} {S : γ → δ → Prop} {x : Except ε α} {y : Except ε β}

theorem ok {a : α} {b : β} (h : R a b) : WhereBoth R (.ok a : Except ε α) (.ok b) := by
  rintro _ _ ⟨⟩ ⟨⟩
  exact h

theorem of_eq {x y : Except ε α} {R : α → α → Prop} (h : x = y) (hrefl : ∀ a, R a a) :
    WhereBoth R x y := by
  subst h
  intro a b ha hb
  cases ha.symm.trans hb
  exact hrefl a

/-- Where both runs of the first step succeed, what follows is compared; elsewhere nothing is
asked. -/
theorem bind {f : α → Except ε γ} {g : β → Except ε δ} (h : WhereBoth R x y)
    (hnext : ∀ a b, R a b → WhereBoth S (f a) (g b)) : WhereBoth S (x >>= f) (y >>= g) := by
  intro c d hc hd
  obtain ⟨a, ha, hc⟩ := bind_eq_ok.1 hc
  obtain ⟨b, hb, hd⟩ := bind_eq_ok.1 hd
  exact hnext a b (h a b ha hb) c d hc hd

end WhereBoth

end EntitySql
