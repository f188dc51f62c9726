import EntitySql.Filter.Reading
import Mathlib.Data.Set.Basic

/-!
# Captured values are no syntax

Reading a filter never looks into the values of its captures. Which names have a value decides
whether a text is read, and as what: an expression with a hole in the place of each captured value.
All captures of the same names fill the holes of the same expression, or are refused for the same
reason at the same place.
-/

namespace EntitySql.Filter

variable {names : Set String}

/-- Captures that have values for these names and for no others. -/
abbrev Captured (names : Set String) :=
  {captures : Captures // ∀ name, (captures.lookup name).isSome = true ↔ name ∈ names}

def Captured.value (captured : Captured names) (name : String) (bound : name ∈ names) : Value :=
  (captured.1.lookup name).get ((captured.2 name).2 bound)

/-- An expression in which captured values are left open. -/
inductive Skeleton (names : Set String)
  | row
  | const (value : Value)
  | hole (name : String) (bound : name ∈ names)
  | member (target : Skeleton names) (name : String)
  | compare (op : CompareOp) (left right : Skeleton names)
  | connect (op : Connective) (left right : Skeleton names)
  | not (inner : Skeleton names)
  | call (target : Skeleton names) (method : String) (args : List (Skeleton names))
  | arith (op : ArithOp) (left right : Skeleton names)

namespace Skeleton

mutual

def fill (captured : Captured names) : Skeleton names → Expr
  | .row => .row
  | .const v => .const v
  | .hole name bound => .const (captured.value name bound)
  | .member target name => .member (fill captured target) name
  | .compare op left right => .compare op (fill captured left) (fill captured right)
  | .connect op left right => .connect op (fill captured left) (fill captured right)
  | .not inner => .not (fill captured inner)
  | .call target method args => .call (fill captured target) method (fillAll captured args)
  | .arith op left right => .arith op (fill captured left) (fill captured right)

def fillAll (captured : Captured names) : List (Skeleton names) → List Expr
  | [] => []
  | k :: ks => fill captured k :: fillAll captured ks

end

theorem fillAll_concat (captured : Captured names) (ks : List (Skeleton names))
    (k : Skeleton names) :
    fillAll captured (ks ++ [k]) = fillAll captured ks ++ [fill captured k] := by
  induction ks with
  | nil => rfl
  | cons first ks ih => exact congrArg (fill captured first :: ·) ih

end Skeleton

/-! ## Replies that are filled -/

def Reply.map {α β : Type} (f : α → β) : Reply α → Reply β
  | .ok value rest => .ok (f value) rest
  | .miss stop => .miss stop
  | .halt stop => .halt stop

section Replies

variable {α β σ τ : Type} {F : Captured names → σ → α} {G : Captured names → τ → β}
  {reply : Captured names → Reply α}

/-- For all captures of the names, one reply with holes, filled with their values. -/
def Uniform (F : Captured names → σ → α) (reply : Captured names → Reply α) : Prop :=
  ∃ skeleton : Reply σ, ∀ captured, reply captured = skeleton.map (F captured)

theorem uniform_ok (F : Captured names → σ → α) (k : σ) (rest : List Char) :
    Uniform F fun captured ↦ .ok (F captured k) rest :=
  ⟨.ok k rest, fun _ ↦ rfl⟩

theorem uniform_miss (F : Captured names → σ → α) (stop : Stop) : Uniform F fun _ ↦ .miss stop :=
  ⟨.miss stop, fun _ ↦ rfl⟩

theorem uniform_halt (F : Captured names → σ → α) (stop : Stop) : Uniform F fun _ ↦ .halt stop :=
  ⟨.halt stop, fun _ ↦ rfl⟩

/-- A reply to which the captures do not matter. -/
theorem uniform_same (reply : Reply α) :
    Uniform (fun (_ : Captured names) a ↦ a) fun _ ↦ reply := by
  refine ⟨reply, fun _ ↦ ?_⟩
  cases reply <;> rfl

/-- A reader that goes on from a uniform reply is uniform, if it is so for every filling of the
holes. -/
theorem Uniform.bind {next : Captured names → α → Reader β} (h : Uniform F reply)
    (hnext : ∀ k rest, Uniform G fun captured ↦ next captured (F captured k) rest) :
    Uniform G fun captured ↦ (reply captured).bind (next captured) := by
  obtain ⟨skeleton, hreply⟩ := h
  simp only [hreply]
  cases skeleton with
  | ok k rest => exact hnext k rest
  | miss stop => exact uniform_miss G stop
  | halt stop => exact uniform_halt G stop

theorem Uniform.committed (h : Uniform F reply) :
    Uniform F fun captured ↦ (reply captured).committed := by
  obtain ⟨skeleton, hreply⟩ := h
  simp only [hreply]
  cases skeleton with
  | ok k rest => exact uniform_ok F k rest
  | miss stop => exact uniform_halt F stop
  | halt stop => exact uniform_halt F stop

end Replies

def UniformReader (reader : Captured names → Reader Expr) : Prop :=
  ∀ s, Uniform Skeleton.fill fun captured ↦ reader captured s

/-! ## The levels -/

section Levels

variable {row : List Char} {nested : Captured names → Reader Expr}

/-- A captured value is a hole where its name is bound, and for the other names the reply is the
same. -/
theorem uniform_capture (row s : List Char) :
    Uniform Skeleton.fill fun captured : Captured names ↦ capture ⟨row, captured.1⟩ s := by
  unfold capture
  cases Text.identifier? s with
  | none => exact uniform_halt _ _
  | some found =>
    obtain ⟨name, rest⟩ := found
    by_cases hbound : String.ofList name ∈ names
    · refine ⟨.ok (.hole (String.ofList name) hbound) rest, fun captured ↦ ?_⟩
      have hvalue : captured.1.lookup (String.ofList name) =
          some (captured.value (String.ofList name) hbound) := Option.eq_some_of_isSome _
      simp only [hvalue]
      rfl
    · refine ⟨.halt ⟨'$' :: s, .unboundVariable name⟩, fun captured ↦ ?_⟩
      have hnone : captured.1.lookup (String.ofList name) = none := by
        rw [← Option.not_isSome_iff_eq_none, captured.2]
        exact hbound
      simp only [hnone]
      rfl

theorem uniform_named (row name rest : List Char) : Uniform Skeleton.fill
    fun captured : Captured names ↦ .ok (named ⟨row, captured.1⟩ name) rest := by
  unfold named
  by_cases htrue : name = ['t', 'r', 'u', 'e']
  · simp only [if_pos htrue]
    exact uniform_ok Skeleton.fill (.const (.bool true)) rest
  by_cases hfalse : name = ['f', 'a', 'l', 's', 'e']
  · simp only [if_neg htrue, if_pos hfalse]
    exact uniform_ok Skeleton.fill (.const (.bool false)) rest
  by_cases hnull : name = ['n', 'u', 'l', 'l']
  · simp only [if_neg htrue, if_neg hfalse, if_pos hnull]
    exact uniform_ok Skeleton.fill (.const .null) rest
  by_cases hrow : name = row
  · simp only [if_neg htrue, if_neg hfalse, if_neg hnull, if_pos hrow]
    exact uniform_ok Skeleton.fill .row rest
  · simp only [if_neg htrue, if_neg hfalse, if_neg hnull, if_neg hrow]
    exact uniform_ok Skeleton.fill (.member .row (String.ofList name)) rest

/-- A literal has no hole. -/
theorem uniform_literal (reply : Reply Value) : Uniform Skeleton.fill
    fun _ : Captured names ↦ reply.bind fun v rest ↦ .ok (.const v) rest :=
  (uniform_same reply).bind fun v rest ↦ uniform_ok Skeleton.fill (.const v) rest

/-- Captures are looked up in primary expressions only; each level above is uniform because its
operands are. -/
theorem uniform_primary (hnested : UniformReader nested) :
    UniformReader fun captured ↦ primary ⟨row, captured.1⟩ (nested captured) := by
  intro s
  cases s with
  | nil => exact uniform_miss _ _
  | cons c s =>
    simp only [primary]
    split
    · refine (hnested (skip s)).bind fun k rest ↦ ?_
      exact (uniform_same (closing rest)).bind fun _ rest ↦ uniform_ok Skeleton.fill k rest
    · split
      · exact uniform_literal _
      · split
        · exact uniform_literal _
        · split
          · exact uniform_capture row s
          · split
            · exact uniform_named row _ _
            · exact uniform_miss _ _

theorem uniform_moreArguments (hnested : UniformReader nested) (count : Nat)
    (ks : List (Skeleton names)) (s : List Char) : Uniform Skeleton.fillAll fun captured ↦
      moreArguments (nested captured) count (Skeleton.fillAll captured ks) s := by
  induction count generalizing ks s with
  | zero => exact uniform_ok Skeleton.fillAll ks s
  | succ count ih =>
    simp only [moreArguments]
    split
    · next t _ =>
      obtain ⟨skeleton, hreply⟩ := hnested (skip t)
      simp only [hreply]
      cases skeleton with
      | ok k rest =>
        simp only [Reply.map, ← Skeleton.fillAll_concat]
        exact ih (ks ++ [k]) rest
      | miss stop => exact uniform_ok Skeleton.fillAll ks s
      | halt stop => exact uniform_halt _ stop
    · exact uniform_ok Skeleton.fillAll ks s

theorem uniform_arguments (hnested : UniformReader nested) (s : List Char) :
    Uniform Skeleton.fillAll fun captured ↦ arguments (nested captured) s := by
  unfold arguments
  apply Uniform.bind (F := Skeleton.fillAll)
  · obtain ⟨skeleton, hreply⟩ := hnested (skip s)
    simp only [hreply]
    cases skeleton with
    | ok k rest => exact uniform_moreArguments hnested rest.length [k] rest
    | miss stop => exact uniform_ok Skeleton.fillAll [] s
    | halt stop => exact uniform_halt _ stop
  · intro ks rest
    exact (uniform_same (closing rest)).bind fun _ rest ↦ uniform_ok Skeleton.fillAll ks rest

theorem uniform_members (hnested : UniformReader nested) (count : Nat) (k : Skeleton names)
    (s : List Char) : Uniform Skeleton.fill fun captured ↦
      members (nested captured) count (k.fill captured) s := by
  induction count generalizing k s with
  | zero => exact uniform_ok Skeleton.fill k s
  | succ count ih =>
    simp only [members]
    split
    · split
      · exact uniform_ok Skeleton.fill k _
      · next name rest _ =>
        split
        · exact (uniform_arguments hnested _).bind fun args rest ↦
            ih (.call k (String.ofList name) args) rest
        · exact ih (.member k (String.ofList name)) rest
    · exact uniform_ok Skeleton.fill k s

theorem uniform_accessed (hnested : UniformReader nested) :
    UniformReader fun captured ↦ accessed ⟨row, captured.1⟩ (nested captured) := fun s ↦
  (uniform_primary hnested s).bind fun k rest ↦ uniform_members hnested rest.length k rest

section Operators

variable {ω : Type} {operand : Captured names → Reader Expr}
  {sign? : List Char → Option (ω × List Char)} {join : ω → Expr → Expr → Expr}
  (joinHoles : ω → Skeleton names → Skeleton names → Skeleton names)

/-- Joining operands with holes and filling them is filling them and joining. -/
theorem uniform_moreOperands (hoperand : UniformReader operand)
    (hjoin : ∀ captured op left right, (joinHoles op left right).fill captured =
      join op (left.fill captured) (right.fill captured))
    (count : Nat) (k : Skeleton names) (s : List Char) : Uniform Skeleton.fill fun captured ↦
      moreOperands (operand captured) sign? join count (k.fill captured) s := by
  induction count generalizing k s with
  | zero => exact uniform_ok Skeleton.fill k s
  | succ count ih =>
    simp only [moreOperands]
    split
    · exact uniform_ok Skeleton.fill k s
    · next op t _ =>
      refine (hoperand (skip t)).committed.bind fun right rest ↦ ?_
      simp only [← hjoin]
      exact ih (joinHoles op k right) rest

theorem uniform_joined (hoperand : UniformReader operand)
    (hjoin : ∀ captured op left right, (joinHoles op left right).fill captured =
      join op (left.fill captured) (right.fill captured)) :
    UniformReader fun captured ↦ joined (operand captured) sign? join := fun s ↦
  (hoperand s).bind fun k rest ↦
    uniform_moreOperands joinHoles hoperand hjoin rest.length k rest

end Operators

theorem uniform_sum (hnested : UniformReader nested) :
    UniformReader fun captured ↦ sum ⟨row, captured.1⟩ (nested captured) :=
  uniform_joined .arith (uniform_accessed hnested) fun _ _ _ _ ↦ rfl

theorem uniform_comparison (hnested : UniformReader nested) :
    UniformReader fun captured ↦ comparison ⟨row, captured.1⟩ (nested captured) := by
  intro s
  refine (uniform_sum hnested s).bind fun left rest ↦ ?_
  split
  · exact uniform_ok Skeleton.fill left rest
  · next op t _ =>
    exact (uniform_sum hnested (skip t)).committed.bind fun right rest ↦
      uniform_ok Skeleton.fill (.compare op left right) rest

theorem uniform_negation (hnested : UniformReader nested) (count : Nat) :
    UniformReader fun captured ↦ negation ⟨row, captured.1⟩ (nested captured) count := by
  induction count with
  | zero => exact uniform_comparison hnested
  | succ count ih =>
    intro s
    simp only [negation]
    split
    · exact uniform_comparison hnested s
    · next t _ =>
      exact (ih (skip t)).committed.bind fun k rest ↦ uniform_ok Skeleton.fill (.not k) rest

theorem uniform_conjunction (hnested : UniformReader nested) :
    UniformReader fun captured ↦ conjunction ⟨row, captured.1⟩ (nested captured) :=
  uniform_joined (fun _ ↦ .connect .and)
    (fun s ↦ uniform_negation hnested s.length s) fun _ _ _ _ ↦ rfl

theorem uniform_disjunction (hnested : UniformReader nested) :
    UniformReader fun captured ↦ disjunction ⟨row, captured.1⟩ (nested captured) :=
  uniform_joined (fun _ ↦ .connect .or) (uniform_conjunction hnested)
    fun _ _ _ _ ↦ rfl

/-- By induction on the depth, since brackets read an expression anew. -/
theorem uniform_expression (row : List Char) (depth : Nat) :
    UniformReader fun captured : Captured names ↦ expression ⟨row, captured.1⟩ depth := by
  induction depth with
  | zero => exact fun s ↦ uniform_miss _ ⟨s, .unexpected⟩
  | succ depth ih => exact uniform_disjunction ih

end Levels

/-! ## Whole filters -/

theorem uniform_body (s : List Char) :
    Uniform Skeleton.fill fun captured : Captured names ↦ body captured.1 s := by
  unfold body
  obtain ⟨skeleton, hreply⟩ := @uniform_expression names (header s).1
    ((header s).2.length + 1) (skip (header s).2)
  simp only [hreply]
  cases skeleton with
  | ok k rest =>
    simp only [Reply.map]
    split
    · exact uniform_ok Skeleton.fill k []
    · exact uniform_miss _ _
  | miss stop => exact uniform_miss _ stop
  | halt stop => exact uniform_halt _ stop

/-- Two captures of the same names have a filter refused for the same reason at the same place, or
read as one expression with holes, each filling them with its own values. -/
theorem read_captured (text : String) (first second : Captured names) :
    (∃ position cause, read first.1 text = .error (.parse position cause) ∧
      read second.1 text = .error (.parse position cause)) ∨
    ∃ k : Skeleton names, read first.1 text = .ok (k.fill first) ∧
      read second.1 text = .ok (k.fill second) := by
  obtain ⟨skeleton, hreply⟩ := @uniform_body names text.toList
  unfold read
  simp only [hreply]
  cases skeleton with
  | ok k rest => exact .inr ⟨k, rfl, rfl⟩
  | miss stop => exact .inl ⟨_, _, rfl, rfl⟩
  | halt stop => exact .inl ⟨_, _, rfl, rfl⟩

/-- A captured value is a constant, also where its text is a filter. -/
example : read [("a", .string "1 or x")] "x.Id == $a" =
    .ok (.compare .eq (.column "Id") (.const (.string "1 or x"))) := by
  rfl

end EntitySql.Filter
