import EntitySql.Proofs.Sql.Bindable
import EntitySql.Proofs.Sql.ParamNumber
import EntitySql.Proofs.Text.LetterCase
import Mathlib.Data.List.Basic

/-!
# Fresh parameters

Every value that a filter binds gets an entry of its own, whatever the columns are called: columns
that become one name, or that end in a number themselves, are kept apart by the number behind the
last underscore, also where the case of letters is ignored. The entries are those of the predicates
that take a parameter, from left to right, and do not depend on how the condition is written.
-/

namespace EntitySql

open Text

variable {resolve : Resolver} {e p : Expr} {b b' : Bindings} {c : Condition} {column : String}
  {v : Value}

/-! ## Names in either case -/

namespace Bindings

theorem foldAscii_toDigits (n : Nat) : foldAscii (Nat.toDigits 10 n) = Nat.toDigits 10 n := by
  have hlower : ∀ c ∈ Nat.toDigits 10 n, c.toLower = id c := by
    intro c hc
    apply toLower_of_not_isUpper
    rw [← Bool.not_eq_true]
    intro hupper
    have halpha : c.isAlpha = true := (Bool.or_eq_true c.isUpper c.isLower).mpr (.inl hupper)
    exact not_isNameStart_of_isDigit (Number.isDigit_of_mem_toDigits hc)
      ((Bool.or_eq_true _ _).mpr (.inl halpha))
  calc
    foldAscii (Nat.toDigits 10 n) = (Nat.toDigits 10 n).map id := List.map_congr_left hlower
    _ = Nat.toDigits 10 n := List.map_id _

theorem foldAscii_paramName (column : String) (number : Nat) :
    foldAscii (paramName column number).toList =
      foldAscii (column.toList.map fun c ↦ if isAsciiWordPart c then c else '_') ++
        '_' :: Nat.toDigits 10 number := by
  have hdigits := foldAscii_toDigits number
  unfold foldAscii at hdigits ⊢
  rw [toList_paramName, List.map_append, List.map_cons, hdigits]
  rfl

/-- Parameters of different numbers have different names, also up to the case of letters. -/
theorem number_eq_of_sameIgnoringCase {column other : String} {m n : Nat}
    (h : sameIgnoringCase (paramName column m) (paramName other n) = true) : m = n := by
  have hlist := beq_iff_eq.1 h
  rw [foldAscii_paramName, foldAscii_paramName] at hlist
  exact eq_of_append_digits hlist

/-! ## Binding one value after another -/

/-- Each of these values is bound under a name that the bag does not have at the time. -/
def BindsNew (b : Bindings) : List (String × Value) → Prop
  | [] => True
  | (column, v) :: bound =>
    (b.bind column v).1 ∉ b.bag.names ∧ (b.bind column v).2.BindsNew bound

theorem Fresh.bindsNew (h : b.Fresh) (bound : List (String × Value)) : b.BindsNew bound := by
  induction bound generalizing b with
  | nil => trivial
  | cons entry bound ih => exact ⟨h.not_mem entry.1, ih (h.bind entry.1 entry.2)⟩

theorem numbered_apart (start : Nat) (bound : List (String × Value)) :
    (numbered start bound).Pairwise fun entry other ↦
      sameIgnoringCase entry.1 other.1 = false := by
  have hnumbers : (bound.zipIdx start).Pairwise fun entry other ↦ entry.2 ≠ other.2 := by
    apply List.pairwise_map.1
    rw [List.zipIdx_map_snd]
    exact List.nodup_range'
  apply List.pairwise_map.2
  apply hnumbers.imp
  intro entry other hne
  rw [← Bool.not_eq_true]
  exact fun hsame ↦ hne (number_eq_of_sameIgnoringCase hsame)

end Bindings

/-- The bag has one entry for each of these columns with their values, in this order. The name of an
entry is the column, with an underscore for each character that is no letter or digit of ASCII, then
an underscore and the number of the entry; no two names are the same up to the case of letters. -/
structure ParamBag.Lists (bag : ParamBag) (bound : List (String × Value)) : Prop where
  size : bag.size = bound.length
  entry : ∀ (i : Nat) (column : String) (v : Value), bound[i]? = some (column, v) →
    bag.entries[i]? =
      some (String.ofList (column.toList.map fun c ↦ if c.isAlphanum || c == '_' then c else '_') ++
        "_" ++ toString i, v)
  apart : bag.names.Pairwise fun name other ↦ sameIgnoringCase name other = false

theorem Bindings.lists_bindAll (bound : List (String × Value)) :
    (empty.bindAll bound).bag.Lists bound := by
  have hentries : (empty.bindAll bound).bag.entries = numbered 0 bound :=
    (binds_bindAll fresh_empty bound).entries
  constructor
  · rw [ParamBag.size, hentries]
    simp [numbered]
  · intro i column v h
    rw [hentries, numbered, List.getElem?_map, List.getElem?_zipIdx, h, Nat.zero_add]
    rfl
  · rw [ParamBag.names, hentries]
    exact List.pairwise_map.2 (numbered_apart 0 bound)

/-! ## Predicates that take a parameter -/

namespace Expr

open Lowering

/-- A predicate that takes a value as a parameter of a column: a comparison of the column with a
closed expression, on either side, unless its value is null, or a string method of the column. -/
inductive TakesParam (resolve : Resolver) : Expr → String → Value → Prop
  | compared {op : CompareOp} {left right : Expr} {column : String} {v : Value} :
    Compared resolve left right column v → v.isNull = false →
      TakesParam resolve (.compare op left right) column v
  | matched {property column method : String} {m : StringMethod} {arg : Expr} {v : Value} :
    StringMethod.ofName? method = some m → resolve property = .ok column →
      arg.isClosed = true → arg.evaluate = .ok v →
        TakesParam resolve (.call (.column property) method [arg]) column v

theorem TakesParam.bound (h : p.TakesParam resolve column v) :
    p.bound resolve = [(column, v)] := by
  cases h with
  | compared hcompared hv =>
    rw [hcompared.bound, hv]
    rfl
  | matched hm hcolumn hclosed hv =>
    rw [Expr.bound, operand_column hcolumn, hv]

def taken? (resolve : Resolver) (p : Expr) : Option (String × Value) := (p.bound resolve).head?

theorem TakesParam.taken? (h : p.TakesParam resolve column v) :
    p.taken? resolve = some (column, v) := by
  rw [Expr.taken?, h.bound]
  rfl

/-- What a filter binds is bound by its predicates. -/
theorem bound_eq_flatMap (resolve : Resolver) (e : Expr) :
    e.bound resolve = e.predicates.flatMap (Expr.bound resolve) := by
  induction e using predicates.induct with
  | case1 op left right ihl ihr =>
    rw [Expr.bound, predicates, List.flatMap_append, ihl, ihr]
  | case2 inner ih => exact ih
  | case3 e hconnect hnot =>
    rw [predicates]
    · simp
    all_goals assumption

end Expr

namespace Lowering

/-- The predicates of a lowered filter are lowered themselves. -/
theorem Lowered.of_mem_predicates (h : Lowered resolve e b c b') (hp : p ∈ e.predicates) :
    ∃ b₁ c₁ b₂, Lowered resolve p b₁ c₁ b₂ := by
  induction e using Expr.predicates.induct generalizing b c b' with
  | case1 op left right ihl ihr =>
    cases h with
    | always b hleaf _ _ => cases hleaf
    | connect hl hr => exact (List.mem_append.1 hp).elim (ihl hl) (ihr hr)
  | case2 inner ih =>
    cases h with
    | always b hleaf _ _ => cases hleaf
    | not hinner => exact ih hinner hp
  | case3 e hconnect hnot =>
    rw [Expr.predicates, List.mem_singleton] at hp
    · rw [hp]
      exact ⟨b, c, b', h⟩
    all_goals assumption

/-- A predicate of a lowered filter takes a parameter or binds nothing. -/
theorem Lowered.takesParam_or (h : Lowered resolve e b c b') (hp : p ∈ e.predicates) :
    (∃ column v, p.TakesParam resolve column v) ∨ p.bound resolve = [] := by
  have hsingle := Expr.isCompound_of_mem_predicates hp
  obtain ⟨b₁, c₁, b₂, hlowered⟩ := h.of_mem_predicates hp
  cases hlowered with
  | null b hcompared =>
    rw [hcompared.bound]
    exact .inr rfl
  | value b hcompared hv => exact .inl ⟨_, _, .compared hcompared hv⟩
  | columns b hl hr =>
    rw [Expr.bound, operand_column hl, operand_column hr]
    exact .inr rfl
  | like b hm hclosed hv hcolumn => exact .inl ⟨_, _, .matched hm hcolumn hclosed hv⟩
  | flag b _ => exact .inr rfl
  | always b hleaf _ _ => exact .inr (bound_of_not_isPredicate hleaf)
  | not _ => cases hsingle
  | connect _ _ => cases hsingle

theorem Lowered.takesParam_call {target : Expr} {method : String} {args : List Expr}
    (h : Lowered resolve (.call target method args) b c b') :
    ∃ column v, (Expr.call target method args).TakesParam resolve column v := by
  cases h with
  | like b hm hclosed hv hcolumn => exact ⟨_, _, .matched hm hcolumn hclosed hv⟩
  | always b hleaf _ _ => cases hleaf

theorem Lowered.taken?_eq_some_iff (h : Lowered resolve e b c b') (hp : p ∈ e.predicates) :
    p.taken? resolve = some (column, v) ↔ p.TakesParam resolve column v := by
  constructor
  · intro htaken
    rcases h.takesParam_or hp with ⟨column', v', htakes⟩ | hnone
    · rw [htakes.taken?] at htaken
      cases htaken
      exact htakes
    · rw [Expr.taken?, hnone] at htaken
      cases htaken
  · exact Expr.TakesParam.taken?

theorem Lowered.isSome_taken? {target : Expr} {method : String} {args : List Expr}
    (h : Lowered resolve e b c b') (hp : .call target method args ∈ e.predicates) :
    ((Expr.call target method args).taken? resolve).isSome = true := by
  obtain ⟨b₁, c₁, b₂, hlowered⟩ := h.of_mem_predicates hp
  obtain ⟨column, v, htakes⟩ := hlowered.takesParam_call
  rw [htakes.taken?]
  rfl

/-- A lowered filter binds what its predicates take. -/
theorem Lowered.bound_eq_filterMap (h : Lowered resolve e b c b') :
    e.bound resolve = e.predicates.filterMap (Expr.taken? resolve) := by
  rw [Expr.bound_eq_flatMap, List.filterMap_eq_flatMap_toList]
  apply List.flatMap_congr
  intro p hp
  rcases h.takesParam_or hp with ⟨column, v, htakes⟩ | hnone
  · rw [htakes.bound, htakes.taken?]
    rfl
  · rw [Expr.taken?, hnone]
    rfl

end Lowering

/-! ## Lowered filters -/

/-- A filter as a fragment of SQL, for any way to write conditions, of which a dialect is one. -/
def Expr.lowerWith (e : Expr) (resolve : Resolver) (write : Condition → String) :
    Except Error Fragment := do
  let (c, b) ← Lowering.condition resolve e .empty
  return ⟨write c, b.bag⟩

/-- However conditions are written, a lowered filter binds the values that its predicates take, from
left to right, each under a new name: nothing that was bound is replaced, and the bag has an entry
for each of them. -/
theorem lowered_params_are_fresh (e : Expr) (resolve : Resolver) :
    (∀ dialect, e.lower resolve dialect =
      e.lowerWith resolve (Condition.render dialect.style)) ∧
    ∀ write f, e.lowerWith resolve write = .ok f →
      (∀ p ∈ e.predicates, ∀ column v,
        p.taken? resolve = some (column, v) ↔ p.TakesParam resolve column v) ∧
      (∀ target method args, .call target method args ∈ e.predicates →
        ((Expr.call target method args).taken? resolve).isSome) ∧
      (∃ c, Lowering.condition resolve e .empty =
        .ok (c, Bindings.empty.bindAll (e.predicates.filterMap (Expr.taken? resolve)))) ∧
      Bindings.empty.BindsNew (e.predicates.filterMap (Expr.taken? resolve)) ∧
      f.params.Lists (e.predicates.filterMap (Expr.taken? resolve)) := by
  refine ⟨fun dialect ↦ rfl, fun write f hf ↦ ?_⟩
  unfold Expr.lowerWith at hf
  obtain ⟨⟨c, b⟩, hcondition, hf⟩ := bind_eq_ok.1 hf
  cases hf
  have hlowered := Lowering.lowered_of_condition e hcondition
  have hbindings : b = Bindings.empty.bindAll (e.predicates.filterMap (Expr.taken? resolve)) := by
    rw [← hlowered.bound_eq_filterMap]
    exact hlowered.eq_bindAll
  refine ⟨fun p hp column v ↦ hlowered.taken?_eq_some_iff hp,
    fun target method args hp ↦ hlowered.isSome_taken? hp, ⟨c, ?_⟩,
    Bindings.fresh_empty.bindsNew _, ?_⟩
  · rw [← hbindings]
    exact hcondition
  · change b.bag.Lists _
    rw [hbindings]
    exact Bindings.lists_bindAll _

/-- Two columns that end in a number and have one name up to the case of letters, once what is not
of ASCII is replaced; a null among the comparisons takes no parameter. -/
theorem lowered_params_are_fresh_colliding :
    let resolve : Resolver := fun p ↦ .ok (if p = "Size" then "Größe_1" else "gR__E_1")
    let matched : Expr := .call (.column "Name") "Contains" [.const (.string "a")]
    let e : Expr := .connect .or
      (.not (.connect .and (.compare .eq (.column "Size") (.const (.int 3)))
        (.compare .ne (.const .null) (.column "Size"))))
      (.connect .and matched
        (.compare .lt (.arith .add (.const (.int 1)) (.const (.int 2))) (.column "Name")))
    let bound := [("Größe_1", .int 3), ("gR__E_1", .string "a"), ("gR__E_1", .int 3)]
    matched ∈ e.predicates ∧ matched.TakesParam resolve "gR__E_1" (.string "a") ∧
      ∃ f, e.lowerWith resolve (Condition.render Dialect.db2.style) = .ok f ∧
        f.params.names = ["Gr__e_1_0", "gR__E_1_1", "gR__E_1_2"] ∧
        Bindings.empty.BindsNew bound ∧ f.params.Lists bound := by
  intro resolve matched e bound
  have hmem : matched ∈ e.predicates := by simp [e, matched, Expr.predicates]
  have hlower : e.lowerWith resolve (Condition.render Dialect.db2.style) = .ok ⟨_, _⟩ := rfl
  obtain ⟨htakes, -, -, hnew, hlists⟩ := (lowered_params_are_fresh e resolve).2 _ _ hlower
  exact ⟨hmem, (htakes matched hmem _ _).1 rfl, _, hlower, by decide +kernel, hnew, hlists⟩

end EntitySql
