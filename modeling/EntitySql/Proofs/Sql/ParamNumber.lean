import EntitySql.Proofs.Sql.Lowering

/-!
# Numbers of parameters

What a filter binds is known before it is lowered: a column with a value for each comparison of the
one with the other, unless the value is null, and for each string method, from left to right.
Lowering only numbers these, from the number that is next.
-/

namespace EntitySql

variable {resolve : Resolver} {e : Expr} {b b' : Bindings} {c : Condition}

namespace Lowering

def boundOperands : Operand → Operand → List (String × Value)
  | .column column, .value v => if v.isNull then [] else [(column, v)]
  | .value v, .column column => if v.isNull then [] else [(column, v)]
  | _, _ => []

end Lowering

open Lowering

/-- The values that a filter binds, each with its column, from left to right. -/
def Expr.bound (resolve : Resolver) : Expr → List (String × Value)
  | .compare _ left right =>
    match operand resolve left, operand resolve right with
    | .ok l, .ok r => boundOperands l r
    | _, _ => []
  | .connect _ left right => left.bound resolve ++ right.bound resolve
  | .not inner => inner.bound resolve
  | .call target _ [arg] =>
    match operand resolve target, arg.evaluate with
    | .ok (.column column), .ok v => [(column, v)]
    | _, _ => []
  | _ => []

namespace Bindings

def numbered (start : Nat) (bound : List (String × Value)) : List (String × Value) :=
  (bound.zipIdx start).map fun entry ↦ (paramName entry.1.1 entry.2, entry.1.2)

theorem numbered_append (start : Nat) (first second : List (String × Value)) :
    numbered start (first ++ second) =
      numbered start first ++ numbered (start + first.length) second := by
  rw [numbered, List.zipIdx_append, List.map_append]
  rfl

/-- The bag goes on with these values, under the numbers that are next. -/
structure Binds (b : Bindings) (bound : List (String × Value)) (b' : Bindings) : Prop where
  entries : b'.bag.entries = b.bag.entries ++ numbered b.next bound
  next : b'.next = b.next + bound.length

theorem Binds.nil (b : Bindings) : b.Binds [] b where
  entries := (List.append_nil _).symm
  next := rfl

theorem Binds.single (hb : b.Fresh) (column : String) (v : Value) :
    b.Binds [(column, v)] (b.bind column v).2 where
  entries := hb.bind_entries column v
  next := rfl

/-- Bindings in a row go on with the numbers. -/
theorem Binds.append {b₀ b₁ b₂ : Bindings} {first second : List (String × Value)}
    (hfirst : b₀.Binds first b₁) (hsecond : b₁.Binds second b₂) :
    b₀.Binds (first ++ second) b₂ where
  entries := by
    rw [hsecond.entries, hfirst.entries, hfirst.next, numbered_append, List.append_assoc]
  next := by rw [hsecond.next, hfirst.next, List.length_append, Nat.add_assoc]

def bindAll (b : Bindings) (bound : List (String × Value)) : Bindings :=
  bound.foldl (fun b entry ↦ (b.bind entry.1 entry.2).2) b

theorem bindAll_append (b : Bindings) (first second : List (String × Value)) :
    b.bindAll (first ++ second) = (b.bindAll first).bindAll second :=
  List.foldl_append

/-- Values bound one after the other are bound under their numbers. By induction on the values. -/
theorem binds_bindAll (hb : b.Fresh) (bound : List (String × Value)) :
    b.Binds bound (b.bindAll bound) := by
  induction bound generalizing b with
  | nil => exact .nil b
  | cons entry bound ih =>
    have hrest := ih (hb.bind entry.1 entry.2)
    exact (Binds.single hb entry.1 entry.2).append hrest

end Bindings

namespace Lowering

theorem Compared.bound {op : CompareOp} {left right : Expr} {column : String} {v : Value}
    (h : Compared resolve left right column v) :
    (Expr.compare op left right).bound resolve = if v.isNull then [] else [(column, v)] := by
  rw [Expr.bound]
  cases h with
  | left hcolumn hclosed hv =>
    rw [operand_column hcolumn, operand_of_evaluate hclosed hv]
    rfl
  | right hclosed hv hcolumn =>
    rw [operand_column hcolumn, operand_of_evaluate hclosed hv]
    rfl

theorem bound_of_not_isPredicate (h : e.isPredicate = false) : e.bound resolve = [] := by
  cases e <;> first | rfl | cases h

/-- Lowering a filter binds what the filter binds, one after another, and nothing else. -/
theorem Lowered.eq_bindAll (h : Lowered resolve e b c b') : b' = b.bindAll (e.bound resolve) := by
  induction h with
  | null b hcompared =>
    rw [hcompared.bound]
    rfl
  | value b hcompared hv =>
    rw [hcompared.bound, hv]
    rfl
  | columns b hl hr =>
    rw [Expr.bound, operand_column hl, operand_column hr]
    rfl
  | like b _ _ hv hcolumn =>
    rw [Expr.bound, operand_column hcolumn, hv]
    rfl
  | flag b _ => rfl
  | always b hleaf _ _ =>
    rw [bound_of_not_isPredicate hleaf]
    rfl
  | not _ ih => exact ih
  | connect _ _ ihl ihr => rw [ihr, ihl, Expr.bound, Bindings.bindAll_append]

/-- Lowering a filter numbers what the filter binds. -/
theorem Lowered.binds (h : Lowered resolve e b c b') (hb : b.Fresh) :
    b.Binds (e.bound resolve) b' := by
  rw [h.eq_bindAll]
  exact Bindings.binds_bindAll hb (e.bound resolve)

end Lowering

/-- The bag of a lowered filter has what the filter binds, numbered from 0. -/
theorem entries_of_lower {dialect : Dialect} {f : Fragment} (h : e.lower resolve dialect = .ok f) :
    f.params.entries = Bindings.numbered 0 (e.bound resolve) := by
  obtain ⟨c, b, hlowered, rfl⟩ := lowered_of_lower h
  exact (hlowered.binds Bindings.fresh_empty).entries

end EntitySql
