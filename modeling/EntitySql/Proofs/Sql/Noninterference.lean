import EntitySql.Proofs.Filter.Closed
import EntitySql.Proofs.Sql.Marker
import EntitySql.Sql.Lowering

/-!
# Values and the text of a statement

Two filters that differ only in the constants that stand beside a column are lowered to the same
text, with parameters of the same names, and binding either statement gives the same text again.
What decides the text is which parameters are null, and a constant that is not null stays so
whatever takes its place.
-/

namespace EntitySql

/-! ## Constants in the place of constants -/

/-- A value that a comparison turns into a parameter: neither null nor a record. -/
def Value.isScalar : Value → Bool
  | .null => false
  | .record _ => false
  | _ => true

theorem Value.isNull_of_isScalar {v : Value} (h : v.isScalar = true) : v.isNull = false := by
  cases v <;> first | rfl | cases h

namespace Expr

mutual

/-- The second expression is the first with other constants in some of the places where a constant
is compared with a column or is the argument of a string method of a column. -/
inductive Refilled : Expr → Expr → Prop
  | row : Refilled .row .row
  | const (v : Value) : Refilled (.const v) (.const v)
  | member {target target' : Expr} (name : String) :
    Refilled target target' → Refilled (.member target name) (.member target' name)
  | compare {left left' right right' : Expr} (op : CompareOp) :
    Refilled left left' → Refilled right right' →
      Refilled (.compare op left right) (.compare op left' right')
  | connect {left left' right right' : Expr} (op : Connective) :
    Refilled left left' → Refilled right right' →
      Refilled (.connect op left right) (.connect op left' right')
  | not {inner inner' : Expr} : Refilled inner inner' → Refilled (.not inner) (.not inner')
  | call {target target' : Expr} {args args' : List Expr} (method : String) :
    Refilled target target' → RefilledAll args args' →
      Refilled (.call target method args) (.call target' method args')
  | arith {left left' right right' : Expr} (op : ArithOp) :
    Refilled left left' → Refilled right right' →
      Refilled (.arith op left right) (.arith op left' right')
  | constRight {v w : Value} (op : CompareOp) (property : String) :
    v.isScalar = true → w.isScalar = true →
      Refilled (.compare op (.column property) (.const v))
        (.compare op (.column property) (.const w))
  | constLeft {v w : Value} (op : CompareOp) (property : String) :
    v.isScalar = true → w.isScalar = true →
      Refilled (.compare op (.const v) (.column property))
        (.compare op (.const w) (.column property))
  | argument {v w : Value} {m : StringMethod} (method property : String) :
    StringMethod.ofName? method = some m → v.isScalar = true → w.isScalar = true →
      Refilled (.call (.column property) method [.const v])
        (.call (.column property) method [.const w])

inductive RefilledAll : List Expr → List Expr → Prop
  | nil : RefilledAll [] []
  | cons {e e' : Expr} {es es' : List Expr} :
    Refilled e e' → RefilledAll es es' → RefilledAll (e :: es) (e' :: es')

end

/-- Two parts are the same, or else the whole is open with one of them. -/
theorem same_or_open {α β : Type} {a a' : α} {b b' : β} {p p' q q' : Bool}
    (ha : a = a' ∨ (p = false ∧ p' = false)) (hb : b = b' ∨ (q = false ∧ q' = false)) :
    (a = a' ∧ b = b') ∨ ((p && q) = false ∧ (p' && q') = false) := by
  rcases ha with rfl | ⟨hp, hp'⟩
  · rcases hb with rfl | ⟨hq, hq'⟩
    · exact .inl ⟨rfl, rfl⟩
    · exact .inr ⟨by simp [hq], by simp [hq']⟩
  · exact .inr ⟨by simp [hp], by simp [hp']⟩

mutual

/-- A constant that was replaced stands beside a column, so nothing around it is closed. -/
theorem Refilled.eq_or_open : ∀ {e e' : Expr}, Refilled e e' →
    e = e' ∨ (e.isClosed = false ∧ e'.isClosed = false)
  | _, _, .row => .inl rfl
  | _, _, .const _ => .inl rfl
  | _, _, .member name h => by
    rcases h.eq_or_open with rfl | hopen
    · exact .inl rfl
    · exact .inr (by simpa only [isClosed] using hopen)
  | _, _, .compare op hl hr => by
    rcases same_or_open hl.eq_or_open hr.eq_or_open with ⟨rfl, rfl⟩ | hopen
    · exact .inl rfl
    · exact .inr (by simpa only [isClosed] using hopen)
  | _, _, .connect op hl hr => by
    rcases same_or_open hl.eq_or_open hr.eq_or_open with ⟨rfl, rfl⟩ | hopen
    · exact .inl rfl
    · exact .inr (by simpa only [isClosed] using hopen)
  | _, _, .not h => by
    rcases h.eq_or_open with rfl | hopen
    · exact .inl rfl
    · exact .inr (by simpa only [isClosed] using hopen)
  | _, _, .call method ht ha => by
    rcases same_or_open ht.eq_or_open ha.eq_or_open with ⟨rfl, rfl⟩ | hopen
    · exact .inl rfl
    · exact .inr (by simpa only [isClosed] using hopen)
  | _, _, .arith op hl hr => by
    rcases same_or_open hl.eq_or_open hr.eq_or_open with ⟨rfl, rfl⟩ | hopen
    · exact .inl rfl
    · exact .inr (by simpa only [isClosed] using hopen)
  | _, _, .constRight _ _ _ _ => .inr ⟨rfl, rfl⟩
  | _, _, .constLeft _ _ _ _ => .inr ⟨rfl, rfl⟩
  | _, _, .argument _ _ _ _ _ => .inr ⟨rfl, rfl⟩

theorem RefilledAll.eq_or_open : ∀ {es es' : List Expr}, RefilledAll es es' →
    es = es' ∨ (allClosed es = false ∧ allClosed es' = false)
  | _, _, .nil => .inl rfl
  | _, _, .cons h hs => by
    rcases same_or_open h.eq_or_open hs.eq_or_open with ⟨rfl, rfl⟩ | hopen
    · exact .inl rfl
    · exact .inr (by simpa only [allClosed] using hopen)

end

theorem Refilled.column?_eq {e e' : Expr} (h : Refilled e e') : e.column? = e'.column? := by
  cases h with
  | member name h => cases h <;> rfl
  | _ => rfl

end Expr

/-! ## Bags of the same shape -/

def ParamBag.shape (bag : ParamBag) : List (String × Bool) :=
  bag.entries.map fun entry ↦ (entry.1, entry.2.isNull)

theorem ParamBag.names_of_shape {bag bag' : ParamBag} (h : bag.shape = bag'.shape) :
    bag.names = bag'.names := by
  have hnames := congrArg (List.map Prod.fst) h
  simpa [shape, names, Function.comp_def] using hnames

theorem ParamBag.shape_insert {bag bag' : ParamBag} (h : bag.shape = bag'.shape) (name : String)
    {v w : Value} (hnull : v.isNull = w.isNull) :
    (bag.insert name v).shape = (bag'.insert name w).shape := by
  obtain ⟨entries⟩ := bag
  obtain ⟨entries'⟩ := bag'
  simp only [shape, insert] at h ⊢
  induction entries generalizing entries' with
  | nil =>
    obtain rfl : entries' = [] := by simpa using h.symm
    simp [bindIn, hnull]
  | cons entry entries ih =>
    cases entries' with
    | nil => simp at h
    | cons entry' entries' =>
      obtain ⟨other, old⟩ := entry
      obtain ⟨other', old'⟩ := entry'
      simp only [List.map_cons, List.cons.injEq, Prod.mk.injEq] at h
      obtain ⟨⟨rfl, hold⟩, hrest⟩ := h
      by_cases hname : other = name
      · simp [bindIn, hname, hnull, hrest]
      · simp [bindIn, hname, hold, ih entries' hrest]

/-- Bindings that the same steps could have led to, save for the values that are not null. -/
structure Bindings.Level (b b' : Bindings) : Prop where
  shape : b.bag.shape = b'.bag.shape
  next : b.next = b'.next

theorem Bindings.Level.bind {b b' : Bindings} (h : b.Level b') (column : String) {v w : Value}
    (hnull : v.isNull = w.isNull) :
    (b.bind column v).1 = (b'.bind column w).1 ∧
      (b.bind column v).2.Level (b'.bind column w).2 := by
  refine ⟨?_, ?_, ?_⟩
  · simp [Bindings.bind, h.next]
  · simp [Bindings.bind, h.next, ParamBag.shape_insert h.shape _ hnull]
  · simp [Bindings.bind, h.next]

/-! ## Lowering two filters -/

namespace Lowering

variable {resolve : Resolver} {b b' : Bindings}

def SameOperand : Operand → Operand → Prop
  | .column column, .column column' => column = column'
  | .value v, .value w => v = w ∨ (v.isScalar = true ∧ w.isScalar = true)
  | _, _ => False

/-- The same condition, reached with bindings that are level. -/
def SameCondition (p q : Condition × Bindings) : Prop := p.1 = q.1 ∧ p.2.Level q.2

theorem SameOperand.refl : ∀ o : Operand, SameOperand o o
  | .column _ => rfl
  | .value _ => .inl rfl

theorem operand_alike_self (e : Expr) :
    Alike SameOperand (operand resolve e) (operand resolve e) := by
  cases operand resolve e with
  | ok o => exact SameOperand.refl o
  | error e => trivial

theorem operand_alike {e e' : Expr} (h : e.Refilled e') :
    Alike SameOperand (operand resolve e) (operand resolve e') := by
  rcases h.eq_or_open with rfl | ⟨hopen, hopen'⟩
  · exact operand_alike_self e
  · unfold operand
    rw [h.column?_eq, hopen, hopen']
    cases e'.column? with
    | none => trivial
    | some property => exact (Alike.of_eq rfl).map fun column _ heq ↦ heq

theorem operand_const_alike {v w : Value} (hv : v.isScalar = true) (hw : w.isScalar = true) :
    Alike SameOperand (operand resolve (.const v)) (operand resolve (.const w)) := .inr ⟨hv, hw⟩

theorem compareWith_of_isScalar {v : Value} (column : String) (op : CompareOp) (b : Bindings)
    (h : v.isScalar = true) :
    compareWith column op v b = .ok (.compareParam column op (b.bind column v).1,
      (b.bind column v).2) := by
  cases v with
  | null => cases h
  | record fields => cases h
  | _ => rfl

theorem compareWith_scalar_alike (hb : b.Level b') (column : String) (op : CompareOp) {v w : Value}
    (hv : v.isScalar = true) (hw : w.isScalar = true) :
    Alike SameCondition (compareWith column op v b) (compareWith column op w b') := by
  rw [compareWith_of_isScalar column op b hv, compareWith_of_isScalar column op b' hw]
  have hnull : v.isNull = w.isNull := by
    rw [Value.isNull_of_isScalar hv, Value.isNull_of_isScalar hw]
  obtain ⟨hname, hlevel⟩ := hb.bind column hnull
  exact ⟨by rw [hname], hlevel⟩

theorem compareWith_alike (hb : b.Level b') (column : String) (op : CompareOp) {v w : Value}
    (h : SameOperand (.value v) (.value w)) :
    Alike SameCondition (compareWith column op v b) (compareWith column op w b') := by
  rcases h with rfl | ⟨hv, hw⟩
  · cases hv : v.isScalar with
    | true => exact compareWith_scalar_alike hb column op hv hv
    | false =>
      cases v with
      | null => cases op <;> exact ⟨rfl, hb⟩
      | record fields => trivial
      | _ => cases hv
  · exact compareWith_scalar_alike hb column op hv hw

/-- A comparison of operands that are alike becomes the same condition. -/
theorem comparison_alike {left left' right right' : Expr} (hb : b.Level b') (op : CompareOp)
    (hl : Alike SameOperand (operand resolve left) (operand resolve left'))
    (hr : Alike SameOperand (operand resolve right) (operand resolve right')) :
    Alike SameCondition (comparison resolve op left right b)
      (comparison resolve op left' right' b') := by
  refine hl.bind fun l l' hl ↦ hr.bind fun r r' hr ↦ ?_
  cases l with
  | column l =>
    cases l' with
    | value v => exact hl.elim
    | column l' =>
      obtain rfl : l = l' := hl
      cases r <;> cases r' <;> first | exact hr.elim | skip
      · next r r' =>
        obtain rfl : r = r' := hr
        exact ⟨rfl, hb⟩
      · exact compareWith_alike hb l op hr
  | value v =>
    cases l' with
    | column l' => exact hl.elim
    | value w =>
      cases r <;> cases r' <;> first | exact hr.elim | skip
      · next r r' =>
        obtain rfl : r = r' := hr
        exact compareWith_alike hb r op hl
      · trivial

/-- What a string method of a column becomes, once its argument has a value. -/
theorem like_alike (hb : b.Level b') (m : StringMethod) (property : String) {v w : Value}
    (hnull : v.isNull = w.isNull) :
    Alike SameCondition
      (do
        let column ← resolve property
        let (name, b) := b.bind column v
        return (Condition.like column m name, b))
      (do
        let column ← resolve property
        let (name, b) := b'.bind column w
        return (Condition.like column m name, b)) := by
  refine (Alike.of_eq rfl).bind ?_
  rintro column _ rfl
  obtain ⟨hname, hlevel⟩ := hb.bind column hnull
  exact ⟨congrArg (Condition.like column m) hname, hlevel⟩

theorem stringPredicate_alike {target target' : Expr} {args args' : List Expr} (hb : b.Level b')
    (method : String) (ht : target.Refilled target') (ha : Expr.RefilledAll args args') :
    Alike SameCondition (stringPredicate resolve target method args b)
      (stringPredicate resolve target' method args' b') := by
  unfold stringPredicate
  rw [ht.column?_eq]
  split
  · trivial
  next m hm =>
  split
  · trivial
  next property hproperty =>
  cases ha with
  | nil => trivial
  | @cons arg arg' rest rest' harg hrest =>
    cases hrest with
    | cons _ _ => trivial
    | nil =>
      dsimp only
      rcases harg.eq_or_open with rfl | ⟨hopen, hopen'⟩
      · cases arg.isClosed with
        | false => trivial
        | true =>
          refine (Alike.of_eq rfl : Alike (· = ·) arg.evaluate _).bind ?_
          rintro v _ rfl
          exact like_alike hb m property rfl
      · rw [hopen, hopen']
        trivial

theorem stringPredicate_const_alike (hb : b.Level b') (method property : String) {v w : Value}
    (hv : v.isScalar = true) (hw : w.isScalar = true) :
    Alike SameCondition (stringPredicate resolve (.column property) method [.const v] b)
      (stringPredicate resolve (.column property) method [.const w] b') := by
  unfold stringPredicate
  split
  · trivial
  next m hm =>
  exact like_alike hb m property (by rw [Value.isNull_of_isScalar hv, Value.isNull_of_isScalar hw])

theorem leaf_alike {e e' : Expr} (hb : b.Level b') (h : e.Refilled e') :
    Alike SameCondition (leaf resolve e b) (leaf resolve e' b') := by
  unfold leaf
  rw [h.column?_eq]
  split
  · exact (Alike.of_eq rfl).map fun column column' heq ↦ ⟨congrArg Condition.flag heq, hb⟩
  · rcases h.eq_or_open with rfl | ⟨hopen, hopen'⟩
    · split
      · exact (Alike.of_eq rfl).map fun c c' heq ↦ ⟨heq, hb⟩
      · trivial
    · simp only [hopen, hopen']
      trivial

/-- A filter and one with other constants become the same condition. By induction on what was
replaced. -/
theorem condition_alike {e e' : Expr} : e.Refilled e' → ∀ {b b' : Bindings}, b.Level b' →
    Alike SameCondition (condition resolve e b) (condition resolve e' b')
  | .row, _, _, hb => leaf_alike hb .row
  | .const v, _, _, hb => leaf_alike hb (.const v)
  | .member name h, _, _, hb => leaf_alike hb (.member name h)
  | .compare op hl hr, _, _, hb => comparison_alike hb op (operand_alike hl) (operand_alike hr)
  | .connect op hl hr, _, _, hb => by
    refine (condition_alike hl hb).bind ?_
    rintro ⟨l, b₁⟩ ⟨l', b₁'⟩ ⟨hleft, hb₁⟩
    refine (condition_alike hr hb₁).bind ?_
    rintro ⟨r, b₂⟩ ⟨r', b₂'⟩ ⟨hright, hb₂⟩
    obtain rfl : l = l' := hleft
    exact ⟨congrArg (Condition.connect op l) hright, hb₂⟩
  | .not h, _, _, hb => by
    refine (condition_alike h hb).bind ?_
    rintro ⟨c, b₁⟩ ⟨c', b₁'⟩ ⟨hc, hb₁⟩
    exact ⟨congrArg Condition.not hc, hb₁⟩
  | .call method ht ha, _, _, hb => stringPredicate_alike hb method ht ha
  | .arith op hl hr, _, _, hb => leaf_alike hb (.arith op hl hr)
  | .constRight op property hv hw, _, _, hb =>
    comparison_alike hb op (operand_alike_self _) (operand_const_alike hv hw)
  | .constLeft op property hv hw, _, _, hb =>
    comparison_alike hb op (operand_const_alike hv hw) (operand_alike_self _)
  | .argument method property _ hv hw, _, _, hb =>
    stringPredicate_const_alike hb method property hv hw

end Lowering

/-! ## Binding two statements -/

theorem lookup_map_snd {α β : Type} (f : α → β) (entries : List (String × α)) (name : String) :
    (entries.map fun entry ↦ (entry.1, f entry.2)).lookup name = (entries.lookup name).map f := by
  induction entries with
  | nil => rfl
  | cons entry entries ih =>
    obtain ⟨other, a⟩ := entry
    rw [List.map_cons, List.lookup_cons, List.lookup_cons]
    cases name == other with
    | true => rfl
    | false => exact ih

namespace Marker

theorem isNull_lookup? (bag : ParamBag) (name : String) :
    (lookup? bag name).map Value.isNull =
      (bag.shape.lookup name).or
        ((bag.shape.find? fun entry ↦ Text.sameIgnoringCase entry.1 name).map (·.2)) := by
  rw [lookup?, ParamBag.get?, ParamBag.shape, lookup_map_snd, List.find?_map, Option.map_or,
    Option.map_map, Option.map_map]
  rfl

/-- Bags of the same shape give every name a value or none, and the same names a null. -/
theorem lookup?_alike {bag bag' : ParamBag} (h : bag.shape = bag'.shape) (name : String) :
    (lookup? bag name = none ∧ lookup? bag' name = none) ∨
      ∃ v w, lookup? bag name = some v ∧ lookup? bag' name = some w ∧ v.isNull = w.isNull := by
  have hnull := isNull_lookup? bag name
  rw [h, ← isNull_lookup? bag' name] at hnull
  cases hv : lookup? bag name with
  | none =>
    cases hw : lookup? bag' name with
    | none => exact .inl ⟨rfl, rfl⟩
    | some w => simp [hv, hw] at hnull
  | some v =>
    cases hw : lookup? bag' name with
    | none => simp [hv, hw] at hnull
    | some w => exact .inr ⟨v, w, rfl, rfl, by simpa [hv, hw] using hnull⟩

/-- Both runs write the same text piece by piece, or stop at the same marker. -/
theorem fill_alike {bag bag' : ParamBag} (h : bag.shape = bag'.shape) (style : Style)
    (bound : Nat) (ps : List Piece) :
    Alike (fun p q ↦ p.1 = q.1) (fill style bag bound ps) (fill style bag' bound ps) := by
  induction ps generalizing bound with
  | nil => exact rfl
  | cons p ps ih =>
    cases p with
    | char c => exact (ih bound).map fun _ _ heq ↦ congrArg (c :: ·) heq
    | marker name =>
      rw [fill, fill]
      rcases lookup?_alike h name with ⟨hv, hw⟩ | ⟨v, w, hv, hw, hnull⟩
      · rw [hv, hw]
        trivial
      · rw [hv, hw]
        dsimp only
        rw [hnull]
        split
        · exact (ih bound).map fun _ _ heq ↦ congrArg ("NULL".toList ++ ·) heq
        · exact (ih (bound + 1)).map fun _ _ heq ↦
            congrArg ((style.placeholder (bound + 1)).toList ++ ·) heq

end Marker

/-- Nothing but values tells the fragments apart: they have the same text and parameters of the same
names, and every driver is given the same text for both or refuses both. -/
structure Fragment.SameText (f f' : Fragment) : Prop where
  sql : f.sql = f'.sql
  names : f.params.names = f'.params.names
  bound : ∀ driver : Dialect, Alike (fun b b' ↦ b.sql = b'.sql)
    (bindMarkers f.sql f.params driver) (bindMarkers f'.sql f'.params driver)

/-- Bags of one shape bind a text alike: the same text, or the same marker missing. -/
theorem bindMarkers_alike {bag bag' : ParamBag} (h : bag.shape = bag'.shape) (sql : String)
    (driver : Dialect) :
    Alike (fun b b' ↦ b.sql = b'.sql) (bindMarkers sql bag driver)
      (bindMarkers sql bag' driver) := by
  rw [bindMarkers, bindMarkers, Marker.scan_eq_fill, Marker.scan_eq_fill]
  refine (Marker.fill_alike h driver.style 0 _).bind ?_
  rintro ⟨text, values⟩ ⟨text', values'⟩ heq
  exact congrArg String.ofList heq

/-- Values never influence the text of a statement: a filter and the same filter with other
constants beside its columns are both refused, or become the same text. -/
theorem lower_text_of_refilled {e e' : Expr} (h : e.Refilled e') (resolve : Resolver)
    (dialect : Dialect) :
    Alike Fragment.SameText (e.lower resolve dialect) (e'.lower resolve dialect) := by
  refine (Lowering.condition_alike h ⟨rfl, rfl⟩).bind ?_
  rintro ⟨c, b⟩ ⟨c', b'⟩ ⟨hc, hlevel⟩
  obtain rfl : c = c' := hc
  exact ⟨rfl, ParamBag.names_of_shape hlevel.shape, bindMarkers_alike hlevel.shape _⟩

/-- Constants made of quotes, markers and statements change nothing, nor does their kind. -/
theorem lower_text_of_refilled_hostile :
    let plain : Expr := .connect .or
      (.call (.column "Group") "Contains" [.const (.string "b")])
      (.not (.compare .lte (.const (.int 7)) (.column "Id")))
    let hostile : Expr := .connect .or
      (.call (.column "Group") "Contains" [.const (.string "\x27; DROP TABLE T; --[@Id")])
      (.not (.compare .lte (.const (.string "@GROUP_0\x22")) (.column "Id")))
    plain.Refilled hostile ∧
      ∃ f f', plain.lower .ok .sqlServer = .ok f ∧ hostile.lower .ok .sqlServer = .ok f' ∧
        f.SameText f' := by
  intro plain hostile
  have h : plain.Refilled hostile :=
    .connect .or (.argument "Contains" "Group" rfl rfl rfl) (.not (.constLeft .lte "Id" rfl rfl))
  have hbuilt : (plain.lower .ok .sqlServer).toBool = true := by decide +kernel
  have hsame := lower_text_of_refilled h .ok .sqlServer
  refine ⟨h, ?_⟩
  cases hf : plain.lower .ok .sqlServer with
  | error e => simp [hf, Except.toBool] at hbuilt
  | ok f =>
    cases hf' : hostile.lower .ok .sqlServer with
    | error e =>
      rw [hf, hf'] at hsame
      exact hsame.elim
    | ok f' =>
      rw [hf, hf'] at hsame
      exact ⟨f, f', rfl, rfl, hsame⟩

end EntitySql
