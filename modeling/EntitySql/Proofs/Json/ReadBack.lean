import EntitySql.Json.Expr
import EntitySql.Proofs.Filter.Closed
import EntitySql.Proofs.Json.Value

/-!
# Values and expressions survive JSON

An expression is what its JSON is read as, if its constants are: every kind of expression has a name
of its own, its parts are found by theirs, and reading a level costs as much nesting as the level
has. From the text of the JSON both values and expressions are read back.
-/

namespace EntitySql

open Json

/-! ## Operators -/

theorem CompareOp.operator?_tag (op : CompareOp) (depth : Nat) :
    Expr.operator? CompareOp.all CompareOp.tag depth (.string op.tag) = some op := by
  cases op <;> rfl

theorem Connective.operator?_tag (op : Connective) (depth : Nat) :
    Expr.operator? Connective.all Connective.tag depth (.string op.tag) = some op := by
  cases op <;> rfl

theorem ArithOp.operator?_tag (op : ArithOp) (depth : Nat) :
    Expr.operator? ArithOp.all ArithOp.tag depth (.string op.tag) = some op := by
  cases op <;> rfl

namespace Expr

variable {e target left right : Expr} {args : List Expr} {j k l : Json}

/-! ## The levels of an expression -/

theorem parts?_member (j k : Json) :
    parts? ["target", "name"] (.object [("target", j), ("name", k)]) = some [j, k] := rfl

theorem parts?_operation (j k l : Json) :
    parts? ["op", "left", "right"] (.object [("op", j), ("left", k), ("right", l)]) =
      some [j, k, l] := rfl

theorem parts?_call (j k l : Json) :
    parts? ["target", "method", "args"] (.object [("target", j), ("method", k), ("args", l)]) =
      some [j, k, l] := rfl

def operationFields (op : String) (left right : Json) : List (String × Json) :=
  [("op", .string op), ("left", left), ("right", right)]

/-- What is read of each kind of expression as it is written, with room for nesting below it. -/
structure Levels (room : Nat) : Prop where
  row : ofJson? room (.string "Row") = some .row
  const (content : Json) :
    ofJson? (room + 1) (.object [("Constant", content)]) = (Value.ofJson? room content).map .const
  not (content : Json) :
    ofJson? (room + 1) (.object [("Not", content)]) = (ofJson? room content).map .not
  member (target : Json) (name : String) :
    ofJson? (room + 2)
        (.object [("Member", .object [("target", target), ("name", .string name)])]) =
      (ofJson? room target).bind fun t ↦ some (.member t name)
  compare (op : CompareOp) (left right : Json) :
    ofJson? (room + 2) (.object [("Compare", .object (operationFields op.tag left right))]) =
      (ofJson? room left).bind fun l ↦ (ofJson? room right).bind fun r ↦ some (.compare op l r)
  connect (op : Connective) (left right : Json) :
    ofJson? (room + 2) (.object [("Logical", .object (operationFields op.tag left right))]) =
      (ofJson? room left).bind fun l ↦ (ofJson? room right).bind fun r ↦ some (.connect op l r)
  arith (op : ArithOp) (left right : Json) :
    ofJson? (room + 2) (.object [("Arith", .object (operationFields op.tag left right))]) =
      (ofJson? room left).bind fun l ↦ (ofJson? room right).bind fun r ↦ some (.arith op l r)
  call (target : Json) (method : String) (items : List Json) :
    ofJson? (room + 3) (.object [("Call", .object
        [("target", target), ("method", .string method), ("args", .array items)])]) =
      (ofJson? (room + 1) target).bind fun t ↦
        (items.mapM fun item ↦ ofJson? room item).bind fun args ↦ some (.call t method args)

/-- All that is asked of the reader itself: what follows only uses these equations. -/
theorem levels (room : Nat) : Levels room := by
  constructor
  case row =>
    rw [ofJson?]
    rfl
  case const =>
    intro content
    rw [ofJson?]
  case not =>
    intro content
    rw [ofJson?]
  case member =>
    intro target name
    rw [ofJson?]
    simp only [parts?_member, string?, Option.bind_eq_bind, Option.bind_some, Option.pure_def]
  case compare =>
    intro op left right
    rw [ofJson?]
    simp only [operationFields, parts?_operation, op.operator?_tag, Option.bind_eq_bind,
      Option.bind_some, Option.pure_def]
  case connect =>
    intro op left right
    rw [ofJson?]
    simp only [operationFields, parts?_operation, op.operator?_tag, Option.bind_eq_bind,
      Option.bind_some, Option.pure_def]
  case arith =>
    intro op left right
    rw [ofJson?]
    simp only [operationFields, parts?_operation, op.operator?_tag, Option.bind_eq_bind,
      Option.bind_some, Option.pure_def]
  case call =>
    intro target method items
    rw [ofJson?]
    simp only [parts?_call, string?, Option.bind_eq_bind, Option.bind_some, Option.pure_def]

/-- The name of a kind costs one level of nesting. -/
theorem tells_tagged {tag : String} {content : Json} (hregular : content.Regular)
    (hread : ∀ outer, content.nesting ≤ outer →
      ofJson? (outer + 1) (.object [(tag, content)]) = some e) :
    Tells ofJson? (.object [(tag, content)]) e := by
  refine ⟨.object (List.forall_mem_singleton.2 hregular), fun depth hdepth ↦ ?_⟩
  rw [nesting, nestingOfFields, nestingOfFields, Nat.max_zero] at hdepth
  obtain ⟨outer, rfl⟩ := Nat.exists_eq_add_of_le' (Nat.one_le_of_lt hdepth)
  exact hread outer (Nat.le_of_succ_le_succ hdepth)

/-- Parts by name cost another one. -/
theorem tells_parts {tag : String} {fields : List (String × Json)}
    (hregular : ∀ field ∈ fields, field.2.Regular)
    (hread : ∀ inner, nestingOfFields fields ≤ inner →
      ofJson? (inner + 2) (.object [(tag, .object fields)]) = some e) :
    Tells ofJson? (.object [(tag, .object fields)]) e := by
  refine tells_tagged (.object hregular) fun outer houter ↦ ?_
  rw [nesting] at houter
  obtain ⟨inner, rfl⟩ := Nat.exists_eq_add_of_le' (Nat.one_le_of_lt houter)
  exact hread inner (Nat.le_of_succ_le_succ houter)

theorem tells_row : Tells ofJson? (.string "Row") .row :=
  ⟨.string "Row", fun room _ ↦ (levels room).row⟩

theorem tells_const {v : Value} (h : Tells Value.ofJson? j v) :
    Tells ofJson? (.object [("Constant", j)]) (.const v) := by
  refine tells_tagged h.regular fun outer houter ↦ ?_
  rw [(levels outer).const, h.read outer houter]
  rfl

theorem tells_not (h : Tells ofJson? j e) : Tells ofJson? (.object [("Not", j)]) (.not e) := by
  refine tells_tagged h.regular fun outer houter ↦ ?_
  rw [(levels outer).not, h.read outer houter]
  rfl

theorem tells_member (name : String) (h : Tells ofJson? j target) :
    Tells ofJson? (.object [("Member", .object [("target", j), ("name", .string name)])])
      (.member target name) := by
  refine tells_parts ?_ fun inner hinner ↦ ?_
  · exact List.forall_mem_cons.2 ⟨h.regular, List.forall_mem_singleton.2 (.string name)⟩
  · rw [(levels inner).member, h.read inner (le_trans (le_max_left _ _) hinner)]
    rfl

/-- An operation between two expressions is told where it is made of what they are read as. -/
theorem tells_operation {tag op : String} {make : Expr → Expr → Expr}
    (hleft : Tells ofJson? k left) (hright : Tells ofJson? l right)
    (hread : ∀ room, ofJson? (room + 2) (.object [(tag, .object (operationFields op k l))]) =
      (ofJson? room k).bind fun left ↦ (ofJson? room l).bind fun right ↦ some (make left right)) :
    Tells ofJson? (.object [(tag, .object (operationFields op k l))]) (make left right) := by
  refine tells_parts ?_ fun inner hinner ↦ ?_
  · exact List.forall_mem_cons.2 ⟨.string op, List.forall_mem_cons.2
      ⟨hleft.regular, List.forall_mem_singleton.2 hright.regular⟩⟩
  · simp only [operationFields, nestingOfFields] at hinner
    rw [hread, hleft.read inner (by omega), hright.read inner (by omega)]
    rfl

theorem mapM_allToJson (h : ∀ arg ∈ args, Tells ofJson? arg.toJson arg) (depth : Nat)
    (hdepth : nestingOfItems (allToJson args) ≤ depth) :
    (allToJson args).mapM (fun j ↦ ofJson? depth j) = some args := by
  induction args with
  | nil => rfl
  | cons arg args ih =>
    obtain ⟨harg, hargs⟩ := List.forall_mem_cons.1 h
    rw [allToJson, nestingOfItems, max_le_iff] at hdepth
    rw [allToJson, List.mapM_cons, harg.read depth hdepth.1, ih hargs hdepth.2]
    rfl

theorem regular_allToJson (h : ∀ arg ∈ args, Tells ofJson? arg.toJson arg) :
    ∀ j ∈ allToJson args, j.Regular := by
  induction args with
  | nil => exact fun j hj ↦ absurd hj List.not_mem_nil
  | cons arg args ih =>
    obtain ⟨harg, hargs⟩ := List.forall_mem_cons.1 h
    exact List.forall_mem_cons.2 ⟨harg.regular, ih hargs⟩

theorem tells_call (method : String) (htarget : Tells ofJson? j target)
    (hargs : ∀ arg ∈ args, Tells ofJson? arg.toJson arg) :
    Tells ofJson? (.object [("Call", .object
        [("target", j), ("method", .string method), ("args", .array (allToJson args))])])
      (.call target method args) := by
  refine tells_parts ?_ fun inner hinner ↦ ?_
  · exact List.forall_mem_cons.2 ⟨htarget.regular, List.forall_mem_cons.2
      ⟨.string method, List.forall_mem_singleton.2 (.array (regular_allToJson hargs))⟩⟩
  · simp only [nestingOfFields, nesting] at hinner
    obtain ⟨below, rfl⟩ : ∃ below, inner = below + 1 := ⟨inner - 1, by omega⟩
    rw [(levels below).call, htarget.read (below + 1) (by omega),
      mapM_allToJson hargs below (by omega)]
    rfl

/-! ## Whole expressions -/

/-- The JSON of an expression tells it, if the JSON of each of its constants does. -/
theorem tells_toJson
    (h : e.Throughout fun part ↦ ∀ v, part = .const v → Tells Value.ofJson? v.toJson v) :
    Tells ofJson? e.toJson e := by
  induction e using induction_on_parts with
  | h e ih =>
    obtain ⟨hconst, hparts⟩ := throughout_iff.1 h
    have hpart : ∀ part ∈ e.parts, Tells ofJson? part.toJson part :=
      fun part hpart ↦ ih part hpart (hparts part hpart)
    cases e with
    | row =>
      rw [toJson]
      exact tells_row
    | const v =>
      rw [toJson]
      exact tells_const (hconst v rfl)
    | member target name =>
      rw [toJson]
      refine tells_member name ?_
      by_cases hrow : target = .row
      · rw [hrow, toJson]
        exact tells_row
      · exact hpart target (by rw [parts_member name hrow]; exact List.mem_singleton_self target)
    | compare op left right =>
      rw [toJson]
      exact tells_operation (hpart left List.mem_cons_self)
        (hpart right (List.mem_cons_of_mem _ (List.mem_singleton_self right)))
        fun room ↦ (levels room).compare op _ _
    | connect op left right =>
      rw [toJson]
      exact tells_operation (hpart left List.mem_cons_self)
        (hpart right (List.mem_cons_of_mem _ (List.mem_singleton_self right)))
        fun room ↦ (levels room).connect op _ _
    | not inner =>
      rw [toJson]
      exact tells_not (hpart inner (List.mem_singleton_self inner))
    | call target method args =>
      rw [toJson]
      exact tells_call method (hpart target List.mem_cons_self)
        fun arg harg ↦ hpart arg (List.mem_cons_of_mem target harg)
    | arith op left right =>
      rw [toJson]
      exact tells_operation (hpart left List.mem_cons_self)
        (hpart right (List.mem_cons_of_mem _ (List.mem_singleton_self right)))
        fun room ↦ (levels room).arith op _ _

end Expr

/-- A value without floats, dates and times is read from its JSON text as it was, and so is an
expression of such constants, as deep as a reader goes. -/
theorem survives_json :
    (∀ v : Value, (v.Throughout fun w ↦ w.IsNative ∧ w.IsSorted) → v.toJson.nesting < 128 →
      Value.readJson? v.toJson.compact = some v) ∧
    (∀ e : Expr, (e.Throughout fun part ↦ ∀ v, part = .const v →
      v.Throughout fun w ↦ w.IsNative ∧ w.IsSorted) → e.toJson.nesting < 128 →
      Expr.readJson? e.toJson.compact = some e) := by
  constructor
  · intro v hv hdepth
    exact (Value.tells_toJson hv).read_text hdepth
  · intro e he hdepth
    have htold := Expr.tells_toJson fun part hpart v hv ↦ Value.tells_toJson (he part hpart v hv)
    exact htold.read_text hdepth

/-- Records in a record, one of them empty, the least integer, a string with a quote and a control
character and one that looks like a date, beside a call without arguments. -/
theorem survives_json_nested_records :
    let v : Value := .record [("", .record []), ("day", .string "2020-01-01"),
      ("é\"\x01", .record [("low", .int (-9223372036854775808)), ("none", .null)])]
    let e : Expr := .compare .eq (.call (.member .row "key") "Trim" []) (.const v)
    (v.Throughout fun w ↦ w.IsNative ∧ w.IsSorted) ∧ v.toJson.nesting = 2 ∧
      Value.readJson? v.toJson.compact = some v ∧
      (e.Throughout fun part ↦ ∀ w, part = .const w →
        w.Throughout fun w ↦ w.IsNative ∧ w.IsSorted) ∧
      e.toJson.nesting = 6 ∧ Expr.readJson? e.toJson.compact = some e := by
  intro v e
  have hscalar (w : Value) (hw : w ∈ [.string "2020-01-01", .int (-9223372036854775808), .null]) :
      w.Throughout fun w ↦ w.IsNative ∧ w.IsSorted := by
    simp only [List.mem_cons, List.not_mem_nil, or_false] at hw
    obtain rfl | rfl | rfl := hw <;>
      exact .scalar ⟨⟨nofun, nofun, nofun⟩, trivial⟩ nofun
  have hempty : (Value.record []).Throughout fun w ↦ w.IsNative ∧ w.IsSorted :=
    .record ⟨⟨nofun, nofun, nofun⟩, .nil⟩ nofun
  have hinner : (Value.record [("low", .int (-9223372036854775808)), ("none", .null)]).Throughout
      fun w ↦ w.IsNative ∧ w.IsSorted := by
    refine .record ⟨⟨nofun, nofun, nofun⟩, ?_⟩ ?_
    · change List.Pairwise _ _
      decide +kernel
    · simp [hscalar]
  have hv : v.Throughout fun w ↦ w.IsNative ∧ w.IsSorted := by
    refine .record ⟨⟨nofun, nofun, nofun⟩, ?_⟩ ?_
    · change List.Pairwise _ _
      decide +kernel
    · simp [hscalar, hempty, hinner]
  have he : e.Throughout fun part ↦ ∀ w, part = .const w →
      w.Throughout fun w ↦ w.IsNative ∧ w.IsSorted := by
    refine Expr.throughout_pair nofun rfl ?_ (Expr.throughout_of_parts_nil ?_ rfl)
    · exact Expr.throughout_single nofun rfl (Expr.throughout_of_parts_nil nofun rfl)
    · rintro w ⟨⟩
      exact hv
  have hvNesting : v.toJson.nesting = 2 := rfl
  have heNesting : e.toJson.nesting = 6 := rfl
  exact ⟨hv, hvNesting, survives_json.1 v hv (by omega), he, heNesting,
    survives_json.2 e he (by omega)⟩

end EntitySql
