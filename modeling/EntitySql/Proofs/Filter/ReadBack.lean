import EntitySql.Proofs.Filter.Closed
import EntitySql.Proofs.Filter.ReadExact
import EntitySql.Proofs.Filter.Shown

/-!
# Printed filters are read back

The text of an expression is written in the notation that filters are read from, and reading it
gives the expression that it shows. That is the printed expression, save that null is shown as a
name and a whole double as an integer. The expression has to be plain for this: the text leaves out
the brackets around a comparison or a negation that is an operand, the escape of a backslash, and
the values of doubles that have no numeral.
-/

namespace EntitySql

open Number

namespace Expr

/-! ## What a text shows -/

def constantShown : Value → Expr
  | .null => .column "NULL"
  | .float x =>
    match readInt64? (Value.float x).text.toList with
    | some n => .const (.int n)
    | none => .const (.float x)
  | v => .const v

mutual

/-- The expression that the text of an expression shows: null looks like a column, and a whole
double like an integer. -/
def shown : Expr → Expr
  | .row => .row
  | .const v => constantShown v
  | .member target name => .member (shown target) name
  | .compare op left right => .compare op (shown left) (shown right)
  | .connect op left right => .connect op (shown left) (shown right)
  | .not inner => .not (shown inner)
  | .call target method args => .call (shown target) method (shownAll args)
  | .arith op left right => .arith op (shown left) (shown right)

def shownAll : List Expr → List Expr
  | [] => []
  | e :: es => shown e :: shownAll es

end

theorem shownAll_eq_map (es : List Expr) : shownAll es = es.map shown := by
  induction es with
  | nil => rfl
  | cons e es ih => rw [shownAll, ih, List.map_cons]

/-! ## What stands at one place of an expression -/

/-- What a filter without captures can have at one place. -/
def IsSpelled : Expr → Prop
  | .const (.date _) => False
  | .const (.dateTime _) => False
  | .const (.record _) => False
  | .member _ name => Filter.IsName name
  | .call _ method _ => Filter.IsName method
  | .arith op _ _ => op = .add ∨ op = .sub
  | _ => True

def isLoose : Expr → Bool
  | .compare .. => true
  | .not _ => true
  | _ => false

/-- The parts that stand beside a sign of comparison or of a sum, or before a dot. -/
def operands : Expr → List Expr
  | .member target _ => [target]
  | .compare _ left right => [left, right]
  | .call target _ _ => [target]
  | .arith _ left right => [left, right]
  | _ => []

/-- The text of an expression keeps what it says at this place: strings need no escape but that of
a quote, doubles have a numeral, and operands need no brackets. -/
structure IsPlain (e : Expr) : Prop where
  string : ∀ s, e = .const (.string s) → '\\' ∉ s.toList
  finite : ∀ x, e = .const (.float x) →
    ∃ negative m exponent, Binary64.ofFloat x = .finite negative m exponent
  whole : ∀ x, e = .const (.float x) → (Binary64.ofFloat x).toInt? ≠ none →
    readInt64? (Value.float x).text.toList ≠ none
  operands : ∀ operand ∈ e.operands, operand.isLoose = false

/-- The text of a constant at this place does not look like something else, as that of null and of
whole doubles does. -/
def IsFaithful : Expr → Prop
  | .const .null => False
  | .const (.float x) => (Binary64.ofFloat x).toInt? = none
  | _ => True

/-- The text of a plain constant shows that constant, unless it looks like another. -/
theorem constantShown_eq_iff {v : Value} (h : (const v).IsPlain) :
    constantShown v = .const v ↔ (const v).IsFaithful := by
  cases v with
  | null => exact iff_of_false (fun h ↦ by cases h) id
  | float x =>
    have htext : (Value.float x).text = Layout.plain.write x := by rw [Value.text]
    rw [IsFaithful, constantShown]
    cases hread : readInt64? (Value.float x).text.toList with
    | none =>
      refine iff_of_true rfl ?_
      by_contra hwhole
      exact h.whole x rfl hwhole hread
    | some n =>
      refine iff_of_false (fun h ↦ by cases h) fun hwhole ↦ ?_
      rw [htext, readInt64?_plain_write hwhole] at hread
      cases hread
  | _ => exact iff_of_true rfl trivial

/-- A plain expression shows itself exactly where every constant in it is faithful. -/
theorem shown_eq_iff : ∀ e : Expr, e.Throughout IsPlain →
    (e.shown = e ↔ e.Throughout IsFaithful) := by
  apply induction_on_parts
  intro e ih hplain
  rw [throughout_iff] at hplain ⊢
  have hpart {part : Expr} (h : part ∈ e.parts) :
      part.shown = part ↔ part.Throughout IsFaithful := ih part h (hplain.2 part h)
  have hparts : (∀ part ∈ e.parts, part.Throughout IsFaithful) ↔
      ∀ part ∈ e.parts, part.shown = part :=
    forall₂_congr fun part h ↦ (hpart h).symm
  rw [hparts]
  cases e with
  | row => simp [shown, parts, IsFaithful]
  | const v => simpa [shown, parts] using constantShown_eq_iff hplain.1
  | member target name =>
    by_cases hrow : target = .row
    · subst hrow
      simp [shown, parts, IsFaithful]
    · rw [parts_member name hrow]
      simp [shown, IsFaithful]
  | call target method args =>
    have hargs : args.map shown = args ↔ ∀ arg ∈ args, arg.shown = arg := by
      simpa using @List.map_inj_left _ _ args shown id
    simp [shown, shownAll_eq_map, parts, IsFaithful, hargs]
  | _ => simp [shown, parts, IsFaithful]

end Expr

namespace Filter

open Text

variable {scope : Scope} {phrase : Phrase} {e : Expr} {s t : List Char}

def Phrase.Throughout (P : Expr → Prop) : Phrase → Prop
  | .tree _ e => e.Throughout P
  | .arguments es => ∀ e ∈ es, e.Throughout P

/-- Everything within what a text without captures derives is spelled. -/
theorem Derives.isSpelled (h : Derives scope phrase s t) (hcaptures : scope.captures = []) :
    phrase.Throughout Expr.IsSpelled := by
  induction h with
  | string => exact Expr.throughout_of_parts_nil trivial rfl
  | number h =>
    rcases h with h | h <;> cases h <;> exact Expr.throughout_of_parts_nil trivial rfl
  | trueWord => exact Expr.throughout_of_parts_nil trivial rfl
  | falseWord => exact Expr.throughout_of_parts_nil trivial rfl
  | nullWord => exact Expr.throughout_of_parts_nil trivial rfl
  | capture _ hvalue =>
    rw [hcaptures] at hvalue
    cases hvalue
  | row => exact Expr.throughout_of_parts_nil trivial rfl
  | column hname => exact Expr.throughout_of_parts_nil hname.isName rfl
  | member _ hname ih => exact Expr.throughout_member hname.isName ih
  | callEmpty _ hname _ _ ih => exact Expr.throughout_single hname.isName rfl ih
  | call _ hname _ _ _ ih ihargs =>
    exact Expr.throughout_iff.2 ⟨hname.isName, List.forall_mem_cons.2 ⟨ih, ihargs⟩⟩
  | argument _ _ ih => exact List.forall_mem_singleton.2 ih
  | arguments _ _ _ _ ihargs ih =>
    exact List.forall_mem_append.2 ⟨ihargs, List.forall_mem_singleton.2 ih⟩
  | arith _ _ hsign _ _ ihl ihr =>
    refine Expr.throughout_pair ?_ rfl ihl ihr
    cases hsign with
    | add => exact .inl rfl
    | sub => exact .inr rfl
  | compare _ _ _ _ _ ihl ihr => exact Expr.throughout_pair trivial rfl ihl ihr
  | negate _ _ _ ih => exact Expr.throughout_single trivial rfl ih
  | conjoin _ _ _ _ _ ihl ihr => exact Expr.throughout_pair trivial rfl ihl ihr
  | disjoin _ _ _ _ _ ihl ihr => exact Expr.throughout_pair trivial rfl ihl ihr
  | parenthesized _ _ _ ih => exact ih
  | access _ ih => exact ih
  | sum _ ih => exact ih
  | comparison _ ih => exact ih
  | negation _ _ ih => exact ih
  | conjunction _ ih => exact ih
  | disjunction _ ih => exact ih

/-! ## What a printed expression derives -/

def textLevel : Expr → Level
  | .compare .. => .comparison
  | .not _ => .negation
  | _ => .access

namespace Shows

variable {f : Expr}

theorem negation_of_textLevel (h : Shows (textLevel e) f s) : Shows .negation f s := by
  cases e with
  | compare => exact h.negation
  | not => exact h
  | _ => exact h.sum.comparison.negation

/-- Texts that are not loose can be operands as they are. -/
theorem access_of_textLevel (h : Shows (textLevel e) f s) (he : e.isLoose = false) :
    Shows .access f s := by
  cases e with
  | compare => cases he
  | not => cases he
  | _ => exact h

end Shows

theorem shows_row : Shows .access .row "x".toList :=
  ⟨by decide, fun _ ht ↦ .access (.row (.intro rfl (fun _ h ↦ absurd h List.not_mem_nil) ht)
    (by decide))⟩

/-- The text of null reads as a column of that name. -/
theorem shows_null : Shows .primary (.column "NULL") "NULL".toList := by
  refine ⟨by decide, fun t ht ↦ ?_⟩
  have hname : Identifier ['N', 'U', 'L', 'L'] ('N' :: ['U', 'L', 'L'] ++ t) t :=
    .intro rfl (List.all_eq_true.1 rfl) ht
  exact .column hname (by decide) (by decide)

/-- A double is shown as an integer where its text is that of one. -/
theorem shows_double {x : Float} (h : (Expr.const (.float x)).IsPlain) :
    Shows .primary (Expr.constantShown (.float x)) (Value.float x).text.toList := by
  obtain ⟨negative, m, exponent, hx⟩ := h.finite x rfl
  have htext : (Value.float x).text = Layout.plain.write x := by rw [Value.text]
  rw [Expr.constantShown]
  cases hread : readInt64? (Value.float x).text.toList with
  | none =>
    have hwhole : (Binary64.ofFloat x).toInt? = none := by
      by_contra hwhole
      exact h.whole x rfl hwhole hread
    rw [htext]
    exact .fraction hx hwhole
  | some n =>
    obtain ⟨k, hk, hn⟩ := Option.bind_eq_some_iff.1 hread
    rw [← int64?_eq_some.1 hn] at hk
    apply Shows.integer
    apply isNumeral_of_integer? hk
    obtain ⟨c, u, hhead, hc⟩ := plain_write_head hx
    rw [htext, hhead]
    split
    · simp
    · intro hplus
      cases hplus
      cases hc

/-- The text of a constant derives what it shows. -/
theorem shows_constant {v : Value} (hspelled : (Expr.const v).IsSpelled)
    (hplain : (Expr.const v).IsPlain) :
    Shows .primary (Expr.constantShown v) (Expr.constantText v).toList := by
  cases v with
  | null => exact shows_null
  | bool b =>
    cases b with
    | true => exact ⟨by decide, fun t ht ↦ .trueWord ⟨rfl, ht⟩⟩
    | false => exact ⟨by decide, fun t ht ↦ .falseWord ⟨rfl, ht⟩⟩
  | int n => exact .integer (isNumeral_toString n.toInt)
  | float x => exact shows_double hplain
  | string s => exact .string (hplain.string s rfl)
  | date d => exact hspelled.elim
  | dateTime t => exact hspelled.elim
  | record fields => exact hspelled.elim

theorem argumentsText_toList (es : List Expr) :
    (Expr.argumentsText es).toList = [',', ' '].intercalate (es.map (·.text.toList)) := by
  induction es with
  | nil => rfl
  | cons e es ih =>
    cases es with
    | nil => simp [Expr.argumentsText]
    | cons f es =>
      rw [List.map_cons, List.map_cons, List.intercalate_cons_cons]
      rw [List.map_cons] at ih
      rw [← ih]
      simp [Expr.argumentsText]

/-- What the parts of an expression show: a condition each, and a term where they are operands. -/
structure PartsShow (e : Expr) : Prop where
  condition : ∀ part ∈ e.parts, Shows .negation part.shown part.text.toList
  term : ∀ part ∈ e.parts, part ∈ e.operands → Shows .access part.shown part.text.toList

namespace PartsShow

variable {target left right inner : Expr} {name : String} {args : List Expr}

theorem member (h : PartsShow (.member target name)) (hname : IsName name) :
    Shows .access (Expr.member target name).shown (Expr.member target name).text.toList := by
  have htarget : Shows .access target.shown target.text.toList := by
    by_cases hrow : target = .row
    · subst hrow
      exact shows_row
    · have hmem : target ∈ (Expr.member target name).parts := by
        rw [Expr.parts_member name hrow]
        exact List.mem_singleton_self target
      exact h.term target hmem (List.mem_singleton_self target)
  simpa [Expr.text, Expr.shown] using htarget.member hname

theorem compare {op : CompareOp} (h : PartsShow (.compare op left right)) :
    Shows .comparison (Expr.compare op left right).shown
      (Expr.compare op left right).text.toList := by
  have hleft := h.term left List.mem_cons_self List.mem_cons_self
  have hright := h.term right (List.mem_cons_of_mem _ List.mem_cons_self)
    (List.mem_cons_of_mem _ List.mem_cons_self)
  simpa [Expr.text, Expr.shown] using Shows.compare op hleft.sum hright.sum

theorem connect {op : Connective} (h : PartsShow (.connect op left right)) :
    Shows .access (Expr.connect op left right).shown
      (Expr.connect op left right).text.toList := by
  have hleft := h.condition left List.mem_cons_self
  have hright := h.condition right (List.mem_cons_of_mem _ List.mem_cons_self)
  simpa [Expr.text, Expr.shown] using (Shows.connect op hleft hright).access

theorem negated (h : PartsShow (.not inner)) :
    Shows .negation (Expr.not inner).shown (Expr.not inner).text.toList := by
  have hinner := h.condition inner (List.mem_singleton_self inner)
  simpa [Expr.text, Expr.shown] using hinner.disjunction.negate

theorem call (h : PartsShow (.call target name args)) (hname : IsName name) :
    Shows .access (Expr.call target name args).shown
      (Expr.call target name args).text.toList := by
  have htarget := h.term target List.mem_cons_self List.mem_cons_self
  have hargs : List.Forall₂ (Shows .disjunction) (args.map Expr.shown)
      (args.map (·.text.toList)) := by
    rw [List.forall₂_map_left_iff, List.forall₂_map_right_iff, List.forall₂_same]
    exact fun arg hmem ↦ (h.condition arg (List.mem_cons_of_mem _ hmem)).disjunction
  have hcall := htarget.call hname hargs
  rw [← argumentsText_toList] at hcall
  simpa [Expr.text, Expr.shown, Expr.shownAll_eq_map] using hcall

theorem arith {op : ArithOp} (h : PartsShow (.arith op left right)) (hop : op = .add ∨ op = .sub) :
    Shows .access (Expr.arith op left right).shown (Expr.arith op left right).text.toList := by
  have hleft := h.term left List.mem_cons_self List.mem_cons_self
  have hright := h.term right (List.mem_cons_of_mem _ List.mem_cons_self)
    (List.mem_cons_of_mem _ List.mem_cons_self)
  simpa [Expr.text, Expr.shown] using (Shows.arith hop hleft.sum hright).access

end PartsShow

/-- The text of a plain expression derives what it shows, in every place that a rest leaves open. -/
theorem shows_text : ∀ e : Expr, e.Throughout Expr.IsSpelled → e.Throughout Expr.IsPlain →
    Shows (textLevel e) e.shown e.text.toList := by
  apply Expr.induction_on_parts
  intro e ih hspelled hplain
  rw [Expr.throughout_iff] at hspelled hplain
  have hpart (part : Expr) (h : part ∈ e.parts) :
      Shows (textLevel part) part.shown part.text.toList :=
    ih part h (hspelled.2 part h) (hplain.2 part h)
  have hparts : PartsShow e :=
    ⟨fun part h ↦ (hpart part h).negation_of_textLevel,
      fun part h hoperand ↦
        (hpart part h).access_of_textLevel (hplain.1.operands part hoperand)⟩
  cases e with
  | row => exact shows_row
  | const v => exact (shows_constant hspelled.1 hplain.1).access
  | member target name => exact hparts.member hspelled.1
  | compare op left right => exact hparts.compare
  | connect op left right => exact hparts.connect
  | not inner => exact hparts.negated
  | call target method args => exact hparts.call hspelled.1
  | arith op left right => exact hparts.arith hspelled.1

/-- A filter that is read without captures and printed is read again as what its text shows, and
this is the same tree exactly where no constant in it looks like something else. -/
theorem printed_filters_read_back {text : String} (hread : read [] text = .ok e)
    (hplain : e.Throughout Expr.IsPlain) :
    read [] e.text = .ok e.shown ∧
      (read [] e.text = .ok e ↔ e.Throughout Expr.IsFaithful) := by
  have hspelled : e.Throughout Expr.IsSpelled := by
    cases derivesFilter_of_read hread with
    | headed _ _ _ _ h => exact h.isSpelled rfl
    | bare _ h => exact h.isSpelled rfl
  have hshows := (shows_text e hspelled hplain).negation_of_textLevel.disjunction
  have hderives := hshows.derives [] (stops_nil _)
  rw [List.append_nil] at hderives
  have hshown : read [] e.text = .ok e.shown :=
    read_of_derivesFilter (.bare (layout_refl _) hderives (layout_refl _))
  refine ⟨hshown, ?_⟩
  rw [hshown, Except.ok.injEq]
  exact Expr.shown_eq_iff e hplain

/-- Words for the connectives are written as signs, and the tree is the same. -/
theorem conjunction_reads_back :
    read [] "Id > 3 and not Active" =
        .ok (.connect .and (.compare .gt (.column "Id") (.const (.int 3)))
          (.not (.column "Active"))) ∧
      read [] "(x.Id > 3 && !(x.Active))" =
        .ok (.connect .and (.compare .gt (.column "Id") (.const (.int 3)))
          (.not (.column "Active"))) := by
  have hread : read [] "Id > 3 and not Active" =
      .ok (.connect .and (.compare .gt (.column "Id") (.const (.int 3)))
        (.not (.column "Active"))) := by
    cbv
  have hthroughout {P : Expr → Prop} (hcolumn : ∀ name, P (.column name))
      (hint : P (.const (.int 3))) (hnot : P (.not (.column "Active")))
      (hcompare : P (.compare .gt (.column "Id") (.const (.int 3))))
      (hconnect : P (.connect .and (.compare .gt (.column "Id") (.const (.int 3)))
        (.not (.column "Active")))) :
      Expr.Throughout P (.connect .and (.compare .gt (.column "Id") (.const (.int 3)))
        (.not (.column "Active"))) := by
    have hleft := Expr.throughout_pair hcompare rfl
      (Expr.throughout_of_parts_nil (hcolumn "Id") rfl) (Expr.throughout_of_parts_nil hint rfl)
    have hright := Expr.throughout_single hnot rfl
      (Expr.throughout_of_parts_nil (hcolumn "Active") rfl)
    exact Expr.throughout_pair hconnect rfl hleft hright
  have hplain := @hthroughout Expr.IsPlain
    (fun name ↦ ⟨by simp [Expr.column], by simp [Expr.column], by simp [Expr.column],
      by simp [Expr.column, Expr.operands, Expr.isLoose]⟩)
    ⟨by simp, by simp, by simp, by simp [Expr.operands]⟩
    ⟨by simp, by simp, by simp, by simp [Expr.operands]⟩
    ⟨by simp, by simp, by simp, by simp [Expr.operands, Expr.isLoose, Expr.column]⟩
    ⟨by simp, by simp, by simp, by simp [Expr.operands]⟩
  have hfaithful := @hthroughout Expr.IsFaithful (fun _ ↦ trivial) trivial trivial trivial trivial
  exact ⟨hread, (printed_filters_read_back hread hplain).2.2 hfaithful⟩

/-! ## What is not read back -/

/-- A text that is read, while the text of its tree is not read as that tree. -/
def Misread (text : String) : Prop := ∃ e, read [] text = .ok e ∧ read [] e.text ≠ .ok e

theorem misread_of_read {text again : String} {reply : Except Error Expr}
    (h : read [] text = .ok e) (htext : e.text = again) (hagain : read [] again = reply)
    (hne : reply ≠ .ok e) : Misread text :=
  ⟨e, h, by rwa [htext, hagain]⟩

/-- The text of null is that of a column. -/
theorem misread_null : Misread "x.Id > 3 && x.Name != null" := by
  have hread : read [] "x.Id > 3 && x.Name != null" =
      .ok (.connect .and (.compare .gt (.column "Id") (.const (.int 3)))
        (.compare .ne (.column "Name") (.const .null))) := by
    cbv
  have htext : (Expr.connect .and (.compare .gt (.column "Id") (.const (.int 3)))
      (.compare .ne (.column "Name") (.const .null))).text = "(x.Id > 3 && x.Name != NULL)" :=
    rfl
  have hagain : read [] "(x.Id > 3 && x.Name != NULL)" =
      .ok (.connect .and (.compare .gt (.column "Id") (.const (.int 3)))
        (.compare .ne (.column "Name") (.column "NULL"))) := by
    cbv
  exact misread_of_read hread htext hagain (by rintro ⟨⟩)

/-- A whole double looks like an integer. -/
theorem misread_whole : Misread "2.0" := by
  have hread : read [] "2.0" = .ok (.const (.float (nearest false 20 (-1)))) := rfl
  have htext : (Expr.const (.float (nearest false 20 (-1)))).text = "2" := rfl
  have hagain : read [] "2" = .ok (.const (.int 2)) := rfl
  exact misread_of_read hread htext hagain (by rintro ⟨⟩)

/-- A whole double beyond 64 bits is refused as an integer. -/
theorem misread_large : Misread "9300000000000000000.0" := by
  have hread : read [] "9300000000000000000.0" =
    .ok (.const (.float (nearest false 93000000000000000000 (-1)))) := rfl
  have htext : (Expr.const (.float (nearest false 93000000000000000000 (-1)))).text =
      "9300000000000000000" :=
    rfl
  have hagain : read [] "9300000000000000000" =
      .error (.parse 0 (.invalidNumber "9300000000000000000")) := by
    cbv
  exact misread_of_read hread htext hagain (by rintro ⟨⟩)

/-- A numeral alone is a filter, the constant that it is the numeral of. -/
theorem read_numeral {v : Value} (h : Numeral v s []) :
    read [] (String.ofList s) = .ok (.const v) := by
  have hword (u : List Char) : ¬ Keyword ['n', 'o', 't'] s u := by
    rintro ⟨rfl, -⟩
    obtain ⟨c, u, hs, hc⟩ := h.head
    cases hs
    rcases hc with hc | hc <;> cases hc
  have hderives : Derives ⟨['x'], []⟩ (.tree .disjunction (.const v)) s [] :=
    .disjunction (.conjunction (.negation hword (.comparison (.sum (.access (.number h))))))
  apply read_of_derivesFilter
  rw [String.toList_ofList]
  exact .bare (layout_refl _) hderives (layout_refl _)

theorem misread_infinite : Misread (String.ofList (List.replicate 400 '9' ++ ['.', '0'])) := by
  have hwhole (n : Nat) : Digits (List.replicate (n + 1) '9')
      (List.replicate (n + 1) '9' ++ ['.', '0']) ['.', '0'] :=
    .intro (List.cons_ne_nil _ _) (fun _ hc ↦ List.eq_of_mem_replicate hc ▸ rfl)
      (stops_cons.2 rfl)
  have hfraction : Digits ['0'] ['0'] [] := .intro (by simp) (by simp) (stops_nil _)
  have hread := read_numeral (.positive (.real (hwhole 399) hfraction))
  have htext : (Expr.const (.float (nearest false
      (ofDigits (List.replicate 400 '9' ++ ['0'])) (-1)))).text = "inf" := by
    decide +kernel
  have hagain : read [] "inf" = .ok (.column "inf") := rfl
  exact misread_of_read hread htext hagain (by rintro ⟨⟩)

/-- A backslash in a string is read as an escape. -/
theorem misread_backslash : Misread "'a\\\\b'" := by
  have hread : read [] "'a\\\\b'" = .ok (.const (.string "a\\b")) := by cbv
  have htext : (Expr.const (.string "a\\b")).text = "\x22a\\b\x22" := rfl
  have hagain : read [] "\x22a\\b\x22" = .ok (.const (.string "ab")) := by cbv
  exact misread_of_read hread htext hagain (by simp)

/-- A comparison that is an operand loses its brackets. -/
theorem misread_operand : Misread "(x.A == x.B) == x.C" := by
  have hread : read [] "(x.A == x.B) == x.C" =
      .ok (.compare .eq (.compare .eq (.column "A") (.column "B")) (.column "C")) := by
    cbv
  have htext : (Expr.compare .eq (.compare .eq (.column "A") (.column "B")) (.column "C")).text =
      "x.A == x.B == x.C" :=
    rfl
  have hagain : read [] "x.A == x.B == x.C" = .error (.parse 11 (.unexpectedWord "==")) := by cbv
  exact misread_of_read hread htext hagain (by rintro ⟨⟩)

/-- A negation that is a receiver loses its brackets. -/
theorem misread_target : Misread "(!x.A).Length" := by
  have hread : read [] "(!x.A).Length" = .ok (.member (.not (.column "A")) "Length") := by cbv
  have htext : (Expr.member (.not (.column "A")) "Length").text = "!(x.A).Length" :=
    rfl
  have hagain : read [] "!(x.A).Length" = .ok (.not (.member (.column "A") "Length")) := by cbv
  exact misread_of_read hread htext hagain (by rintro ⟨⟩)

theorem misread_texts :
    Misread "x.Id > 3 && x.Name != null" ∧ Misread "2.0" ∧ Misread "9300000000000000000.0" ∧
      Misread (String.ofList (List.replicate 400 '9' ++ ['.', '0'])) ∧ Misread "'a\\\\b'" ∧
      Misread "(x.A == x.B) == x.C" ∧ Misread "(!x.A).Length" :=
  ⟨misread_null, misread_whole, misread_large, misread_infinite, misread_backslash,
    misread_operand, misread_target⟩

end Filter

end EntitySql
