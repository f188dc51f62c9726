import EntitySql.Json.Reading
import EntitySql.Json.Writing
import EntitySql.Proofs.Number.PlainText
import EntitySql.Proofs.Text.Run

/-!
# Written JSON is read back

The compact text of a tree is read as that tree, whatever characters its strings hold and however
deep it nests, as long as its numbers are integers. What stands behind a value must not go on with
its number: a comma, a closing bracket or the end of the text does not. Reading has no depth of its
own here, since the text is longer than its values nest.
-/

namespace EntitySql.Json

variable {c : Char} {cs s rest : List Char} {p : Piece} {ps : List Piece} {n : Nat}

/-! ## Strings -/

/-- The piece of a string that stands for a character. Only control characters are escaped as
units. -/
inductive Stands : Piece → Char → Prop
  | char (c : Char) : Stands (.char c) c
  | unit {c : Char} (h : c.toNat < 0x20) : Stands (.unit c.toNat) c

theorem hexNumber?_control : ∀ n < 0x20,
    Number.hexNumber? ['0', '0', (n / 16).digitChar, (n % 16).digitChar] = some n := by
  decide

/-- A character is escaped by one of its own, as a unit, or not at all. -/
theorem escape_cases (c : Char) :
    (∃ d, escape c = ['\\', d] ∧ d ≠ 'u' ∧ simpleEscape? d = some c) ∨
    (escape c = ['\\', 'u', '0', '0', (c.toNat / 16).digitChar, (c.toNat % 16).digitChar] ∧
      c.toNat < 0x20) ∨
    (escape c = [c] ∧ c ≠ '\x22' ∧ c ≠ '\\' ∧ ¬ c.toNat < 0x20) := by
  unfold escape
  iterate 7
    split
    · next h =>
      subst h
      exact .inl ⟨_, rfl, by decide, rfl⟩
  split
  · next h => exact .inr (.inl ⟨rfl, h⟩)
  · next hquote hbackslash _ _ _ _ _ hcontrol =>
    exact .inr (.inr ⟨rfl, hquote, hbackslash, hcontrol⟩)

/-- A character that was escaped is read as itself. -/
theorem stringPieces_escape (c : Char) (s : List Char) :
    ∃ p, Stands p c ∧ stringPieces (escape c ++ s) = prepend p (stringPieces s) := by
  obtain ⟨d, hescape, hd, hread⟩ | ⟨hescape, hcontrol⟩ | ⟨hescape, hquote, hbackslash, hcontrol⟩ :=
    escape_cases c
  · refine ⟨.char c, .char c, ?_⟩
    rw [hescape, List.cons_append, List.singleton_append, stringPieces, hread]
    rintro _ _ _ _ _ rfl
    exact absurd rfl hd
  · refine ⟨.unit c.toNat, .unit hcontrol, ?_⟩
    rw [hescape]
    simp only [List.cons_append, List.nil_append]
    rw [stringPieces, hexNumber?_control _ hcontrol]
  · refine ⟨.char c, .char c, ?_⟩
    rw [hescape, List.singleton_append, stringPieces, if_neg hquote,
      if_neg (not_or.2 ⟨hbackslash, hcontrol⟩)]
    · exact fun _ _ _ _ _ h ↦ absurd h hbackslash
    · exact fun _ _ h ↦ absurd h hbackslash

theorem join_cons (h : Stands p c) (ps : List Piece) :
    join (p :: ps) = (join ps).map (c :: ·) := by
  cases h with
  | char c => rw [join]
  | unit h =>
    have hhigh : isHighSurrogate c.toNat = false := by
      rw [isHighSurrogate, Bool.and_eq_false_iff]
      left
      exact decide_eq_false (by omega)
    have hlow : isLowSurrogate c.toNat = false := by
      rw [isLowSurrogate, Bool.and_eq_false_iff]
      left
      exact decide_eq_false (by omega)
    rw [join.eq_def]
    split
    · next heq => cases heq
    · next heq => cases heq
    · next heq =>
      cases heq
      rw [hhigh, hlow, Char.ofNat_toNat]
      rfl
    · next heq =>
      cases heq
      rw [hhigh, hlow, Char.ofNat_toNat]
      rfl

theorem stringPieces_escapes (cs rest : List Char) :
    ∃ ps, join ps = some cs ∧
      stringPieces (cs.flatMap escape ++ '\x22' :: rest) = some (ps, rest) := by
  induction cs with
  | nil => exact ⟨[], rfl, rfl⟩
  | cons c cs ih =>
    obtain ⟨ps, hjoin, hpieces⟩ := ih
    obtain ⟨p, hstands, hread⟩ := stringPieces_escape c (cs.flatMap escape ++ '\x22' :: rest)
    refine ⟨p :: ps, ?_, ?_⟩
    · rw [join_cons hstands, hjoin]
      rfl
    · rw [List.flatMap_cons, List.append_assoc, hread, hpieces]
      rfl

/-- A text between quotes is read back. -/
theorem stringRest?_quote (text : String) (rest : List Char) :
    stringRest? (text.toList.flatMap escape ++ '\x22' :: rest) = some (some text, rest) := by
  obtain ⟨ps, hjoin, hpieces⟩ := stringPieces_escapes text.toList rest
  rw [stringRest?, hpieces, Option.map_some]
  dsimp only
  rw [hjoin, Option.map_some, String.ofList_toList]

/-! ## Integers -/

def goesOn (c : Char) : Bool := c.isDigit || c == '.' || c == 'e' || c == 'E'

theorem stops_isDigit (h : Text.Stops goesOn rest) : Text.Stops Char.isDigit rest := by
  intro c hc
  have hgoesOn := h c hc
  rw [goesOn, Bool.or_eq_false_iff, Bool.or_eq_false_iff, Bool.or_eq_false_iff] at hgoesOn
  exact hgoesOn.1.1.1

theorem takeDigits_run {w : List Char} (hw : ∀ c ∈ w, c.isDigit = true)
    (h : Text.Stops Char.isDigit rest) : takeDigits (w ++ rest) = (w, rest) := by
  rw [takeDigits, Text.takeWhile_run hw h, Text.dropWhile_run hw h]

theorem numberSign_toString (n : Int) (rest : List Char) :
    numberSign ((toString n).toList ++ rest) =
      (if n < 0 then ['-'] else [], Nat.toDigits 10 n.natAbs ++ rest) := by
  rw [Number.toList_toString]
  split
  · rfl
  · obtain ⟨c, u, hdigits⟩ := List.exists_cons_of_ne_nil (@Nat.toDigits_ne_nil n.natAbs 10)
    have hc : c.isDigit = true := Number.isDigit_of_mem_toDigits (hdigits ▸ List.mem_cons_self)
    rw [List.nil_append, hdigits, List.cons_append, numberSign]
    intro _ h
    rw [(List.cons.inj h).1] at hc
    exact absurd hc (by decide)

/-- The digits of a number begin with a zero only where it is zero. -/
theorem head?_toDigits (hn : 0 < n) : (Nat.toDigits 10 n).head? ≠ some '0' := by
  induction n using Nat.strong_induction_on with
  | _ n ih =>
    rcases lt_or_ge n 10 with hsmall | hlarge
    · have hdigit : ∀ n < 10, 0 < n → n.digitChar ≠ '0' := by decide
      rw [Nat.toDigits_of_lt_base hsmall]
      exact fun h ↦ hdigit n hsmall hn (Option.some.inj h)
    · rw [Nat.toDigits_of_base_le (by decide) hlarge,
        List.head?_append_of_ne_nil _ Nat.toDigits_ne_nil]
      exact ih (n / 10) (by omega) (by omega)

theorem wholeDigits?_toDigits (n : Nat) (h : Text.Stops Char.isDigit rest) :
    wholeDigits? (Nat.toDigits 10 n ++ rest) = some (Nat.toDigits 10 n, rest) := by
  rw [wholeDigits?, takeDigits_run (fun c hc ↦ Number.isDigit_of_mem_toDigits hc) h]
  rcases Nat.eq_zero_or_pos n with rfl | hn
  · rfl
  · have hhead := head?_toDigits hn
    split
    · next heq => exact absurd (Prod.mk.inj heq).1 Nat.toDigits_ne_nil
    · next heq =>
      rw [(Prod.mk.inj heq).1] at hhead
      exact absurd rfl hhead
    · next heq => rw [heq]

theorem fractionDigits?_of_stops (h : Text.Stops goesOn rest) :
    fractionDigits? rest = some ([], rest) := by
  unfold fractionDigits?
  split
  · cases Text.stops_cons.1 h
  · rfl

theorem exponentDigits?_of_stops (h : Text.Stops goesOn rest) :
    exponentDigits? rest = some ([], rest) := by
  unfold exponentDigits?
  split
  · rfl
  · next c s =>
    have hc := Text.stops_cons.1 h
    rw [if_neg]
    rintro (rfl | rfl) <;> cases hc

/-- A whole number is read to its end, up to what cannot belong to it. -/
theorem numberLiteral?_toString (n : Int) (h : Text.Stops goesOn rest) :
    numberLiteral? ((toString n).toList ++ rest) = some ((toString n).toList, rest) := by
  rw [numberLiteral?, numberSign_toString]
  dsimp only
  simp only [wholeDigits?_toDigits _ (stops_isDigit h), fractionDigits?_of_stops h,
    exponentDigits?_of_stops h, Option.bind_eq_bind, Option.bind_some, Option.pure_def,
    Number.toList_toString, List.append_nil]

def beginsNumber (c : Char) : Bool := c == '-' || c.isDigit

theorem exists_cons_toString (n : Int) :
    ∃ c s, (toString n).toList = c :: s ∧ beginsNumber c = true := by
  rw [Number.toList_toString]
  split
  · exact ⟨'-', _, rfl, rfl⟩
  · obtain ⟨c, u, hdigits⟩ := List.exists_cons_of_ne_nil (@Nat.toDigits_ne_nil n.natAbs 10)
    have hc : c.isDigit = true := Number.isDigit_of_mem_toDigits (hdigits ▸ List.mem_cons_self)
    exact ⟨c, u, hdigits, by rw [beginsNumber, hc, Bool.or_true]⟩

theorem ne_of_beginsNumber {d : Char} (hc : beginsNumber c = true) (hd : beginsNumber d = false) :
    c ≠ d := by
  rintro rfl
  rw [hc] at hd
  cases hd

/-! ## Parts behind commas -/

section Commas

variable {α : Type} {write : α → List Char} {x : α} {xs : List α}

def behindCommas (write : α → List Char) (xs : List α) : List Char :=
  xs.flatMap fun x ↦ ',' :: write x

theorem behindCommas_cons (write : α → List Char) (x : α) (xs : List α) :
    behindCommas write (x :: xs) = ',' :: (write x ++ behindCommas write xs) := by
  simp [behindCommas]

theorem length_le_behindCommas (write : α → List Char) (xs : List α) :
    xs.length ≤ (behindCommas write xs).length := by
  induction xs with
  | nil => exact le_rfl
  | cons x xs ih =>
    rw [behindCommas_cons, List.length_cons, List.length_cons, List.length_append]
    omega

theorem length_write_le_behindCommas (write : α → List Char) (h : x ∈ xs) :
    (write x).length ≤ (behindCommas write xs).length := by
  induction xs with
  | nil => cases h
  | cons y xs ih =>
    rw [behindCommas_cons, List.length_cons, List.length_append]
    rcases List.mem_cons.1 h with rfl | hmem
    · omega
    · have hle := ih hmem
      omega

theorem stops_behindCommas (write : α → List Char) (xs : List α) (hc : goesOn c = false) :
    Text.Stops goesOn (behindCommas write xs ++ c :: rest) := by
  cases xs with
  | nil => exact Text.stops_cons.2 hc
  | cons x xs => exact Text.stops_cons.2 rfl

end Commas

theorem compactItems_cons (j : Json) (js : List Json) :
    compactItems (j :: js) = compactChars j ++ behindCommas compactChars js := by
  induction js generalizing j with
  | nil => simp [compactItems, behindCommas]
  | cons next js ih => simp [compactItems, ih, behindCommas_cons]

def fieldChars (field : String × Json) : List Char := quote field.1 ++ ':' :: compactChars field.2

theorem compactFields_cons (field : String × Json) (fields : List (String × Json)) :
    compactFields (field :: fields) = fieldChars field ++ behindCommas fieldChars fields := by
  induction fields generalizing field with
  | nil => simp [compactFields, fieldChars, behindCommas]
  | cons next fields ih => simp [compactFields, fieldChars, ih, behindCommas_cons]

/-! ## Trees -/

/-- A tree whose numbers are integers and whose strings are text. -/
inductive Regular : Json → Prop
  | null : Regular .null
  | bool (b : Bool) : Regular (.bool b)
  | int (n : Int) : Regular (.ofInt n)
  | string (text : String) : Regular (.string text)
  | array {items : List Json} (h : ∀ j ∈ items, Regular j) : Regular (.array items)
  | object {fields : List (String × Json)} (h : ∀ field ∈ fields, Regular field.2) :
    Regular (.object fields)

def parts : Json → List Json
  | .array items => items
  | .object fields => fields.map (·.2)
  | _ => []

theorem Regular.part {j part : Json} (h : Regular j) (hpart : part ∈ j.parts) : Regular part := by
  cases h with
  | array h => exact h part hpart
  | object h =>
    obtain ⟨field, hfield, rfl⟩ := List.mem_map.1 hpart
    exact h field hfield
  | _ => cases hpart

/-- A written value begins with no blank and no closing bracket. -/
theorem Regular.exists_cons {j : Json} (h : Regular j) :
    ∃ c s, compactChars j = c :: s ∧ isSpace c = false ∧ c ≠ ']' := by
  cases h with
  | int n =>
    obtain ⟨c, s, htext, hc⟩ := exists_cons_toString n
    refine ⟨c, s, htext, ?_, ne_of_beginsNumber hc rfl⟩
    rw [← Bool.not_eq_true, isSpace]
    simp only [Bool.or_eq_true, beq_iff_eq, not_or]
    exact ⟨⟨⟨ne_of_beginsNumber hc rfl, ne_of_beginsNumber hc rfl⟩, ne_of_beginsNumber hc rfl⟩,
      ne_of_beginsNumber hc rfl⟩
  | bool b => cases b <;> exact ⟨_, _, rfl, rfl, by decide⟩
  | _ => exact ⟨_, _, rfl, rfl, by decide⟩

theorem skipSpace_cons (hc : isSpace c = false) (s : List Char) : skipSpace (c :: s) = c :: s :=
  Text.Stops.dropWhile_eq (Text.stops_cons.2 hc)

theorem Regular.skipSpace_eq {j : Json} (h : Regular j) (rest : List Char) :
    skipSpace (compactChars j ++ rest) = compactChars j ++ rest := by
  obtain ⟨c, s, htext, hspace, -⟩ := h.exists_cons
  rw [htext]
  exact skipSpace_cons hspace _

section Nested

variable {nested : Reader Json} {j : Json} {js : List Json} {field : String × Json}
  {fields : List (String × Json)}

/-- A reader of values reads the text of a tree as that tree. -/
def ReadsBack (nested : Reader Json) (j : Json) : Prop :=
  ∀ rest, Text.Stops goesOn rest → nested (compactChars j ++ rest) = some (j, rest)

/-- Items behind their commas are read one after the other. By induction on the items. -/
theorem moreItems_eq (hregular : ∀ j ∈ js, Regular j) (hread : ∀ j ∈ js, ReadsBack nested j)
    {count : Nat} (hcount : js.length < count) (items : List Json) (rest : List Char) :
    moreItems nested count items (behindCommas compactChars js ++ ']' :: rest) =
      some (items ++ js, rest) := by
  induction js generalizing count items with
  | nil =>
    obtain ⟨count, rfl⟩ := Nat.exists_eq_succ_of_ne_zero (Nat.ne_of_gt hcount)
    rw [List.append_nil]
    rfl
  | cons j js ih =>
    obtain ⟨count, rfl⟩ := Nat.exists_eq_succ_of_ne_zero (Nat.ne_zero_of_lt hcount)
    have hj := hread j List.mem_cons_self (behindCommas compactChars js ++ ']' :: rest)
      (stops_behindCommas _ _ rfl)
    have hspace := (hregular j List.mem_cons_self).skipSpace_eq
      (behindCommas compactChars js ++ ']' :: rest)
    have hmore := ih (fun j hj ↦ hregular j (List.mem_cons_of_mem _ hj))
      (fun j hj ↦ hread j (List.mem_cons_of_mem _ hj)) (Nat.lt_of_succ_lt_succ hcount)
      (items ++ [j])
    rw [behindCommas_cons, List.cons_append, List.append_assoc, moreItems, skipSpace_cons rfl]
    simp only [hspace, hj]
    simpa using hmore

theorem arrayRest?_eq (hregular : ∀ j ∈ js, Regular j) (hread : ∀ j ∈ js, ReadsBack nested j)
    (rest : List Char) :
    arrayRest? nested (compactItems js ++ ']' :: rest) = some (.array js, rest) := by
  cases js with
  | nil => rfl
  | cons j js =>
    obtain ⟨hj, hjs⟩ := List.forall_mem_cons.1 hregular
    obtain ⟨hreadJ, hreadJs⟩ := List.forall_mem_cons.1 hread
    obtain ⟨c, s, htext, -, hbracket⟩ := hj.exists_cons
    have hlength := length_le_behindCommas compactChars js
    rw [compactItems_cons, List.append_assoc, arrayRest?, hj.skipSpace_eq]
    split
    · next heq =>
      rw [htext] at heq
      exact absurd (List.cons.inj heq).1 hbracket
    · rw [hreadJ _ (stops_behindCommas _ _ rfl)]
      simp only [Option.bind_eq_bind, Option.bind_some]
      rw [moreItems_eq hjs hreadJs (by simp only [List.length_append, List.length_cons]; omega)]
      rfl

theorem namedField?_eq (hregular : Regular field.2) (hread : ReadsBack nested field.2)
    (h : Text.Stops goesOn rest) :
    namedField? nested (fieldChars field ++ rest) = some ((some field.1, field.2), rest) := by
  have htext : fieldChars field ++ rest = '\x22' :: (field.1.toList.flatMap escape ++
      '\x22' :: ':' :: (compactChars field.2 ++ rest)) := by
    simp [fieldChars, quote]
  simp only [htext, namedField?, stringRest?_quote, skipSpace_cons (c := ':') rfl,
    hregular.skipSpace_eq, hread rest h, Option.bind_eq_bind, Option.bind_some, Option.pure_def]

theorem skipSpace_fieldChars (field : String × Json) (rest : List Char) :
    skipSpace (fieldChars field ++ rest) = fieldChars field ++ rest := rfl

/-- Fields behind their commas are read one after the other. By induction on the fields. -/
theorem moreFields_eq (hregular : ∀ field ∈ fields, Regular field.2)
    (hread : ∀ field ∈ fields, ReadsBack nested field.2) {count : Nat}
    (hcount : fields.length < count) (before : List (Option String × Json)) (rest : List Char) :
    moreFields nested count before (behindCommas fieldChars fields ++ '\x7d' :: rest) =
      some (before ++ fields.map fun (name, j) ↦ (some name, j), rest) := by
  induction fields generalizing count before with
  | nil =>
    obtain ⟨count, rfl⟩ := Nat.exists_eq_succ_of_ne_zero (Nat.ne_of_gt hcount)
    rw [List.map_nil, List.append_nil]
    rfl
  | cons field fields ih =>
    obtain ⟨count, rfl⟩ := Nat.exists_eq_succ_of_ne_zero (Nat.ne_zero_of_lt hcount)
    obtain ⟨hfield, hfields⟩ := List.forall_mem_cons.1 hregular
    obtain ⟨hreadField, hreadFields⟩ := List.forall_mem_cons.1 hread
    have hmore := ih hfields hreadFields (Nat.lt_of_succ_lt_succ hcount)
      (before ++ [(some field.1, field.2)])
    have hstops : Text.Stops goesOn (behindCommas fieldChars fields ++ '\x7d' :: rest) :=
      stops_behindCommas _ _ rfl
    have hread := namedField?_eq hfield hreadField hstops
    rw [behindCommas_cons, List.cons_append, List.append_assoc, moreFields, skipSpace_cons rfl]
    simp only [skipSpace_fieldChars, hread]
    simpa using hmore

theorem namedFields?_map (fields : List (String × Json)) :
    namedFields? (fields.map fun (name, j) ↦ (some name, j)) = some fields := by
  induction fields with
  | nil => rfl
  | cons field fields ih =>
    rw [namedFields?] at ih
    rw [namedFields?, List.map_cons, List.mapM_cons, ih]
    rfl

theorem objectRest?_eq (hregular : ∀ field ∈ fields, Regular field.2)
    (hread : ∀ field ∈ fields, ReadsBack nested field.2) (rest : List Char) :
    objectRest? nested (compactFields fields ++ '\x7d' :: rest) =
      some (some (.object fields), rest) := by
  cases fields with
  | nil => rfl
  | cons field fields =>
    obtain ⟨hfield, hfields⟩ := List.forall_mem_cons.1 hregular
    obtain ⟨hreadField, hreadFields⟩ := List.forall_mem_cons.1 hread
    have hlength := length_le_behindCommas fieldChars fields
    rw [compactFields_cons, List.append_assoc, objectRest?, skipSpace_fieldChars]
    split
    · next heq => cases heq
    · rw [namedField?_eq hfield hreadField (stops_behindCommas _ _ rfl)]
      simp only [Option.bind_eq_bind, Option.bind_some]
      rw [moreFields_eq hfields hreadFields
        (by simp only [List.length_append, List.length_cons]; omega)]
      exact congrArg (fun fields ↦ some (Option.map object fields, rest))
        (namedFields?_map (field :: fields))

theorem anyValue?_int (nested : Reader Json) (n : Int) (h : Text.Stops goesOn rest) :
    anyValue? nested ((toString n).toList ++ rest) = some (ofInt n, rest) := by
  have hliteral := numberLiteral?_toString n h
  obtain ⟨c, s, htext, hc⟩ := exists_cons_toString n
  rw [htext] at hliteral
  rw [htext, List.cons_append, anyValue?, if_neg (ne_of_beginsNumber hc rfl),
    if_neg (ne_of_beginsNumber hc rfl), if_neg (ne_of_beginsNumber hc rfl),
    if_neg (ne_of_beginsNumber hc rfl), if_neg (ne_of_beginsNumber hc rfl),
    if_neg (ne_of_beginsNumber hc rfl), ← List.cons_append, hliteral, ofInt, htext]
  rfl

theorem length_lt_of_mem_parts {part j : Json} (h : part ∈ j.parts) :
    (compactChars part).length < (compactChars j).length := by
  cases j with
  | array items =>
    cases items with
    | nil => cases h
    | cons first items =>
      have hmem : part ∈ first :: items := h
      have hle := length_write_le_behindCommas compactChars hmem
      rw [behindCommas_cons, ← compactItems_cons, List.length_cons] at hle
      simp only [compactChars, List.length_cons, List.length_append, List.length_nil]
      omega
  | object fields =>
    obtain ⟨field, hfield, rfl⟩ := List.mem_map.1 h
    cases fields with
    | nil => cases hfield
    | cons first fields =>
      have hle := length_write_le_behindCommas fieldChars hfield
      rw [behindCommas_cons, ← compactFields_cons, fieldChars, List.length_cons,
        List.length_append, List.length_cons] at hle
      simp only [compactChars, List.length_cons, List.length_append, List.length_nil]
      omega
  | _ => cases h

/-- A value is read back wherever its parts are. -/
theorem Regular.readsBack_anyValue? (h : Regular j)
    (hread : ∀ part ∈ j.parts, ReadsBack nested part) : ReadsBack (anyValue? nested) j := by
  intro rest hrest
  cases h with
  | null => rfl
  | bool b => cases b <;> rfl
  | int n => exact anyValue?_int nested n hrest
  | string text =>
    have htext : compactChars (.string text) ++ rest =
        '\x22' :: (text.toList.flatMap escape ++ '\x22' :: rest) := by
      simp [compactChars, quote]
    rw [htext, anyValue?, if_pos rfl, stringRest?_quote]
    rfl
  | @array items hregular =>
    have htext : compactChars (.array items) ++ rest =
        '[' :: (compactItems items ++ ']' :: rest) := by
      simp [compactChars]
    rw [htext]
    exact arrayRest?_eq hregular hread rest
  | @object fields hregular =>
    have hfields := List.forall_mem_map.1 hread
    have htext : compactChars (.object fields) ++ rest =
        '\x7b' :: (compactFields fields ++ '\x7d' :: rest) := by
      simp [compactChars]
    rw [htext]
    change (objectRest? nested _).map _ = _
    rw [objectRest?_eq hregular hfields]
    rfl

end Nested

/-- A value is read to its end as far as its text leaves room to nest. -/
theorem Regular.readsBack {j : Json} (h : Regular j) {depth : Nat}
    (hdepth : (compactChars j).length < depth) : ReadsBack (value? depth) j := by
  induction depth generalizing j with
  | zero => cases hdepth
  | succ depth ih =>
    refine h.readsBack_anyValue? fun part hpart ↦ ih (h.part hpart) ?_
    have hless := length_lt_of_mem_parts hpart
    omega

/-- The compact text of a tree is read as the tree. -/
theorem Regular.read?_compact {j : Json} (h : Regular j) : read? j.compact = some j := by
  have hspace := h.skipSpace_eq []
  have hread := h.readsBack (Nat.lt_succ_self _) [] (Text.stops_nil _)
  rw [List.append_nil] at hspace hread
  rw [read?, compact, String.toList_ofList, readChars?, hspace, hread]
  rfl

end EntitySql.Json
