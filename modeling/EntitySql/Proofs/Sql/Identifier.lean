import EntitySql.Proofs.Text.Run
import EntitySql.Sql.Style

/-!
# Identifiers in a statement

A quoted identifier is read up to the first closing quote that is not doubled. This gives back the
name that was quoted and leaves what stands behind it, whatever the name and the quotes are, and no
other text is read so. A name of ASCII that is not reserved stands bare, so that the only quotes in
an identifier are those around it.
-/

namespace EntitySql

open Text

/-- The text up to an undoubled closing quote, with doubled ones read as one, and what follows. -/
def quotedBody? (closing : Char) : List Char → Option (List Char × List Char)
  | [] => none
  | c :: s =>
    if c ≠ closing then (quotedBody? closing s).map fun body ↦ (c :: body.1, body.2)
    else
      match s with
      | [] => some ([], [])
      | d :: t =>
        if d = closing then (quotedBody? closing t).map fun body ↦ (c :: body.1, body.2)
        else some ([], d :: t)

theorem doubled_cons_self (quote : Char) (s : List Char) :
    doubled quote (quote :: s) = quote :: quote :: doubled quote s := by simp [doubled]

theorem doubled_cons_of_ne {quote c : Char} (s : List Char) (h : c ≠ quote) :
    doubled quote (c :: s) = c :: doubled quote s := by simp [doubled, h]

theorem doubled_append (quote : Char) (a b : List Char) :
    doubled quote (a ++ b) = doubled quote a ++ doubled quote b := by
  simp [doubled]

theorem mem_of_mem_doubled {quote c : Char} {s : List Char} (h : c ∈ doubled quote s) :
    c ∈ s := by
  obtain ⟨d, hd, hc⟩ := List.mem_flatMap.1 h
  obtain rfl : c = d := by
    split at hc <;> simpa using hc
  exact hd

theorem quotedBody?_cons_of_ne {closing c : Char} (s : List Char) (h : c ≠ closing) :
    quotedBody? closing (c :: s) =
      (quotedBody? closing s).map fun body ↦ (c :: body.1, body.2) := by
  rw [quotedBody?.eq_def]
  simp [h]

theorem quotedBody?_cons_cons (closing : Char) (s : List Char) :
    quotedBody? closing (closing :: closing :: s) =
      (quotedBody? closing s).map fun body ↦ (closing :: body.1, body.2) := by
  simp [quotedBody?]

theorem quotedBody?_end {closing : Char} {s : List Char} (h : Stops (· == closing) s) :
    quotedBody? closing (closing :: s) = some ([], s) := by
  cases s with
  | nil => simp [quotedBody?]
  | cons d s =>
    have hd : d ≠ closing := by simpa using h
    simp [quotedBody?, hd]

/-- A name with its closing quotes doubled is read to its own closing quote. -/
theorem quotedBody?_doubled {closing : Char} {s : List Char} (name : List Char)
    (h : Stops (· == closing) s) :
    quotedBody? closing (doubled closing name ++ closing :: s) = some (name, s) := by
  induction name with
  | nil => exact quotedBody?_end h
  | cons c name ih =>
    by_cases hc : c = closing
    · subst hc
      rw [doubled_cons_self, List.cons_append, List.cons_append, quotedBody?_cons_cons, ih]
      rfl
    · rw [doubled_cons_of_ne name hc, List.cons_append, quotedBody?_cons_of_ne _ hc, ih]
      rfl

/-- Only a name that was quoted is read. -/
theorem eq_doubled_of_quotedBody? {closing : Char} {s name rest : List Char}
    (h : quotedBody? closing s = some (name, rest)) :
    s = doubled closing name ++ closing :: rest ∧ Stops (· == closing) rest := by
  fun_induction quotedBody? closing s generalizing name rest with
  | case1 => cases h
  | case2 c s hc ih =>
    obtain ⟨⟨body, after⟩, hbody, heq⟩ := Option.map_eq_some_iff.1 h
    cases heq
    obtain ⟨rfl, hstops⟩ := ih hbody
    rw [doubled_cons_of_ne body hc]
    exact ⟨rfl, hstops⟩
  | case3 c hc =>
    cases h
    obtain rfl : c = closing := not_not.1 hc
    exact ⟨rfl, stops_nil _⟩
  | case4 c hc t ih =>
    obtain ⟨⟨body, after⟩, hbody, heq⟩ := Option.map_eq_some_iff.1 h
    cases heq
    obtain ⟨rfl, hstops⟩ := ih hbody
    obtain rfl : c = closing := not_not.1 hc
    rw [doubled_cons_self]
    exact ⟨rfl, hstops⟩
  | case5 c hc d t hd =>
    cases h
    obtain rfl : c = closing := not_not.1 hc
    exact ⟨rfl, by simpa using hd⟩

namespace Style

/-! ## Quoted names -/

/-- The name that stands in quotes at the head of a text, and what follows its quotes. -/
def quotedName? (style : Style) (text : String) : Option (String × String) :=
  match text.toList with
  | [] => none
  | c :: s =>
    if c = style.opening then
      (quotedBody? style.closing s).map fun body ↦ (String.ofList body.1, String.ofList body.2)
    else none

theorem toList_quote_append (style : Style) (name rest : String) :
    (style.quote name ++ rest).toList =
      style.opening :: (doubled style.closing name.toList ++ style.closing :: rest.toList) := by
  simp [quote, quoteChars]

theorem quotedName?_eq_some_iff {style : Style} {text name rest : String} :
    style.quotedName? text = some (name, rest) ↔ ∃ s, text.toList = style.opening :: s ∧
      quotedBody? style.closing s = some (name.toList, rest.toList) := by
  unfold quotedName?
  cases text.toList with
  | nil => simp
  | cons c s =>
    simp only [List.cons.injEq]
    by_cases hc : c = style.opening
    · rw [if_pos hc, Option.map_eq_some_iff]
      constructor
      · rintro ⟨⟨body, after⟩, hbody, heq⟩
        cases heq
        exact ⟨s, ⟨hc, rfl⟩, by simpa using hbody⟩
      · rintro ⟨_, ⟨-, rfl⟩, hbody⟩
        exact ⟨_, hbody, by simp⟩
    · simp [hc]

/-- A text is read as a name in quotes, with some rest behind them, just where it is that name
quoted and then the rest, and the rest does not begin with another closing quote. So no name ends
its quotes early, whatever quotes are in it. -/
theorem quoted_names_read_back (style : Style) (text name rest : String) :
    style.quotedName? text = some (name, rest) ↔
      text = style.quote name ++ rest ∧ Stops (· == style.closing) rest.toList := by
  rw [quotedName?_eq_some_iff, ← String.toList_inj, toList_quote_append]
  constructor
  · rintro ⟨s, htext, hbody⟩
    obtain ⟨rfl, hrest⟩ := eq_doubled_of_quotedBody? hbody
    exact ⟨htext, hrest⟩
  · rintro ⟨htext, hrest⟩
    exact ⟨_, htext, quotedBody?_doubled name.toList hrest⟩

/-- Closing brackets at the head, inside and at the end of a name. -/
example : Dialect.sqlServer.style.quotedName? "[]]a]]]]b]]]=[" = some ("]a]]b]", "=[") := by
  decide +kernel

/-! ## Reserved names -/

theorem toList_identifier_of_isReserved {name : String} (style : Style)
    (h : isReserved name = true) :
    (style.identifier name).toList =
      style.opening :: (doubled style.closing name.toList ++ [style.closing]) := by
  simp [identifier, h, quote, quoteChars]

theorem identifier_of_not_isReserved {name : String} (style : Style)
    (h : isReserved name = false) : style.identifier name = name := by
  simp [identifier, h]

end Style

end EntitySql
