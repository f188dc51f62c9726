import EntitySql.Proofs.Sql.Marker

/-!
# Quoted names before a statement

Binding copies a quoted name and goes on behind it as if nothing stood there, whatever the name is,
if the quote closes itself: a doubled one ends the quoted text and begins it again. A bracket does
not. Behind the first closing bracket of a name the rest of it is taken for the statement, and is
copied only as long as nothing in it is a quote, an opening bracket or an at-sign.
-/

namespace EntitySql

open Text

namespace Marker

/-- Binding a text behind one that has no marker in it and leaves no quote open. -/
theorem fill_chars_append (style : Style) (bag : ParamBag) (bound : Nat) (a : List Char)
    (ps : List Piece) :
    fill style bag bound (chars a ++ ps) =
      (fill style bag bound ps).map fun out ↦ (a ++ out.1, out.2) := by
  induction a with
  | nil => cases h : fill style bag bound ps <;> exact h
  | cons c a ih =>
    have hchars : chars (c :: a) ++ ps = .char c :: (chars a ++ ps) := rfl
    rw [hchars, fill, ih]
    cases fill style bag bound ps <;> rfl

end Marker

theorem bindMarkers_inert_append {a : String} (h : Marker.isInert a.toList = true) (sql : String)
    (bag : ParamBag) (d : Dialect) :
    bindMarkers (a ++ sql) bag d =
      (bindMarkers sql bag d).map fun bound ↦ { bound with sql := a ++ bound.sql } := by
  rw [bindMarkers, bindMarkers, Marker.scan_eq_fill, Marker.scan_eq_fill, String.toList_append,
    Marker.pieces_inert h, Marker.fill_chars_append]
  cases Marker.fill d.style bag 0 (Marker.pieces none 0 sql.toList) with
  | error e => rfl
  | ok out => simp [Except.map, bind, Except.bind, pure, Except.pure]

/-- Behind its first closing bracket a name has no quote, opening bracket or at-sign. -/
def EndsQuietly (name : String) : Prop :=
  ∀ c ∈ name.toList.dropWhile (· != ']'), c ≠ '@' ∧ Marker.closing? c = none

instance (name : String) : Decidable (EndsQuietly name) :=
  List.decidableBAll (fun c ↦ c ≠ '@' ∧ Marker.closing? c = none) _

theorem Dialect.quotes_cases (d : Dialect) : (d.style.opening = '[' ∧ d.style.closing = ']') ∨
    (d.style.opening = d.style.closing ∧ d.style.closing ≠ '@' ∧
      Marker.closing? d.style.closing = some d.style.closing) := by
  cases d <;> decide

/-- In brackets the text up to the first closing one is quoted, and the rest is not. -/
theorem isInert_bracketed_name {name : String} (h : EndsQuietly name) :
    Marker.isInert ('[' :: (doubled ']' name.toList ++ [']'])) = true := by
  have hbefore : ']' ∉ name.toList.takeWhile (· != ']') := by
    intro hmem
    simpa using List.mem_takeWhile_imp hmem
  have hsplit : doubled ']' name.toList = name.toList.takeWhile (· != ']') ++
      doubled ']' (name.toList.dropWhile (· != ']')) := by
    calc
      doubled ']' name.toList = doubled ']' (name.toList.takeWhile (· != ']') ++
          name.toList.dropWhile (· != ']')) := by rw [List.takeWhile_append_dropWhile]
      _ = _ := by rw [doubled_append, Marker.doubled_of_not_mem hbefore]
  have hquoted := Marker.isInert_bracketed hbefore
  rw [hsplit]
  unfold EndsQuietly at h
  cases hafter : name.toList.dropWhile (· != ']') with
  | nil => simpa [doubled] using hquoted
  | cons c rest =>
    rw [hafter] at h
    obtain rfl : c = ']' := by
      simpa [hafter] using List.head?_dropWhile_not (· != ']') name.toList
    have hquiet : ∀ c ∈ ']' :: (doubled ']' rest ++ [']']),
        c ≠ '@' ∧ Marker.closing? c = none := by
      intro c hc
      simp only [List.mem_cons, List.mem_append, List.not_mem_nil, or_false] at hc
      rcases hc with rfl | hrest | rfl
      · decide
      · exact h c (List.mem_cons_of_mem _ (mem_of_mem_doubled hrest))
      · decide
    rw [doubled_cons_self]
    simpa using Marker.isInert_append hquoted (Marker.isInert_of_quiet hquiet)

theorem isInert_quote (d : Dialect) {name : String}
    (h : d.style.closing = ']' → EndsQuietly name) :
    Marker.isInert (d.style.quote name).toList = true := by
  rw [Style.quote, String.toList_ofList, Style.quoteChars, List.cons_append]
  rcases d.quotes_cases with ⟨hopening, hclosing⟩ | ⟨hopening, hne, hclosing⟩
  · rw [hopening, hclosing]
    exact isInert_bracketed_name (h hclosing)
  · rw [hopening]
    exact Marker.isInert_doubled hne hclosing name.toList

/-- A quoted name in front of a statement is copied, and the statement is bound or refused as
without it. -/
theorem bindMarkers_quote_append (d : Dialect) {name : String}
    (h : d.style.closing = ']' → EndsQuietly name) (sql : String) (bag : ParamBag) :
    bindMarkers (d.style.quote name ++ sql) bag d =
      (bindMarkers sql bag d).map fun bound ↦
        { bound with sql := d.style.quote name ++ bound.sql } :=
  bindMarkers_inert_append (isInert_quote d h) sql bag d

/-- A name with quotes, a marker and an opening bracket in it and a closing one at its end. -/
theorem bindMarkers_quote_append_brackets :
    let name := "a\x27 @x \x22b\x60 []"
    let bag : ParamBag := ⟨[("x", .int 7)]⟩
    (Dialect.sqlServer.style.closing = ']' → EndsQuietly name) ∧
      bindMarkers (Dialect.sqlServer.style.quote name ++ " = @x") bag .sqlServer =
        .ok ⟨"[a\x27 @x \x22b\x60 []]] = @p1", [.int 7]⟩ := by
  intro name bag
  have hends : Dialect.sqlServer.style.closing = ']' → EndsQuietly name := fun _ ↦ by decide
  have hbound : bindMarkers " = @x" bag .sqlServer = .ok ⟨" = @p1", [.int 7]⟩ := rfl
  have hquoted : Dialect.sqlServer.style.quote name = "[a\x27 @x \x22b\x60 []]]" := by decide
  refine ⟨hends, ?_⟩
  rw [bindMarkers_quote_append .sqlServer hends, hbound, hquoted]
  rfl

/-- Behind a closing bracket a name is taken for the statement: a marker in it asks for a value. -/
theorem quoted_name_asks_for_value :
    let name := "]@x"
    Dialect.sqlServer.style.quote name = "[]]@x]" ∧
      bindMarkers "" .empty .sqlServer = .ok ⟨"", []⟩ ∧
      bindMarkers (Dialect.sqlServer.style.quote name ++ "") .empty .sqlServer =
        .error (.validation (.missingParameter "x")) := by
  intro name
  have hquoted : Dialect.sqlServer.style.quote name = "[]]@x]" := by decide
  refine ⟨hquoted, rfl, ?_⟩
  rw [hquoted, String.append_empty]
  rfl

end EntitySql
