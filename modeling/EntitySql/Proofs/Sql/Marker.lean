import EntitySql.Proofs.Outcome
import EntitySql.Proofs.Sql.Identifier
import EntitySql.Proofs.Sql.ParamBag
import EntitySql.Sql.Marker

/-!
# Binding a statement

A statement is cut into the markers that stand outside quoted text and the characters between
them. Where every marker has a value, binding puts a placeholder or NULL in the place of each and
lists the values that are not null in the order of their markers.
-/

namespace EntitySql

open Text

namespace Marker

/-- A character of a statement, or a marker that stands outside quoted text. -/
inductive Piece
  | char (c : Char)
  | marker (name : String)

/-- The pieces of a statement. `quote` is the closing quote while inside quoted text, and
`skipped` counts characters that belong to a piece already taken. -/
def pieces : (quote : Option Char) → (skipped : Nat) → List Char → List Piece
  | _, _, [] => []
  | quote, skipped + 1, _ :: s => pieces quote skipped s
  | some quote, 0, c :: s => .char c :: pieces (if c = quote then none else some quote) 0 s
  | none, 0, c :: s =>
    if c ≠ '@' then .char c :: pieces (closing? c) 0 s
    else if s.head? = some '@' then .char '@' :: .char '@' :: pieces none 1 s
    else
      let name := s.takeWhile isAsciiWordPart
      if name.isEmpty then .char '@' :: pieces none 0 s
      else .marker (String.ofList name) :: pieces none name.length s

def names : List Piece → List String
  | [] => []
  | .char _ :: ps => names ps
  | .marker name :: ps => name :: names ps

def replaced : List Piece → List String → List Char
  | [], _ => []
  | .char c :: ps, slots => c :: replaced ps slots
  | .marker _ :: ps, slots => (slots.headD "").toList ++ replaced ps slots.tail

end Marker

def markers (sql : String) : List String := Marker.names (Marker.pieces none 0 sql.toList)

namespace Style

/-- What stands for each of some values after `bound` placeholders: the next placeholder, or NULL
for a null. -/
def slotsFrom (style : Style) : (bound : Nat) → List Value → List String
  | _, [] => []
  | bound, v :: vs =>
    if v.isNull then "NULL" :: style.slotsFrom bound vs
    else style.placeholder (bound + 1) :: style.slotsFrom (bound + 1) vs

def slots (style : Style) (values : List Value) : List String := style.slotsFrom 0 values

end Style

def present (values : List Value) : List Value := values.filter fun v ↦ !v.isNull

namespace Marker

/-- Pieces bound one after the other: a character stays, and a marker becomes the slot of its value
or, where it has none, is what binding fails for. -/
def fill (style : Style) (bag : ParamBag) : (bound : Nat) → List Piece →
    Except Error (List Char × List Value)
  | _, [] => .ok ([], [])
  | bound, .char c :: ps => (fill style bag bound ps).map fun out ↦ (c :: out.1, out.2)
  | bound, .marker name :: ps =>
    match lookup? bag name with
    | none => .error (.validation (.missingParameter name))
    | some v =>
      if v.isNull then
        (fill style bag bound ps).map fun out ↦ ("NULL".toList ++ out.1, out.2)
      else
        (fill style bag (bound + 1) ps).map fun out ↦
          ((style.placeholder (bound + 1)).toList ++ out.1, v :: out.2)

/-- Scanning a text, from the middle of a statement on, binds its pieces. -/
theorem scan_eq_fill (style : Style) (bag : ParamBag) (quote : Option Char)
    (skipped bound : Nat) (s : List Char) :
    scan style bag quote skipped bound s = fill style bag bound (pieces quote skipped s) := by
  induction quote, skipped, s using pieces.induct generalizing bound with
  | case1 quote skipped => rw [scan, pieces, fill]
  | case2 quote skipped c s ih =>
    rw [scan, pieces]
    exact ih bound
  | case3 quote c s ih =>
    rw [scan, pieces, fill, ih]
    exact bind_pure_comp _ _
  | case4 c s hc ih =>
    rw [scan, if_pos hc, pieces, if_pos hc, fill, ih]
    exact bind_pure_comp _ _
  | case5 c s hc hhead ih =>
    rw [scan, if_neg hc, if_pos hhead, pieces, if_neg hc, if_pos hhead, fill, fill, ih]
    cases fill style bag bound (pieces none 1 s) <;> rfl
  | case6 c s hc hhead name hempty ih =>
    rw [scan, if_neg hc, if_neg hhead, if_pos hempty, pieces, if_neg hc, if_neg hhead,
      if_pos hempty, fill, ih]
    exact bind_pure_comp _ _
  | case7 c s hc hhead name hempty ih =>
    rw [scan, if_neg hc, if_neg hhead, if_neg hempty, pieces, if_neg hc, if_neg hhead,
      if_neg hempty, fill]
    cases lookup? bag (String.ofList name) with
    | none => rfl
    | some v =>
      cases v with
      | null => exact (bind_pure_comp _ _).trans (congrArg (Except.map _) (ih bound))
      | _ => exact (bind_pure_comp _ _).trans (congrArg (Except.map _) (ih (bound + 1)))

/-- Where every marker has a value, each gets its slot. -/
theorem fill_eq (style : Style) (bag : ParamBag) (bound : Nat) (ps : List Piece)
    (values : List Value) (h : (names ps).map (lookup? bag) = values.map some) :
    fill style bag bound ps = .ok (replaced ps (style.slotsFrom bound values), present values) := by
  induction ps generalizing bound values with
  | nil =>
    have hvalues : values = [] := by simpa [names] using h.symm
    rw [hvalues]
    rfl
  | cons p ps ih =>
    cases p with
    | char c =>
      rw [fill, ih bound values h]
      rfl
    | marker name =>
      obtain ⟨v, vs, hcons, hv, hvs⟩ := List.map_eq_cons_iff.1 h.symm
      subst hcons
      rw [fill, ← hv, Style.slotsFrom]
      cases hnull : v.isNull with
      | true =>
        simp only [if_pos, ih bound vs hvs.symm]
        simp [Except.map, replaced, present, hnull]
      | false =>
        simp only [ih (bound + 1) vs hvs.symm]
        simp [Except.map, replaced, present, hnull]

/-- The first marker without a value is what binding fails for. -/
theorem fill_eq_error (style : Style) (bag : ParamBag) (bound : Nat) {ps : List Piece}
    {before after : List String} {name : String} (h : names ps = before ++ name :: after)
    (hbefore : ∀ n ∈ before, (lookup? bag n).isSome = true) (hname : lookup? bag name = none) :
    fill style bag bound ps = .error (.validation (.missingParameter name)) := by
  induction ps generalizing bound before with
  | nil => simp [names] at h
  | cons p ps ih =>
    cases p with
    | char c =>
      rw [fill, ih bound h hbefore]
      rfl
    | marker first =>
      rw [names] at h
      cases before with
      | nil =>
        obtain ⟨rfl, -⟩ := List.cons.inj h
        rw [fill, hname]
      | cons n before =>
        obtain ⟨rfl, hrest⟩ := List.cons.inj h
        obtain ⟨v, hv⟩ := Option.isSome_iff_exists.1 (hbefore first List.mem_cons_self)
        have hlater : ∀ n ∈ before, (lookup? bag n).isSome = true :=
          fun n hn ↦ hbefore n (List.mem_cons_of_mem _ hn)
        rw [fill, hv]
        dsimp only
        rw [ih bound hrest hlater, ih (bound + 1) hrest hlater]
        split <;> rfl

theorem lookup?_of_mem {bag : ParamBag} {name : String} {v : Value} (h : bag.Distinct)
    (hmem : (name, v) ∈ bag.entries) : lookup? bag name = some v := by
  rw [lookup?, ParamBag.get?_of_mem h hmem, Option.some_or]

theorem map_lookup?_of_subset {bag : ParamBag} {entries : List (String × Value)}
    (h : bag.Distinct) (hentries : entries ⊆ bag.entries) :
    (entries.map (·.1)).map (lookup? bag) = (entries.map (·.2)).map some := by
  rw [List.map_map, List.map_map]
  apply List.map_congr_left
  intro entry hentry
  exact lookup?_of_mem h (hentries hentry)

end Marker

/-- A statement whose markers all have values is bound to them. -/
theorem bindMarkers_eq {sql : String} {bag : ParamBag} {dialect : Dialect} {values : List Value}
    (h : (markers sql).map (Marker.lookup? bag) = values.map some) :
    bindMarkers sql bag dialect =
      .ok ⟨String.ofList (Marker.replaced (Marker.pieces none 0 sql.toList)
        (dialect.style.slots values)), present values⟩ := by
  rw [bindMarkers, Marker.scan_eq_fill, Marker.fill_eq dialect.style bag 0 _ values h]
  rfl

namespace Marker

/-! ## Text without markers -/

/-- The quote that a text leaves open, unless an at-sign stands outside quotes in it. -/
def quoteAfter : Option Char → List Char → Option (Option Char)
  | quote, [] => some quote
  | some quote, c :: s => quoteAfter (if c = quote then none else some quote) s
  | none, c :: s => if c = '@' then none else quoteAfter (closing? c) s

def isInert (s : List Char) : Bool := quoteAfter none s == some none

def chars (s : List Char) : List Piece := s.map .char

variable {a b s : List Char} {quote quote' : Option Char} {pa pb : List Piece}

theorem pieces_of_quoteAfter (h : quoteAfter quote a = some quote') (s : List Char) :
    pieces quote 0 (a ++ s) = chars a ++ pieces quote' 0 s := by
  induction a generalizing quote with
  | nil =>
    cases h
    rfl
  | cons c a ih =>
    cases quote with
    | some q =>
      rw [quoteAfter] at h
      rw [List.cons_append, pieces, ih h]
      rfl
    | none =>
      by_cases hc : c = '@'
      · simp [quoteAfter, hc] at h
      · rw [quoteAfter, if_neg hc] at h
        rw [List.cons_append, pieces, if_pos hc, ih h]
        rfl

theorem quoteAfter_append (quote : Option Char) (a b : List Char) :
    quoteAfter quote (a ++ b) = (quoteAfter quote a).bind (quoteAfter · b) := by
  induction a generalizing quote with
  | nil => rfl
  | cons c a ih =>
    cases quote with
    | some q => exact ih _
    | none =>
      by_cases hc : c = '@'
      · simp [quoteAfter, hc]
      · simpa [quoteAfter, hc] using ih _

theorem isInert_append (ha : isInert a = true) (hb : isInert b = true) :
    isInert (a ++ b) = true := by
  simp only [isInert, beq_iff_eq] at ha hb ⊢
  rw [quoteAfter_append, ha, Option.bind_some, hb]

theorem isInert_append_string {a b : String} (ha : isInert a.toList = true)
    (hb : isInert b.toList = true) : isInert (a ++ b).toList = true := by
  rw [String.toList_append]
  exact isInert_append ha hb

theorem isInert_cons {c : Char} (hc : c ≠ '@') (hquote : closing? c = none)
    (hs : isInert s = true) : isInert (c :: s) = true := by
  simpa [isInert, quoteAfter, hc, hquote] using hs

theorem isInert_intercalate {separator : List Char} (hseparator : isInert separator = true)
    {parts : List (List Char)} (hparts : ∀ part ∈ parts, isInert part = true) :
    isInert (separator.intercalate parts) = true := by
  induction parts with
  | nil => rfl
  | cons part parts ih =>
    cases parts with
    | nil => simpa using hparts
    | cons other parts =>
      rw [List.intercalate_cons_cons]
      refine isInert_append (isInert_append (hparts part (by simp)) hseparator) (ih ?_)
      intro p hp
      exact hparts p (by simp [List.mem_cons.1 hp])

theorem not_special_of_isAsciiWordPart {c : Char} (h : isAsciiWordPart c = true) :
    c ≠ '@' ∧ closing? c = none := by
  have hne (d : Char) (hd : isAsciiWordPart d = false) : c ≠ d :=
    ne_of_apply_ne isAsciiWordPart (by simp [h, hd])
  refine ⟨hne '@' (by decide), ?_⟩
  rw [closing?, if_neg, if_neg (hne '[' (by decide))]
  rintro (rfl | rfl | rfl) <;> exact absurd h (by decide)

/-- A text of characters that are no quotes, opening brackets or at-signs. -/
theorem isInert_of_quiet (h : ∀ c ∈ s, c ≠ '@' ∧ closing? c = none) : isInert s = true := by
  induction s with
  | nil => rfl
  | cons c s ih =>
    have hc := h c List.mem_cons_self
    exact isInert_cons hc.1 hc.2 (ih fun d hd ↦ h d (List.mem_cons_of_mem c hd))

theorem isInert_of_word (h : ∀ c ∈ s, isAsciiWordPart c = true) : isInert s = true :=
  isInert_of_quiet fun c hc ↦ not_special_of_isAsciiWordPart (h c hc)

theorem quoteAfter_quoted {q : Char} (h : q ∉ s) :
    quoteAfter (some q) (s ++ [q]) = some none := by
  induction s with
  | nil => simp [quoteAfter]
  | cons c s ih =>
    simp only [List.mem_cons, not_or] at h
    rw [List.cons_append, quoteAfter, if_neg (Ne.symm h.1)]
    exact ih h.2

theorem isInert_bracketed (h : ']' ∉ s) : isInert ('[' :: (s ++ [']'])) = true := by
  have hclosed : quoteAfter (some ']') (s ++ [']']) = some none := quoteAfter_quoted h
  simpa [isInert, quoteAfter, closing?] using hclosed

/-- A quote that closes itself may stand doubled in what it encloses: each pair of them ends the
quoted text and begins it again. -/
theorem isInert_doubled {q : Char} (hq : q ≠ '@') (hclosing : closing? q = some q)
    (s : List Char) : isInert (q :: (doubled q s ++ [q])) = true := by
  have hclosed : quoteAfter (some q) (doubled q s ++ [q]) = some none := by
    induction s with
    | nil => simp [doubled, quoteAfter]
    | cons c s ih =>
      by_cases hc : c = q
      · subst hc
        rw [doubled_cons_self, List.cons_append, List.cons_append, quoteAfter, if_pos rfl,
          quoteAfter, if_neg hq, hclosing, ih]
      · rw [doubled_cons_of_ne s hc, List.cons_append, quoteAfter, if_neg hc, ih]
  simpa [isInert, quoteAfter, hq, hclosing] using hclosed

theorem doubled_of_not_mem {q : Char} (h : q ∉ s) : doubled q s = s := by
  induction s with
  | nil => rfl
  | cons c s ih =>
    simp only [List.mem_cons, not_or] at h
    rw [doubled_cons_of_ne s (Ne.symm h.1), ih h.2]

/-- An identifier has no marker in it, whether it stands in quotes or bare. -/
theorem isInert_identifier (d : Dialect) {name : String}
    (hname : isAsciiName name.toList = true) :
    isInert (d.style.identifier name).toList = true := by
  have hword : ∀ c ∈ name.toList, isAsciiWordPart c = true :=
    fun c hc ↦ isAsciiWordPart_of_mem hname hc
  cases hr : isReserved name with
  | false =>
    rw [Style.identifier_of_not_isReserved _ hr]
    exact isInert_of_word hword
  | true =>
    have hclosing : d.style.closing ∉ name.toList := by
      intro hmem
      have hpart := hword _ hmem
      cases d <;> exact absurd hpart (by decide)
    have hopening : d.style.opening ≠ '@' ∧
        closing? d.style.opening = some d.style.closing := by
      cases d <;> decide
    rw [Style.toList_identifier_of_isReserved _ hr, doubled_of_not_mem hclosing, isInert,
      quoteAfter, if_neg hopening.1, hopening.2, quoteAfter_quoted hclosing]
    rfl

/-! ## Statements put together -/

/-- A text whose pieces, where no name goes on behind it, are these. -/
def Splits (text : List Char) (ps : List Piece) : Prop :=
  ∀ s, Stops isAsciiWordPart s → pieces none 0 (text ++ s) = ps ++ pieces none 0 s

/-- Text without a marker is copied. -/
theorem pieces_inert (h : isInert a = true) (s : List Char) :
    pieces none 0 (a ++ s) = chars a ++ pieces none 0 s :=
  pieces_of_quoteAfter (beq_iff_eq.1 h) s

theorem splits_inert (h : isInert a = true) : Splits a (chars a) :=
  fun s _ ↦ pieces_inert h s

theorem Splits.inert_append (ha : isInert a = true) (hb : Splits b pb) :
    Splits (a ++ b) (chars a ++ pb) := by
  intro s hs
  rw [List.append_assoc, pieces_inert ha, hb s hs, List.append_assoc]

/-- A text that does not begin with a part of a name may follow any other. -/
theorem Splits.append (ha : Splits a pa) (hb : Splits b pb) (hne : b ≠ [])
    (hstops : Stops isAsciiWordPart b) : Splits (a ++ b) (pa ++ pb) := by
  intro s hs
  have hrest : Stops isAsciiWordPart (b ++ s) := by
    cases b with
    | nil => exact absurd rfl hne
    | cons c b => simpa using hstops
  rw [List.append_assoc, ha _ hrest, hb s hs, List.append_assoc]

theorem pieces_skip (quote : Option Char) (a s : List Char) :
    pieces quote a.length (a ++ s) = pieces quote 0 s := by
  induction a with
  | nil => rfl
  | cons c a ih =>
    rw [List.length_cons, List.cons_append, pieces]
    exact ih

/-- A marker is one piece, as far as its name goes. -/
theorem splits_marker {name : String} (hne : name.toList ≠ [])
    (hname : ∀ c ∈ name.toList, isAsciiWordPart c = true) :
    Splits (EntitySql.marker name).toList [.marker name] := by
  intro s hs
  have htake : (name.toList ++ s).takeWhile isAsciiWordPart = name.toList := takeWhile_run hname hs
  have hhead : (name.toList ++ s).head? ≠ some '@' := by
    intro h
    cases hlist : name.toList with
    | nil => exact hne hlist
    | cons c w =>
      have hc := hname c (by simp [hlist])
      simp only [hlist, List.cons_append, List.head?_cons, Option.some.injEq] at h
      rw [h] at hc
      exact absurd hc (by decide)
  have htext : (EntitySql.marker name).toList ++ s = '@' :: (name.toList ++ s) := by
    simp [EntitySql.marker]
  rw [htext, pieces, if_neg (by simp), if_neg hhead]
  simp only [htake, List.isEmpty_iff, if_neg hne, String.ofList_toList, pieces_skip]
  rfl

theorem names_append (pa pb : List Piece) : names (pa ++ pb) = names pa ++ names pb := by
  induction pa with
  | nil => rfl
  | cons p pa ih =>
    cases p with
    | char c => exact ih
    | marker name => exact congrArg (name :: ·) ih

@[simp]
theorem names_chars (a : List Char) : names (chars a) = [] := by
  induction a with
  | nil => rfl
  | cons c a ih => exact ih

theorem replaced_chars_append (a : List Char) (pb : List Piece) (slots : List String) :
    replaced (chars a ++ pb) slots = a ++ replaced pb slots := by
  induction a with
  | nil => rfl
  | cons c a ih => exact congrArg (c :: ·) ih

theorem names_intercalate (separator : List Char) (parts : List (List Piece)) :
    names ((chars separator).intercalate parts) = parts.flatMap names := by
  induction parts with
  | nil => rfl
  | cons part parts ih =>
    cases parts with
    | nil => simp
    | cons other parts =>
      rw [List.intercalate_cons_cons, names_append, names_append, names_chars, ih]
      simp

/-- Parts with a separator between them that has no marker and begins no name. -/
theorem splits_intercalate {separator : List Char} (hinert : isInert separator = true)
    (hne : separator ≠ []) (hstops : Stops isAsciiWordPart separator)
    (parts : List (List Char × List Piece)) (hparts : ∀ part ∈ parts, Splits part.1 part.2) :
    Splits (separator.intercalate (parts.map (·.1)))
      ((chars separator).intercalate (parts.map (·.2))) := by
  induction parts with
  | nil => exact splits_inert (a := []) rfl
  | cons part parts ih =>
    cases parts with
    | nil => simpa using hparts
    | cons other parts =>
      have hrest := ih fun p hp ↦ hparts p (by simp [List.mem_cons.1 hp])
      have hseparated := hrest.inert_append hinert
      have hstops' : Stops isAsciiWordPart
          (separator ++ separator.intercalate ((other :: parts).map (·.1))) := by
        cases separator with
        | nil => exact absurd rfl hne
        | cons c separator => simpa using hstops
      have h := (hparts part (by simp)).append hseparated (by simp [hne]) hstops'
      simpa only [List.map_cons, List.intercalate_cons_cons, List.append_assoc] using h

theorem Splits.pieces_eq (h : Splits a pa) : pieces none 0 a = pa := by
  have hpieces := h [] (stops_nil _)
  rw [List.append_nil, pieces, List.append_nil] at hpieces
  exact hpieces

/-- The markers of a text are those of its pieces. -/
theorem markers_of_splits {sql : String} (h : Splits sql.toList pa) : markers sql = names pa := by
  rw [markers, h.pieces_eq]

end Marker

end EntitySql
