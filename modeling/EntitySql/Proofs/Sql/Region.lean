import EntitySql.Proofs.Sql.Lowering
import EntitySql.Proofs.Sql.Marker
import Mathlib.Data.List.Forall2

/-!
# The regions of a statement

A statement is a sequence of regions: plain text, quoted and bracketed text, pairs of at-signs and
markers. Binding replaces the markers, each by the slot of its value, and copies everything else as
it stands. If a marker has no value, binding fails for the first one that has none. No marker may
be followed by a character that would go on with its name.
-/

namespace EntitySql

open Text

/-! ## Regions -/

def quoteMarks : List Char := ['\x27', '\x22', '\x60']

def isPlain (c : Char) : Bool := c ∉ quoteMarks ∧ c ∉ ['[', ']', '@']

/-- A part of a statement that is copied as a whole, or replaced as a whole. -/
inductive Region
  | plain (text : List Char) (h : ∀ c ∈ text, isPlain c = true)
  /-- A text in quotes, written with every quote in it doubled. -/
  | quoted (quote : Char) (body : List Char) (h : quote ∈ quoteMarks)
  | bracketed (body : List Char) (h : ']' ∉ body)
  | atSigns
  | marker (name : String) (h : IsParamName name)

namespace Region

def text : Region → List Char
  | plain text _ => text
  | quoted quote body _ => quote :: (doubled quote body ++ [quote])
  | bracketed body _ => '[' :: (body ++ [']'])
  | atSigns => ['@', '@']
  | marker name _ => (EntitySql.marker name).toList

def name? : Region → Option String
  | marker name _ => some name
  | _ => none

def names (rs : List Region) : List String := rs.filterMap name?

def sql (rs : List Region) : String := String.ofList (rs.flatMap text)

/-- Behind no marker does the text go on with its name; an empty plain text does not end it. -/
def Separated : List Region → Prop
  | [] => True
  | r :: rs => (r.name?.isSome → Stops isAsciiWordPart (rs.flatMap text)) ∧ Separated rs

instance decidableSeparated : (rs : List Region) → Decidable (Separated rs)
  | [] => .isTrue trivial
  | _ :: rs => @instDecidableAnd _ _ _ (decidableSeparated rs)

/-- The regions as text, with a slot in the place of each marker. -/
def filled : List Region → List String → List Char
  | [], _ => []
  | marker _ _ :: rs, slots => (slots.headD "").toList ++ filled rs slots.tail
  | r :: rs, slots => r.text ++ filled rs slots

/-! ## The pieces of regions -/

def pieces : Region → List Marker.Piece
  | marker name _ => [.marker name]
  | r => Marker.chars r.text

theorem closing?_of_mem_quoteMarks {c : Char} (h : c ∈ quoteMarks) :
    c ≠ '@' ∧ Marker.closing? c = some c := by
  simp only [quoteMarks, List.mem_cons, List.not_mem_nil, or_false] at h
  rcases h with rfl | rfl | rfl <;> decide

theorem closing?_of_isPlain {c : Char} (h : isPlain c = true) :
    c ≠ '@' ∧ Marker.closing? c = none := by
  simp only [isPlain, quoteMarks, List.mem_cons, List.not_mem_nil, or_false, not_or,
    decide_eq_true_eq] at h
  simp [Marker.closing?, h]

/-- What is not a marker has none in it and leaves no quote open, except that two at-signs are no
marker either. -/
theorem pieces_text (r : Region) {s : List Char}
    (h : r.name?.isSome → Stops isAsciiWordPart s) :
    Marker.pieces none 0 (r.text ++ s) = r.pieces ++ Marker.pieces none 0 s := by
  cases r with
  | plain text hplain =>
    exact Marker.pieces_inert
      (Marker.isInert_of_quiet fun c hc ↦ closing?_of_isPlain (hplain c hc)) s
  | quoted quote body hquote =>
    have hmark := closing?_of_mem_quoteMarks hquote
    exact Marker.pieces_inert (Marker.isInert_doubled hmark.1 hmark.2 body) s
  | bracketed body hbody => exact Marker.pieces_inert (Marker.isInert_bracketed hbody) s
  | atSigns => rfl
  | marker name hname => exact Marker.splits_marker hname.1 hname.2 s (h rfl)

/-- A text made of regions falls into their pieces, as long as no marker runs into a name. -/
theorem pieces_flatMap_text {rs : List Region} (h : Separated rs) :
    Marker.pieces none 0 (rs.flatMap text) = rs.flatMap pieces := by
  induction rs with
  | nil => rfl
  | cons r rs ih => rw [List.flatMap_cons, List.flatMap_cons, pieces_text r h.1, ih h.2]

theorem names_flatMap_pieces (rs : List Region) :
    Marker.names (rs.flatMap pieces) = names rs := by
  induction rs with
  | nil => rfl
  | cons r rs ih =>
    rw [List.flatMap_cons, Marker.names_append, ih]
    cases r with
    | marker name h => rfl
    | _ => exact congrArg (· ++ names rs) (Marker.names_chars _)

theorem replaced_flatMap_pieces (rs : List Region) (slots : List String) :
    Marker.replaced (rs.flatMap pieces) slots = filled rs slots := by
  induction rs generalizing slots with
  | nil => rfl
  | cons r rs ih =>
    rw [List.flatMap_cons]
    cases r with
    | marker name h => exact congrArg ((slots.headD "").toList ++ ·) (ih slots.tail)
    | _ => exact (Marker.replaced_chars_append _ _ slots).trans (congrArg (_ ++ ·) (ih slots))

end Region

/-! ## Values of markers -/

/-- The value that a bag has for a marker: that of the first entry of exactly this name or, where
there is none, of the first whose name differs only in the case of ASCII letters. -/
inductive ParamBag.Gives (bag : ParamBag) (name : String) (v : Value) : Prop
  | sameName (before after : List (String × Value)) :
    bag.entries = before ++ (name, v) :: after → (∀ entry ∈ before, entry.1 ≠ name) →
      bag.Gives name v
  | sameIgnoringCase (before after : List (String × Value)) (other : String) :
    name ∉ bag.names → bag.entries = before ++ (other, v) :: after →
      sameIgnoringCase other name = true →
      (∀ entry ∈ before, Text.sameIgnoringCase entry.1 name = false) → bag.Gives name v

/-- A look-up finds what the bag gives a name. -/
theorem Marker.lookup?_eq_some_iff {bag : ParamBag} {name : String} {v : Value} :
    lookup? bag name = some v ↔ bag.Gives name v := by
  have hexact (v : Value) : bag.get? name = some v ↔ ∃ before after,
      bag.entries = before ++ (name, v) :: after ∧ ∀ entry ∈ before, entry.1 ≠ name := by
    simp only [ParamBag.get?, List.lookup_eq_some_iff, bne_iff_ne, ne_comm]
  have hmissing : bag.get? name = none ↔ name ∉ bag.names := by
    simp only [ParamBag.get?, List.lookup_eq_none_iff, bne_iff_ne, ParamBag.names, List.mem_map,
      not_exists, not_and, ne_comm, ne_eq]
  rw [lookup?, Option.or_eq_some_iff, hexact, hmissing, Option.map_eq_some_iff]
  constructor
  · rintro (⟨before, after, hentries, hbefore⟩ | ⟨hnone, ⟨other, w⟩, hfind, rfl⟩)
    · exact .sameName before after hentries hbefore
    · obtain ⟨hsame, before, after, hentries, hbefore⟩ := List.find?_eq_some_iff_append.1 hfind
      exact .sameIgnoringCase before after other hnone hentries hsame
        fun entry hentry ↦ by simpa using hbefore entry hentry
  · rintro (⟨before, after, hentries, hbefore⟩ | ⟨before, after, other, hnone, hentries, hsame,
      hbefore⟩)
    · exact .inl ⟨before, after, hentries, hbefore⟩
    · refine .inr ⟨hnone, (other, v), List.find?_eq_some_iff_append.2 ⟨hsame, before, after,
        hentries, fun entry hentry ↦ ?_⟩, rfl⟩
      simp [hbefore entry hentry]

theorem Marker.isSome_lookup?_iff {bag : ParamBag} {name : String} :
    (lookup? bag name).isSome = true ↔ ∃ v, bag.Gives name v := by
  rw [Option.isSome_iff_exists]
  exact exists_congr fun v ↦ lookup?_eq_some_iff

/-- Names have these values exactly where the bag gives each of them its own. -/
theorem Marker.map_lookup?_eq_iff {bag : ParamBag} {names : List String} {values : List Value} :
    names.map (lookup? bag) = values.map some ↔ List.Forall₂ bag.Gives names values := by
  rw [← List.forall₂_eq_eq_eq, List.forall₂_map_left_iff, List.forall₂_map_right_iff]
  simp only [lookup?_eq_some_iff]

/-! ## Binding regions -/

/-- Where every marker has a value, each becomes NULL or the next placeholder and everything else is
copied; the values that are not null are those of the placeholders. Otherwise the first marker
without a value is named. -/
theorem bindMarkers_regions (d : Dialect) (bag : ParamBag) {rs : List Region}
    (h : Region.Separated rs) :
    ((∀ name ∈ Region.names rs, ∃ v, bag.Gives name v) →
      ∃ values, List.Forall₂ bag.Gives (Region.names rs) values ∧
        bindMarkers (Region.sql rs) bag d =
          .ok ⟨String.ofList (Region.filled rs (d.style.slots values)), present values⟩) ∧
    ∀ before name after, Region.names rs = before ++ name :: after →
      (∀ n ∈ before, ∃ v, bag.Gives n v) → (¬∃ v, bag.Gives name v) →
        bindMarkers (Region.sql rs) bag d = .error (.validation (.missingParameter name)) := by
  have hpieces : Marker.pieces none 0 (Region.sql rs).toList = rs.flatMap Region.pieces := by
    rw [Region.sql, String.toList_ofList, Region.pieces_flatMap_text h]
  have hnames := Region.names_flatMap_pieces rs
  constructor
  · intro hgiven
    obtain ⟨values, hvalues⟩ : ∃ values, List.Forall₂ bag.Gives (Region.names rs) values := by
      choose! value hvalue using hgiven
      exact ⟨(Region.names rs).map value, by simpa [List.forall₂_same] using hvalue⟩
    refine ⟨values, hvalues, ?_⟩
    have hlookup := Marker.map_lookup?_eq_iff.2 hvalues
    rw [← hnames] at hlookup
    rw [bindMarkers, Marker.scan_eq_fill, hpieces, Marker.fill_eq _ _ _ _ _ hlookup,
      Region.replaced_flatMap_pieces]
    rfl
  · intro before name after hsplit hbefore hname
    simp only [← Marker.isSome_lookup?_iff] at hbefore hname
    rw [← hnames] at hsplit
    rw [bindMarkers, Marker.scan_eq_fill, hpieces,
      Marker.fill_eq_error _ _ _ hsplit hbefore (by simpa using hname)]
    rfl

/-- A null and a name in another case among the markers, and at-signs in quotes, in brackets and
doubled; then the same with no value for the second of three markers. -/
theorem bindMarkers_regions_mixed :
    let rs : List Region := [.plain "select ".toList (List.all_eq_true.1 (by decide)),
      .quoted '\x27' "it\x27s @x".toList (by decide),
      .plain ", é, ".toList (List.all_eq_true.1 (by decide)),
      .bracketed "a\x27@b".toList (by decide), .atSigns,
      .plain "TRANCOUNT + ".toList (List.all_eq_true.1 (by decide)),
      .marker "X" ⟨by decide, List.all_eq_true.1 (by decide)⟩,
      .marker "n" ⟨by decide, List.all_eq_true.1 (by decide)⟩,
      .plain "-".toList (List.all_eq_true.1 (by decide)),
      .marker "x" ⟨by decide, List.all_eq_true.1 (by decide)⟩]
    let bag : ParamBag := ⟨[("x", .int 1), ("n", .null)]⟩
    let partialBag : ParamBag := ⟨[("x", .int 1)]⟩
    Region.sql rs = "select \x27it\x27\x27s @x\x27, é, [a\x27@b]@@TRANCOUNT + @X@n-@x" ∧
      Region.Separated rs ∧ (∀ name ∈ Region.names rs, ∃ v, bag.Gives name v) ∧
      (∃ values, List.Forall₂ bag.Gives (Region.names rs) values ∧
        bindMarkers (Region.sql rs) bag .postgres =
          .ok ⟨String.ofList (Region.filled rs (Dialect.postgres.style.slots values)),
            present values⟩) ∧
      Region.names rs = ["X"] ++ "n" :: ["x"] ∧ (∃ v, partialBag.Gives "X" v) ∧
      (¬∃ v, partialBag.Gives "n" v) ∧
      bindMarkers (Region.sql rs) partialBag .postgres =
        .error (.validation (.missingParameter "n")) := by
  intro rs bag partialBag
  have hseparated : Region.Separated rs := by decide
  have hgiven : ∀ name ∈ Region.names rs, ∃ v, bag.Gives name v := by
    simp only [← Marker.isSome_lookup?_iff]
    decide
  have hfirst : ∃ v, partialBag.Gives "X" v := Marker.isSome_lookup?_iff.1 (by decide)
  have hmissing : ¬∃ v, partialBag.Gives "n" v := mt Marker.isSome_lookup?_iff.2 (by decide)
  have hbound := (bindMarkers_regions .postgres bag hseparated).1 hgiven
  have hrefused := (bindMarkers_regions .postgres partialBag hseparated).2 ["X"] "n" ["x"] rfl
    (by simpa using hfirst) hmissing
  exact ⟨by decide +kernel, hseparated, hgiven, hbound, rfl, hfirst, hmissing, hrefused⟩

end EntitySql
