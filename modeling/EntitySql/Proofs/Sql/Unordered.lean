import EntitySql.Proofs.Sql.MarkerName
import EntitySql.Proofs.Sql.OrderClause

/-!
# Texts without an ORDER BY

A text in which the words ORDER BY do not stand, and which closes the quotes and parentheses that it
opens: what stands behind it is read as by itself. The names, markers and keywords of a condition
are such texts, also a name ORDER, since it stands in quotes, and so is what is put together from
them. Names are those of ASCII; any other could bring a quote of its own.
-/

namespace EntitySql

open Text

/-! ## Words and signs -/

section Words

variable {c closing : Char} {s t w : List Char} {p : Place} {inName : Bool} {depth : Nat}

theorem isNamePart_toLower (c : Char) : isNamePart c.toLower = isNamePart c :=
  apply_toLower isNamePart (by decide) c

theorem isNamePart_of_isAsciiWordPart (h : isAsciiWordPart c = true) : isNamePart c = true := by
  rw [isAsciiWordPart_eq, Bool.and_eq_true] at h
  rw [isNamePart, h.2, Bool.true_or]

/-- White space stands in no name, of any script. -/
theorem not_isNamePart_of_isBlank (h : isBlank c = true) : isNamePart c = false := by
  have hmem : c.toNat ∈ List.range' 0x9 5 ++ [0x20, 0x85, 0xA0, 0x1680] ++ List.range' 0x2000 11 ++
      [0x2028, 0x2029, 0x202F, 0x205F, 0x3000] := by
    simp only [isBlank, Bool.or_eq_true, Bool.and_eq_true, decide_eq_true_eq, beq_iff_eq] at h
    simp only [List.mem_append, List.mem_range'_1, List.mem_cons, List.not_mem_nil]
    omega
  rw [← Char.ofNat_toNat c]
  revert hmem
  generalize c.toNat = n
  revert n
  decide +kernel

/-- A word begins an ORDER BY only where it is ORDER and white space stands behind it. -/
theorem afterOrderBy?_word (hw : ∀ c ∈ w, isNamePart c = true) (ht : Stops isNamePart t)
    (h : foldAscii w ≠ "order".toList ∨ Stops isBlank t) : afterOrderBy? (w ++ t) = none := by
  rw [Option.eq_none_iff_forall_ne_some]
  intro behind hfound
  obtain ⟨first, gap, second, hsplit, hfirst, hne, hblank, -, -⟩ := afterOrderBy?_eq_some.1 hfound
  obtain ⟨d, gap, rfl⟩ := List.exists_cons_of_ne_nil hne
  have hd : isBlank d = true := hblank d List.mem_cons_self
  have hparts : ∀ c ∈ first, isNamePart c = true := by
    intro c hc
    have hletters : "order".toList.all isNamePart = true := by decide
    have hlower : c.toLower ∈ "order".toList := hfirst ▸ List.mem_map_of_mem hc
    rw [← isNamePart_toLower]
    exact List.all_eq_true.1 hletters _ hlower
  have hstops : Stops isNamePart (d :: gap ++ (second ++ behind)) :=
    stops_cons.2 (not_isNamePart_of_isBlank hd)
  have hword : w = first := by
    rw [← takeWhile_run hw ht, hsplit, takeWhile_run hparts hstops]
  subst hword
  rcases h with horder | hgap
  · exact horder hfirst
  · rw [List.append_cancel_left hsplit, List.cons_append, stops_cons, hd] at hgap
    cases hgap

theorem afterOrderBy?_append (ht : Stops isNamePart t)
    (h : foldAscii (s.takeWhile isNamePart) ≠ "order".toList ∨
      Stops isBlank (s.dropWhile isNamePart ++ t)) : afterOrderBy? (s ++ t) = none := by
  rw [← List.takeWhile_append_dropWhile (p := isNamePart) (l := s), List.append_assoc]
  exact afterOrderBy?_word (fun _ hc ↦ List.mem_takeWhile_imp hc)
    ((stops_dropWhile _ _).append ht) h

theorem afterOrderBy?_of_stops (ht : Stops isNamePart t) : afterOrderBy? t = none :=
  afterOrderBy?_word (w := []) (by simp) ht (.inl (by decide))

/-- An ORDER BY found at a character is listed with the place it stands at, and the search goes on
behind that character. -/
theorem orderBysFrom_found (h : afterOrderBy? (c :: s) = some t) :
    orderBysFrom p false (c :: s) = (p, t) :: orderBysFrom (p.next c) (isNamePart c) s := by
  rw [orderBysFrom, h]
  rfl

theorem orderBysFrom_skip (h : afterOrderBy? (c :: s) = none) :
    orderBysFrom p inName (c :: s) = orderBysFrom (p.next c) (isNamePart c) s := by
  rw [orderBysFrom, h]
  cases inName <;> rfl

theorem orderBysFrom_sign (hc : isNamePart c = false) :
    orderBysFrom p inName (c :: s) = orderBysFrom (p.next c) false s := by
  rw [orderBysFrom_skip (afterOrderBy?_of_stops (stops_cons.2 hc)), hc]

theorem orderBysFrom_of_stops (ht : Stops isNamePart t) :
    orderBysFrom p inName t = orderBysFrom p false t := by
  cases t with
  | nil => rfl
  | cons c t => rw [orderBysFrom_sign (stops_cons.1 ht), orderBysFrom_sign (stops_cons.1 ht)]

/-! ## Places -/

def keepsPlace (c : Char) : Bool := Place.nextQuote none c = none ∧ c ≠ '(' ∧ c ≠ ')'

theorem next_of_keepsPlace (h : keepsPlace c = true) :
    Place.next ⟨none, depth⟩ c = ⟨none, depth⟩ := by
  obtain ⟨hquote, hopening, hclosing⟩ := of_decide_eq_true h
  rw [Place.next, hquote, if_pos rfl, Place.nextDepth, if_neg hopening, if_neg hclosing]

theorem keepsPlace_of_isNamePart (h : isNamePart c = true) : keepsPlace c = true := by
  have hne (d : Char) (hd : isNamePart d = false) : c ≠ d :=
    ne_of_apply_ne isNamePart (by simp [h, hd])
  refine decide_eq_true ⟨?_, hne '(' (by decide), hne ')' (by decide)⟩
  rw [Place.nextQuote, if_neg (hne ']' (by decide)), Marker.closing?, if_neg,
    if_neg (hne '[' (by decide))]
  rintro (rfl | rfl | rfl) <;> exact absurd h (by decide)

/-- Nothing is found from within a word to its end. -/
theorem orderBysFrom_in_word (hw : ∀ c ∈ w, isNamePart c = true) (ht : Stops isNamePart t) :
    orderBysFrom ⟨none, depth⟩ true (w ++ t) = orderBysFrom ⟨none, depth⟩ false t := by
  induction w with
  | nil => exact orderBysFrom_of_stops ht
  | cons c w ih =>
    have hc := hw c List.mem_cons_self
    rw [List.cons_append, orderBysFrom, hc, next_of_keepsPlace (keepsPlace_of_isNamePart hc),
      ih fun d hd ↦ hw d (List.mem_cons_of_mem c hd)]
    rfl

/-- A word other than ORDER is passed over. -/
theorem orderBysFrom_word (hw : ∀ c ∈ w, isNamePart c = true)
    (horder : foldAscii w ≠ "order".toList) (ht : Stops isNamePart t) :
    orderBysFrom ⟨none, depth⟩ false (w ++ t) = orderBysFrom ⟨none, depth⟩ false t := by
  cases w with
  | nil => rfl
  | cons c w =>
    have hc := hw c List.mem_cons_self
    have hnone : afterOrderBy? (c :: (w ++ t)) = none := afterOrderBy?_word hw ht (.inl horder)
    rw [List.cons_append, orderBysFrom_skip hnone, hc,
      next_of_keepsPlace (keepsPlace_of_isNamePart hc)]
    exact orderBysFrom_in_word (fun d hd ↦ hw d (List.mem_cons_of_mem c hd)) ht

structure AreQuotes (opening closing : Char) : Prop where
  opens : ∀ depth, Place.next ⟨none, depth⟩ opening = ⟨some closing, depth⟩
  opening_sign : isNamePart opening = false
  closing_sign : isNamePart closing = false
  closing_not_blank : isBlank closing = false

/-- Quotes with no white space in them hide no ORDER BY, whatever their words are. -/
theorem orderBysFrom_quoted {opening : Char} (hquotes : AreQuotes opening closing)
    (hs : ∀ c ∈ s, c ≠ closing ∧ isBlank c = false) :
    orderBysFrom ⟨some closing, depth⟩ inName (s ++ closing :: t) =
      orderBysFrom ⟨none, depth⟩ false t := by
  induction s generalizing inName with
  | nil =>
    rw [List.nil_append, orderBysFrom_sign hquotes.closing_sign]
    simp [Place.next, Place.nextQuote]
  | cons c s ih =>
    have hnext : Place.next ⟨some closing, depth⟩ c = ⟨some closing, depth⟩ := by
      simp [Place.next, Place.nextQuote, (hs c List.mem_cons_self).1]
    have hrest : Stops isBlank ((c :: s).dropWhile isNamePart ++ closing :: t) := by
      refine Stops.append (fun d hd ↦ ?_) (stops_cons.2 hquotes.closing_not_blank)
      exact (hs d ((List.dropWhile_suffix _).subset (List.mem_of_mem_head? hd))).2
    have hnone : afterOrderBy? (c :: (s ++ closing :: t)) = none :=
      afterOrderBy?_append (stops_cons.2 hquotes.closing_sign) (.inr hrest)
    rw [List.cons_append, orderBysFrom_skip hnone, hnext]
    exact ih fun d hd ↦ hs d (List.mem_cons_of_mem c hd)

/-- A text outside of quotes and parentheses in which ORDER does not stand. -/
def isOrderless (s : List Char) : Bool :=
  s.all keepsPlace && !occursIn "order".toList (foldAscii s)

theorem isOrderless_cons (h : isOrderless (c :: s) = true) :
    keepsPlace c = true ∧ isOrderless s = true := by
  simp only [isOrderless, foldAscii, List.map_cons, occursIn, List.all_cons, Bool.and_eq_true,
    Bool.not_eq_true', Bool.or_eq_false_iff] at h ⊢
  exact ⟨h.1.1, h.1.2, h.2.2⟩

theorem isOrderless_of_append (h : isOrderless (s ++ [c]) = true) :
    isOrderless s = true ∧ keepsPlace c = true := by
  simp only [isOrderless, foldAscii, List.map_append, List.all_append, List.all_cons, List.all_nil,
    Bool.and_eq_true, Bool.and_true, Bool.not_eq_true', ← Bool.not_eq_true] at h ⊢
  refine ⟨⟨h.1.1, fun hoccurs ↦ h.2 ?_⟩, h.1.2⟩
  rw [ConditionText.occursIn_iff] at hoccurs ⊢
  obtain ⟨t, hsuffix, hprefix⟩ := hoccurs
  exact ⟨t ++ [c].map Char.toLower, List.suffix_append_self_iff.2 hsuffix,
    hprefix.trans (List.prefix_append _ _)⟩

theorem afterOrderBy?_orderless (hs : isOrderless s = true) (ht : Stops isNamePart t) :
    afterOrderBy? (s ++ t) = none := by
  have horder : foldAscii (s.takeWhile isNamePart) ≠ "order".toList := by
    intro hword
    have hoccurs : occursIn "order".toList (foldAscii s) = true := by
      rw [ConditionText.occursIn_iff, ← hword]
      exact ⟨_, List.suffix_rfl, (List.takeWhile_prefix isNamePart).map Char.toLower⟩
    rw [isOrderless, hoccurs, Bool.not_true, Bool.and_false] at hs
    cases hs
  exact afterOrderBy?_append ht (.inl horder)

/-- A text in which no ORDER can stand is passed over, from any point of it. -/
theorem orderBysFrom_orderless (hs : isOrderless s = true) (ht : Stops isNamePart t) :
    orderBysFrom ⟨none, depth⟩ inName (s ++ t) = orderBysFrom ⟨none, depth⟩ false t := by
  induction s generalizing inName with
  | nil => exact orderBysFrom_of_stops ht
  | cons c s ih =>
    obtain ⟨hc, hrest⟩ := isOrderless_cons hs
    have hnone : afterOrderBy? (c :: (s ++ t)) = none := afterOrderBy?_orderless hs ht
    rw [List.cons_append, orderBysFrom_skip hnone, next_of_keepsPlace hc]
    exact ih hrest

/-- The words themselves, in capitals. -/
theorem orderBysFrom_clause (ht : Stops isNamePart t) :
    orderBysFrom ⟨none, depth⟩ false ("ORDER BY".toList ++ t) =
      (⟨none, depth⟩, t) :: orderBysFrom ⟨none, depth⟩ false t := by
  have hfound : afterOrderBy? ('O' :: ("RDER BY".toList ++ t)) = some t :=
    afterOrderBy?_eq_some.2 ⟨"ORDER".toList, [' '], "BY".toList, rfl, by decide, by simp,
      List.forall_mem_singleton.2 rfl, by decide, ht⟩
  have hname : isNamePart 'O' = true := by decide
  have hrest : orderBysFrom ⟨none, depth⟩ true ("RDER BY".toList ++ t) =
      orderBysFrom ⟨none, depth⟩ false t := orderBysFrom_orderless (by decide) ht
  have hsplit : "ORDER BY".toList ++ t = 'O' :: ("RDER BY".toList ++ t) := rfl
  rw [hsplit, orderBysFrom_found hfound, next_of_keepsPlace (by decide), hname, hrest]

end Words

/-! ## Texts put together -/

/-- What stands behind the text is read as by itself, where no name goes on into it. -/
def Unordered (text : String) : Prop :=
  ∀ depth t, Stops isNamePart t →
    orderBysFrom ⟨none, depth⟩ false (text.toList ++ t) = orderBysFrom ⟨none, depth⟩ false t

/-- A text without ORDER behind which a name may begin. -/
def isLead (s : List Char) : Bool := isOrderless s && s.getLast?.any fun c ↦ !isNamePart c

/-- A text without ORDER that no name goes on into, and behind which a name may begin. -/
def isSeparator (s : List Char) : Bool := isLead s && s.head?.any fun c ↦ !isNamePart c

variable {a b separator name : String} {d : Dialect}

theorem Unordered.orderBys_eq_nil (h : Unordered a) : orderBys a = [] := by
  have hnil := h 0 [] (stops_nil _)
  rw [List.append_nil] at hnil
  exact hnil

theorem unordered_of_isOrderless (h : isOrderless a.toList = true) : Unordered a :=
  fun _ _ ht ↦ orderBysFrom_orderless h ht

theorem unordered_word (hword : ∀ c ∈ a.toList, isNamePart c = true)
    (horder : foldAscii a.toList ≠ "order".toList) : Unordered a :=
  fun _ _ ht ↦ orderBysFrom_word hword horder ht

/-- Two texts without an ORDER BY have none together, where no word runs from one into the other. -/
theorem Unordered.append (ha : Unordered a) (hb : Unordered b)
    (hstops : Stops isNamePart b.toList) : Unordered (a ++ b) := by
  intro depth t ht
  rw [String.toList_append, List.append_assoc, ha depth _ (hstops.append ht), hb depth t ht]

/-- What leads ends in a sign, which stops the words before it, whatever word stands behind it. -/
theorem Unordered.lead_append (ha : isLead a.toList = true) (hb : Unordered b) :
    Unordered (a ++ b) := by
  intro depth t ht
  obtain ⟨horderless, hlast⟩ := (Bool.and_eq_true _ _).mp ha
  obtain ⟨c, hc, hpart⟩ := (Option.any_eq_true _ _).mp hlast
  rw [Bool.not_eq_true'] at hpart
  obtain ⟨s, hs⟩ := List.getLast?_eq_some_iff.1 hc
  rw [hs] at horderless
  obtain ⟨hbefore, hkeeps⟩ := isOrderless_of_append horderless
  calc
    orderBysFrom ⟨none, depth⟩ false ((a ++ b).toList ++ t) =
        orderBysFrom ⟨none, depth⟩ false (s ++ c :: (b.toList ++ t)) := by
      rw [String.toList_append, hs, List.append_assoc, List.append_assoc, List.singleton_append]
    _ = orderBysFrom ⟨none, depth⟩ false (c :: (b.toList ++ t)) :=
      orderBysFrom_orderless hbefore (stops_cons.2 hpart)
    _ = orderBysFrom ⟨none, depth⟩ false (b.toList ++ t) := by
      rw [orderBysFrom_sign hpart, next_of_keepsPlace hkeeps]
    _ = orderBysFrom ⟨none, depth⟩ false t := hb depth t ht

theorem Unordered.parenthesized (ha : Unordered a) : Unordered ("(" ++ a ++ ")") := by
  intro depth t ht
  calc
    orderBysFrom ⟨none, depth⟩ false (("(" ++ a ++ ")").toList ++ t) =
        orderBysFrom ⟨none, depth⟩ false ('(' :: (a.toList ++ ')' :: t)) := by
      simp [String.toList_append]
    _ = orderBysFrom ⟨none, depth + 1⟩ false (a.toList ++ ')' :: t) := by
      rw [orderBysFrom_sign (by decide)]
      rfl
    _ = orderBysFrom ⟨none, depth + 1⟩ false (')' :: t) :=
      ha (depth + 1) _ (stops_cons.2 (by decide))
    _ = orderBysFrom ⟨none, depth⟩ false t := by
      rw [orderBysFrom_sign (by decide)]
      rfl

theorem Unordered.called (ha : Unordered a) {function : String}
    (hfunction : isOrderless function.toList = true) : Unordered (function ++ "(" ++ a ++ ")") := by
  have hopening : Stops isNamePart ("(" ++ a ++ ")").toList := by
    rw [String.toList_append, String.toList_append]
    exact stops_cons.2 (by decide)
  have hcall := (unordered_of_isOrderless hfunction).append ha.parenthesized hopening
  simpa only [String.append_assoc] using hcall

theorem Unordered.separated (ha : Unordered a) (hseparator : isSeparator separator.toList = true)
    (hb : Unordered b) : Unordered (a ++ (separator ++ b)) := by
  obtain ⟨hlead, hfirst⟩ := (Bool.and_eq_true _ _).mp hseparator
  obtain ⟨c, hc, hpart⟩ := (Option.any_eq_true _ _).mp hfirst
  refine ha.append (hb.lead_append hlead) ?_
  obtain ⟨s, hs⟩ := List.head?_eq_some_iff.1 hc
  rw [String.toList_append, hs, List.cons_append, stops_cons]
  exact (Bool.not_eq_true' _).mp hpart

/-- Parts without an ORDER BY have none with a separator between them. -/
theorem unordered_intercalate (hseparator : isSeparator separator.toList = true)
    {parts : List String} (hparts : ∀ part ∈ parts, Unordered part) :
    Unordered (separator.intercalate parts) := by
  induction parts with
  | nil =>
    rw [String.intercalate_nil]
    exact unordered_of_isOrderless rfl
  | cons part parts ih =>
    have hpart := hparts part List.mem_cons_self
    cases parts with
    | nil =>
      rw [String.intercalate_singleton]
      exact hpart
    | cons other parts =>
      rw [String.intercalate_cons_cons, String.append_assoc]
      exact hpart.separated hseparator (ih fun p hp ↦ hparts p (List.mem_cons_of_mem part hp))

/-- A name in quotes is no ORDER BY, whatever it is. -/
theorem unordered_quoted {opening closing : Char} {s : List Char}
    (hquotes : AreQuotes opening closing) (hs : ∀ c ∈ s, c ≠ closing ∧ isBlank c = false)
    (ha : a.toList = opening :: (s ++ [closing])) : Unordered a := by
  intro depth t _
  rw [ha, List.cons_append, List.append_assoc, orderBysFrom_sign hquotes.opening_sign,
    hquotes.opens]
  exact orderBysFrom_quoted hquotes hs

/-- A text with one ORDER BY, and nothing in what follows it. -/
theorem orderBys_append_clause (ha : Unordered a) (hb : Unordered b)
    (hstops : Stops isNamePart b.toList) :
    orderBys (a ++ (" ORDER BY" ++ b)) = [(.outside, b.toList)] := by
  have hclause : " ORDER BY".toList = ' ' :: "ORDER BY".toList := rfl
  calc
    orderBys (a ++ (" ORDER BY" ++ b)) =
        orderBysFrom .outside false (a.toList ++ ' ' :: ("ORDER BY".toList ++ b.toList)) := by
      rw [orderBys, String.toList_append, String.toList_append, hclause, List.cons_append]
    _ = orderBysFrom .outside false (' ' :: ("ORDER BY".toList ++ b.toList)) :=
      ha 0 _ (stops_cons.2 (by decide))
    _ = orderBysFrom .outside false ("ORDER BY".toList ++ b.toList) := by
      rw [orderBysFrom_sign (by decide)]
      rfl
    _ = (.outside, b.toList) :: orderBysFrom .outside false b.toList :=
      orderBysFrom_clause hstops
    _ = [(.outside, b.toList)] := by
      rw [← orderBys, hb.orderBys_eq_nil]

/-! ## Conditions -/

theorem unordered_marker {param : String} (h : IsParamName param) : Unordered (marker param) := by
  have hchars : (marker param).toList = '@' :: param.toList := by simp [marker]
  refine unordered_word ?_ ?_
  · intro c hc
    rw [hchars] at hc
    rcases List.mem_cons.1 hc with rfl | hc
    · decide
    · exact isNamePart_of_isAsciiWordPart (h.2 c hc)
  · rw [hchars]
    simp [foldAscii]

theorem unordered_identifier (d : Dialect) (hname : isAsciiName name.toList = true) :
    Unordered (d.style.identifier name) := by
  have hword : ∀ c ∈ name.toList, isNamePart c = true :=
    fun c hc ↦ isNamePart_of_isAsciiWordPart (isAsciiWordPart_of_mem hname hc)
  cases hr : isReserved name with
  | false =>
    rw [Style.identifier_of_not_isReserved _ hr]
    refine unordered_word hword fun horder ↦ ?_
    have hsame : sameIgnoringCase name "ORDER" = true := beq_iff_eq.2 horder
    have hreserved : isReserved name = true := List.any_eq_true.2 ⟨"ORDER", by decide, hsame⟩
    rw [hr] at hreserved
    cases hreserved
  | true =>
    have hquotes : AreQuotes d.style.opening d.style.closing := by
      cases d <;> exact ⟨fun _ ↦ rfl, by decide, by decide, by decide⟩
    have hclosing : ∀ c ∈ name.toList, c ≠ d.style.closing := fun c hc ↦
      ne_of_apply_ne isNamePart (by simp [hword c hc, hquotes.closing_sign])
    refine unordered_quoted hquotes (fun c hc ↦ ⟨hclosing c hc, ?_⟩) ?_ (s := name.toList)
    · rw [← Bool.not_eq_true]
      intro hblank
      exact absurd (hword c hc) (Bool.eq_false_iff.1 (not_isNamePart_of_isBlank hblank))
    · rw [Style.toList_identifier_of_isReserved _ hr,
        Marker.doubled_of_not_mem fun hc ↦ hclosing _ hc rfl]

theorem unordered_concat (d : Dialect) {parts : List String}
    (hparts : ∀ part ∈ parts, Unordered part) : Unordered (d.style.concat parts) := by
  unfold Style.concat
  split
  · next separator hform =>
    have hseparator : isSeparator separator.toList = true := by
      cases d <;> cases hform <;> decide
    exact unordered_intercalate hseparator hparts
  · next function hform =>
    have hfunction : isOrderless function.toList = true := by
      cases d <;> cases hform
      decide
    exact (unordered_intercalate (by decide) hparts).called hfunction

theorem unordered_wildcard : Unordered "'%'" := by
  have hquotes : AreQuotes '\x27' '\x27' := ⟨fun _ ↦ rfl, by decide, by decide, by decide⟩
  exact unordered_quoted hquotes (List.forall_mem_singleton.2 ⟨by decide, rfl⟩) rfl

theorem unordered_pattern (method : StringMethod) (ha : Unordered a) :
    Unordered (Condition.pattern d.style method a) := by
  cases method <;> exact unordered_concat d (by simp [ha, unordered_wildcard])

theorem unordered_nested (c : Condition) (ha : Unordered a) :
    Unordered (if c.isCompound then "(" ++ a ++ ")" else a) := by
  split
  · exact ha.parenthesized
  · exact ha

/-- A condition over names of ASCII has no ORDER BY. -/
theorem unordered_render (c : Condition)
    (hcolumns : ∀ column ∈ c.columns, isAsciiName column.toList = true)
    (hparams : ∀ param ∈ c.params, IsParamName param) : Unordered (c.render d.style) := by
  have hsymbol (op : CompareOp) : isSeparator (" " ++ op.sqlSymbol ++ " ").toList = true := by
    cases op <;> decide
  have hkeyword (op : Connective) : isSeparator (" " ++ op.sqlKeyword ++ " ").toList = true := by
    cases op <;> decide
  have hupper : isOrderless d.style.upperFunction.toList = true := by cases d <;> decide
  induction c with
  | always holds =>
    cases holds with
    | true => exact unordered_of_isOrderless (a := "1 = 1") (by decide)
    | false => exact unordered_of_isOrderless (a := "1 = 0") (by decide)
  | flag column => exact unordered_identifier d (hcolumns column (by simp [Condition.columns]))
  | isNull column =>
    have hcolumn := unordered_identifier d (hcolumns column (by simp [Condition.columns]))
    exact hcolumn.append (unordered_of_isOrderless (by decide)) (by decide)
  | isNotNull column =>
    have hcolumn := unordered_identifier d (hcolumns column (by simp [Condition.columns]))
    exact hcolumn.append (unordered_of_isOrderless (by decide)) (by decide)
  | compareNull column op =>
    have hcolumn := unordered_identifier d (hcolumns column (by simp [Condition.columns]))
    have hnull : isOrderless (" " ++ op.sqlSymbol ++ " NULL").toList = true := by
      cases op <;> decide
    have hall := hcolumn.append (unordered_of_isOrderless hnull) (by cases op <;> decide)
    simpa only [Condition.render, String.append_assoc] using hall
  | compareParam column op param =>
    have hcolumn := unordered_identifier d (hcolumns column (by simp [Condition.columns]))
    have hparam := unordered_marker (hparams param (by simp [Condition.params]))
    have hall := hcolumn.separated (hsymbol op) hparam
    simpa only [Condition.render, String.append_assoc] using hall
  | compareColumns left op right =>
    have hleft := unordered_identifier d (hcolumns left (by simp [Condition.columns]))
    have hright := unordered_identifier d (hcolumns right (by simp [Condition.columns]))
    have hall := hleft.separated (hsymbol op) hright
    simpa only [Condition.render, String.append_assoc] using hall
  | like column method param =>
    have hcolumn := unordered_identifier d (hcolumns column (by simp [Condition.columns]))
    have hparam := unordered_marker (hparams param (by simp [Condition.params]))
    have hpattern := unordered_pattern (d := d) method (hparam.called hupper)
    have hlike : isSeparator " LIKE ".toList = true := by decide
    have hall := (hcolumn.called hupper).separated hlike hpattern
    have hsplit : ") LIKE " = ")" ++ " LIKE " := rfl
    simpa only [Condition.render, hsplit, String.append_assoc] using hall
  | not inner ih =>
    have hnot : isOrderless "NOT ".toList = true := by decide
    have hsplit : "NOT (" = "NOT " ++ "(" := rfl
    rw [Condition.render, hsplit]
    exact (ih hcolumns hparams).called hnot
  | connect op left right ihl ihr =>
    have hl := ihl (fun c hc ↦ hcolumns c (by simp [Condition.columns, hc]))
      (fun p hp ↦ hparams p (by simp [Condition.params, hp]))
    have hr := ihr (fun c hc ↦ hcolumns c (by simp [Condition.columns, hc]))
      (fun p hp ↦ hparams p (by simp [Condition.params, hp]))
    have hall := (unordered_nested left hl).separated (hkeyword op) (unordered_nested right hr)
    simpa only [Condition.render, String.append_assoc] using hall

end EntitySql
