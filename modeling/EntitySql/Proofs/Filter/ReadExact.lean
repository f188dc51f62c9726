import EntitySql.Proofs.Filter.ReadComplete

/-!
# A filter is read where the grammar derives it

A whole filter is read exactly where the grammar derives it, and as the expression that it derives.
What remains beyond the levels of expressions is the header: a text that begins with one has no
other reading, since its arrow is a sign of comparison that no operand follows.
-/

namespace EntitySql.Filter

open Text Number

variable {scope : Scope} {captures : Captures} {e : Expr} {name s t a b c : List Char}

theorem Identifier.skip_eq (h : Identifier name a b) (hlayout : Layout s a) : skip s = a := by
  obtain ⟨d, v, rfl, hstart⟩ := h.head
  apply hlayout.skip_cons
  rw [← Bool.not_eq_true]
  intro hblank
  simp only [isLayout, Bool.or_eq_true, beq_iff_eq] at hblank
  rcases hblank with ((rfl | rfl) | rfl) | rfl <;> cases hstart

/-- A name before an arrow is that of the row. -/
theorem header_of_arrow (ha : Layout s a) (hname : Identifier name a b)
    (hb : Layout b ('=' :: '>' :: c)) : header s = (name, c) := by
  rw [header, hname.skip_eq ha, identifier?_eq_some.2 hname]
  simp only [hb.skip_cons rfl]
  rfl

/-- Without an arrow behind a name, the row is `x` and the whole text is the body. -/
theorem header_cases (s : List Char) : header s = (['x'], s) ∨
    ∃ name a b c, Layout s a ∧ Identifier name a b ∧ Layout b ('=' :: '>' :: c) ∧
      header s = (name, c) := by
  cases hname : identifier? (skip s) with
  | none =>
    left
    rw [header, hname]
  | some found =>
    obtain ⟨name, b⟩ := found
    cases harrow : symbol? ['=', '>'] (skip b) with
    | none =>
      left
      rw [header, hname]
      simp only [harrow]
    | some c =>
      right
      have hskip : skip b = '=' :: '>' :: c := symbol?_eq_some.1 harrow
      have hb : Layout b ('=' :: '>' :: c) := hskip ▸ layout_skip b
      have hname := identifier?_eq_some.1 hname
      exact ⟨name, _, b, c, layout_skip s, hname, hb, header_of_arrow (layout_skip s) hname hb⟩

/-! ## An arrow belongs to a header -/

theorem Identifier.negationSign? (h : Identifier name s t) (hname : name ≠ ['n', 'o', 't']) :
    negationSign? s = none := by
  cases hsign : Filter.negationSign? s with
  | none => rfl
  | some u =>
    exfalso
    rcases negationSign?_eq_some.1 hsign with rfl | hkeyword
    · obtain ⟨d, v, hs, hstart⟩ := h.head
      cases hs
      cases hstart
    · have hnot : Identifier ['n', 'o', 't'] s u :=
        hkeyword.1 ▸ .intro rfl (List.all_eq_true.1 rfl) hkeyword.2
      have hsame : some (name, t) = some (['n', 'o', 't'], u) := calc
        some (name, t) = identifier? s := (identifier?_eq_some.2 h).symm
        _ = some (['n', 'o', 't'], u) := identifier?_eq_some.2 hnot
      cases hsame
      exact hname rfl

theorem comparison_arrow {depth : Nat} (hdepth : s.length ≤ depth) (hname : Identifier name s a)
    (ha : Layout a ('=' :: '>' :: c)) :
    comparison scope (expression scope depth) s = .halt ⟨'>' :: c, .unexpected⟩ := by
  have hderives : Derives scope (.tree .sum (named scope name)) s a :=
    .sum (.access (derives_named hname))
  have hleft := sum_of_isRead (reads_of_derives hderives _ hdepth)
    (follows_cons ha rfl (by simp [Level.followers]))
  have hsign : compareSign? ('=' :: '>' :: c) = some (.eq, '>' :: c) := rfl
  have hright : sum scope (expression scope depth) (skip ('>' :: c)) = .unexpected ('>' :: c) :=
    sum_unexpected (by decide)
  rw [comparison, hleft]
  simp only [Reply.bind, ha.skip_cons rfl, hsign, hright]
  rfl

/-- No filter goes on with an arrow behind a name. -/
theorem negated_arrow (scope : Scope) {depth : Nat} (hdepth : s.length ≤ depth)
    (hname : Identifier name s a) (ha : Layout a ('=' :: '>' :: c)) :
    ∃ stop, negated scope (expression scope depth) s = .halt stop := by
  have hlength := hname.length_lt
  obtain ⟨n, hn⟩ := Nat.exists_eq_succ_of_ne_zero (show s.length ≠ 0 by omega)
  rw [negated, hn, negation]
  by_cases hword : name = ['n', 'o', 't']
  · subst hword
    refine ⟨⟨'=' :: '>' :: c, .unexpected⟩, ?_⟩
    have hinner : negation scope (expression scope depth) n ('=' :: '>' :: c) =
        .unexpected ('=' :: '>' :: c) := negation_unexpected (by decide) (by decide) n
    rw [negationSign?_eq_some.2 (.inr hname.keyword)]
    simp only [ha.skip_cons rfl, hinner]
    rfl
  · refine ⟨⟨'>' :: c, .unexpected⟩, ?_⟩
    rw [hname.negationSign? hword]
    exact comparison_arrow hdepth hname ha

theorem not_derives_of_arrow (hname : Identifier name s a) (ha : Layout a ('=' :: '>' :: c))
    (ht : Layout t []) : ¬ Derives scope (.tree .disjunction e) s t := by
  intro h
  have hread := expression_of_isRead (reads_of_derives h _ le_rfl) (follows_nil ht)
  obtain ⟨stop, hstop⟩ := negated_arrow scope le_rfl hname ha
  rw [expression, disjunction, joined, conjunction, joined, hstop] at hread
  cases hread

/-! ## Whole filters -/

/-- A text the grammar derives is read to its end. -/
theorem body_of_derives {d : List Char} {row : List Char} (hheader : header s = (row, c))
    (hc : Layout c d) (h : Derives ⟨row, captures⟩ (.tree .disjunction e) d t)
    (ht : Layout t []) : body captures s = .ok e [] := by
  have hread := expression_of_isRead (reads_of_derives h _ hc.length_le) (follows_nil ht)
  rw [body, hheader]
  simp only [h.skip_eq hc, hread, ht.skip_eq (stops_nil _)]

/-- What is read to its end is derived by the grammar. -/
theorem derives_of_body (h : body captures s = .ok e t) : t = [] ∧
    ∃ rest, Derives ⟨(header s).1, captures⟩ (.tree .disjunction e) (skip (header s).2) rest ∧
      Layout rest [] := by
  rw [body] at h
  generalize header s = found at h ⊢
  obtain ⟨row, c⟩ := found
  dsimp only at h
  cases hread : expression ⟨row, captures⟩ (c.length + 1) (skip c) with
  | ok value rest =>
    rw [hread] at h
    dsimp only at h
    split at h
    · next hrest =>
      cases h
      exact ⟨rfl, rest, sound_expression _ _ _ _ _ hread, hrest ▸ layout_skip rest⟩
    · cases h
  | miss stop =>
    rw [hread] at h
    cases h
  | halt stop =>
    rw [hread] at h
    cases h

theorem body_eq_ok : body captures s = .ok e [] ↔ DerivesFilter captures s e := by
  constructor
  · intro h
    obtain ⟨-, rest, hderives, hrest⟩ := derives_of_body h
    rcases header_cases s with hheader | ⟨name, a, b, c, ha, hname, hb, hheader⟩
    · rw [hheader] at hderives
      exact .bare (layout_skip s) hderives hrest
    · rw [hheader] at hderives
      exact .headed ha hname hb (layout_skip c) hderives hrest
  · intro h
    cases h with
    | headed ha hname hb hc h ht => exact body_of_derives (header_of_arrow ha hname hb) hc h ht
    | bare ha h ht =>
      rcases header_cases s with hheader | ⟨name, a', b, c, ha', hname, hb, -⟩
      · exact body_of_derives hheader ha h ht
      · have hsame := calc
          _ = skip s := (h.skip_eq ha).symm
          _ = a' := hname.skip_eq ha'
        exact absurd h (not_derives_of_arrow (hsame ▸ hname) hb ht)

/-- The grammar gives a text no second tree. -/
theorem DerivesFilter.unique {f : Expr} (h : DerivesFilter captures s e)
    (h' : DerivesFilter captures s f) : e = f := by
  have hsame : Reply.ok e [] = .ok f [] := calc
    .ok e [] = body captures s := (body_eq_ok.2 h).symm
    _ = .ok f [] := body_eq_ok.2 h'
  cases hsame
  rfl

theorem derivesFilter_of_read {text : String} (h : read captures text = .ok e) :
    DerivesFilter captures text.toList e := by
  rw [read] at h
  cases hbody : body captures text.toList with
  | ok value rest =>
    obtain ⟨rfl, -⟩ := derives_of_body hbody
    rw [hbody] at h
    cases h
    exact body_eq_ok.1 hbody
  | miss stop =>
    rw [hbody] at h
    cases h
  | halt stop =>
    rw [hbody] at h
    cases h

theorem read_of_derivesFilter {text : String} (h : DerivesFilter captures text.toList e) :
    read captures text = .ok e := by
  rw [read, body_eq_ok.2 h]

example : read [] "a or not b = -1" = .ok (.connect .or (.column "a")
    (.not (.compare .eq (.column "b") (.const (.int (-1)))))) := by
  rfl

end EntitySql.Filter
