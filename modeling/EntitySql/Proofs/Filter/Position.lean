import EntitySql.Proofs.Filter.Token
import EntitySql.Proofs.Text.Blank

/-!
# Positions of faults

No reader leaves its text: whether it succeeds or stops, what is left is an end of the text that it
was given. So the position of a fault counts the bytes of whole characters, and what the fault says
of the text is found behind its position.
-/

namespace EntitySql.Filter

open Text Number

variable {captures : Captures} {s t u w : List Char}

/-! ## What tokens leave -/

theorem skip_suffix (s : List Char) : skip s <:+ s := List.dropWhile_suffix isLayout

theorem Keyword.suffix (h : Keyword w s t) : t <:+ s := ⟨w, h.1.symm⟩

theorem Identifier.eq_append (h : Identifier w s t) : s = w ++ t := by
  cases h
  rfl

theorem Identifier.suffix (h : Identifier w s t) : t <:+ s := ⟨w, h.eq_append.symm⟩

theorem DisjunctionSign.suffix (h : DisjunctionSign s t) : t <:+ s := by
  rcases h with rfl | h
  · exact List.suffix_append ['|', '|'] t
  · exact h.suffix

theorem ConjunctionSign.suffix (h : ConjunctionSign s t) : t <:+ s := by
  rcases h with rfl | h
  · exact List.suffix_append ['&', '&'] t
  · exact h.suffix

theorem NegationSign.suffix (h : NegationSign s t) : t <:+ s := by
  rcases h with rfl | h
  · exact List.suffix_cons '!' t
  · exact h.suffix

theorem CompareSign.suffix {op : CompareOp} (h : CompareSign op s t) : t <:+ s := by
  cases h <;> first | exact List.suffix_cons _ t | exact List.suffix_append [_, _] t

theorem SumSign.suffix {op : ArithOp} (h : SumSign op s t) : t <:+ s := by
  cases h <;> exact List.suffix_cons _ t

theorem Digits.suffix (h : Digits w s t) : t <:+ s := by
  cases h
  exact List.suffix_append w t

theorem Unsigned.suffix {negative : Bool} {v : Value} (h : Unsigned negative v s t) : t <:+ s := by
  cases h with
  | integer digits => exact digits.suffix
  | real whole fraction => exact fraction.suffix.trans ((List.suffix_cons '.' _).trans whole.suffix)

theorem Quoted.suffix {quote : Char} (h : Quoted quote w s t) : t <:+ s := by
  induction h with
  | close => exact List.suffix_cons quote _
  | escape _ ih => exact ih.trans (List.suffix_append ['\\', _] _)
  | plain _ _ _ ih => exact ih.trans (List.suffix_cons _ _)

/-! ## Replies within a text -/

def Fault.Holds (captures : Captures) (fault : Fault) (s : List Char) : Prop :=
  match fault with
  | .unexpected => True
  | .invalidNumber digits => digits <+: s ∧ ∃ n, IsNumeral digits n ∧ int64? n = none
  | .unterminatedString =>
    ∃ quote u, s = quote :: u ∧ (quote = '\x22' ∨ quote = '\x27') ∧ ∀ w t, ¬ Quoted quote w u t
  | .unboundVariable name =>
    ∃ t, s = '$' :: name ++ t ∧ captures.lookup (String.ofList name) = none

/-- A place in the text at which the fault holds. -/
structure Stop.Within (captures : Captures) (s : List Char) (stop : Stop) : Prop where
  suffix : stop.rest <:+ s
  holds : stop.fault.Holds captures stop.rest

def Reply.Within {α : Type} (captures : Captures) (s : List Char) : Reply α → Prop
  | .ok _ rest => rest <:+ s
  | .miss stop => stop.Within captures s
  | .halt stop => stop.Within captures s

def ReadsWithin {α : Type} (captures : Captures) (reader : Reader α) : Prop :=
  ∀ s, (reader s).Within captures s

theorem Stop.within_unexpected (captures : Captures) (s : List Char) :
    Stop.Within captures s ⟨s, .unexpected⟩ :=
  ⟨List.suffix_rfl, trivial⟩

theorem Stop.Within.mono {stop : Stop} (h : stop.Within captures t) (hsuffix : t <:+ s) :
    stop.Within captures s :=
  ⟨h.suffix.trans hsuffix, h.holds⟩

namespace Reply

variable {α β : Type} {reply : Reply α}

theorem Within.mono (h : reply.Within captures t) (hsuffix : t <:+ s) :
    reply.Within captures s := by
  cases reply with
  | ok a rest => exact List.IsSuffix.trans h hsuffix
  | miss stop => exact Stop.Within.mono h hsuffix
  | halt stop => exact Stop.Within.mono h hsuffix

/-- A reader that goes on where another stopped keeps to the text that the other was given. -/
theorem Within.bind {next : α → Reader β} (h : reply.Within captures s)
    (hnext : ∀ a, ReadsWithin captures (next a)) : (reply.bind next).Within captures s := by
  cases reply with
  | ok a rest => exact (hnext a rest).mono h
  | miss stop => exact h
  | halt stop => exact h

theorem Within.committed (h : reply.Within captures s) : reply.committed.Within captures s := by
  cases reply <;> exact h

theorem within_unexpected (captures : Captures) (s : List Char) :
    (unexpected s : Reply α).Within captures s :=
  Stop.within_unexpected captures s

end Reply

open Reply (within_unexpected)

/-! ## Literals and names -/

/-- Digits that are no number are reported where the number begins, with its sign. -/
theorem within_digits {negative : Bool} {start : List Char}
    (hstart : start = (if negative then ['-'] else []) ++ s) :
    (digits negative start s).Within captures start := by
  have hsuffix : s <:+ start := hstart ▸ List.suffix_append _ s
  rcases digits_cases negative start s with
    hreply | ⟨v, t, hreply, hread⟩ | ⟨w, t, hdigits, hrange, hreply⟩
  · rw [hreply]
    exact (within_unexpected captures s).mono hsuffix
  · rw [hreply]
    exact hread.suffix.trans hsuffix
  · rw [hreply]
    cases hdigits with
    | intro nonempty digit _ =>
      refine ⟨List.suffix_rfl, ?_, _, ⟨negative, w, rfl, nonempty, digit, rfl⟩, hrange⟩
      rw [hstart, ← List.append_assoc]
      exact List.prefix_append _ t

theorem readsWithin_number : ReadsWithin captures number := by
  intro s
  unfold number
  split
  · exact within_digits rfl
  · exact within_digits rfl

/-- A string that is not closed is reported at its opening quote, not where the text ends. -/
theorem within_stringLiteral {quote : Char} (hquote : quote = '\x22' ∨ quote = '\x27')
    (s : List Char) : (stringLiteral quote s).Within captures (quote :: s) := by
  have hbackslash : quote ≠ '\\' := by
    rintro rfl
    exact absurd hquote (by decide)
  unfold stringLiteral
  split
  · next hbody =>
    exact ((stringBody_eq_some hbackslash).1 hbody).suffix.trans (List.suffix_cons quote s)
  · next hnone =>
    refine ⟨List.suffix_rfl, quote, s, rfl, hquote, fun w t hquoted ↦ ?_⟩
    rw [(stringBody_eq_some hbackslash).2 hquoted] at hnone
    cases hnone

/-- A name that is not bound is reported at the sign before it. -/
theorem within_capture (scope : Scope) (s : List Char) :
    (capture scope s).Within scope.captures ('$' :: s) := by
  unfold capture
  split
  · exact (Stop.within_unexpected _ s).mono (List.suffix_cons '$' s)
  · next name rest hname =>
    have hname := identifier?_eq_some.1 hname
    split
    · exact hname.suffix.trans (List.suffix_cons '$' s)
    · next hnone => exact ⟨List.suffix_rfl, rest, congrArg ('$' :: ·) hname.eq_append, hnone⟩

/-! ## The levels -/

/-- A reader that takes nothing more. -/
theorem readsWithin_ok {α : Type} (a : α) : ReadsWithin captures (Reply.ok a) :=
  fun _ ↦ List.suffix_rfl

theorem readsWithin_closing : ReadsWithin captures closing := by
  intro s
  unfold closing
  split
  · next rest hskip => exact (List.suffix_cons ')' rest).trans (hskip ▸ skip_suffix s)
  · exact (Stop.within_unexpected captures (skip s)).mono (skip_suffix s)

section Levels

variable {scope : Scope} {nested : Reader Expr}

/-- After its blanks, a text is read within as a whole. -/
theorem ReadsWithin.skipped {α : Type} {reader : Reader α} (h : ReadsWithin captures reader)
    (s : List Char) : (reader (skip s)).Within captures s :=
  (h (skip s)).mono (skip_suffix s)

theorem readsWithin_parenthesized (hnested : ReadsWithin captures nested) :
    ReadsWithin captures (parenthesized nested) := fun s ↦
  (hnested.skipped s).bind fun e rest ↦
    (readsWithin_closing rest).bind fun _ ↦ readsWithin_ok e

/-- A primary expression keeps to its text, if the expressions in brackets do. -/
theorem readsWithin_primary (hnested : ReadsWithin scope.captures nested) :
    ReadsWithin scope.captures (primary scope nested) := by
  intro s
  cases s with
  | nil => exact within_unexpected _ []
  | cons c s =>
    rw [primary]
    split
    · exact (readsWithin_parenthesized hnested s).mono (List.suffix_cons c s)
    · split
      · next hquote =>
        exact (within_stringLiteral hquote s).bind fun v ↦ readsWithin_ok (Expr.const v)
      · split
        · exact (readsWithin_number (c :: s)).bind fun v ↦ readsWithin_ok (Expr.const v)
        · split
          · next hdollar => exact hdollar ▸ within_capture scope s
          · split
            · next hname => exact (identifier?_eq_some.1 hname).suffix
            · exact within_unexpected _ (c :: s)

theorem readsWithin_moreArguments (hnested : ReadsWithin captures nested) (count : Nat)
    (args : List Expr) : ReadsWithin captures (moreArguments nested count args) := by
  induction count generalizing args with
  | zero => exact readsWithin_ok args
  | succ count ih =>
    intro s
    unfold moreArguments
    split
    · next t hcomma =>
      have hsuffix : t <:+ s := (List.suffix_cons ',' t).trans (hcomma ▸ skip_suffix s)
      have harg := (hnested.skipped t).mono hsuffix
      split
      · next arg rest hreply =>
        rw [hreply] at harg
        exact (ih (args ++ [arg]) rest).mono harg
      · exact List.suffix_rfl
      · next stop hreply =>
        rw [hreply] at harg
        exact harg
    · exact List.suffix_rfl

theorem readsWithin_arguments (hnested : ReadsWithin captures nested) :
    ReadsWithin captures (arguments nested) := by
  intro s
  unfold arguments
  apply Reply.Within.bind
  · have harg := hnested.skipped s
    split
    · next arg rest hreply =>
      rw [hreply] at harg
      exact (readsWithin_moreArguments hnested rest.length [arg] rest).mono harg
    · exact List.suffix_rfl
    · next stop hreply =>
      rw [hreply] at harg
      exact harg
  · intro args rest
    exact (readsWithin_closing rest).bind fun _ ↦ readsWithin_ok args

theorem readsWithin_members (hnested : ReadsWithin captures nested) (count : Nat) (e : Expr) :
    ReadsWithin captures (members nested count e) := by
  induction count generalizing e with
  | zero => exact readsWithin_ok e
  | succ count ih =>
    intro s
    unfold members
    split
    · next t =>
      split
      · exact List.suffix_rfl
      · next name rest hname =>
        have hrest : rest <:+ '.' :: t :=
          (identifier?_eq_some.1 hname).suffix.trans (List.suffix_cons '.' t)
        split
        · next u hopening =>
          have hu : u <:+ '.' :: t :=
            (List.suffix_cons '(' u).trans ((hopening ▸ skip_suffix rest).trans hrest)
          exact ((readsWithin_arguments hnested u).mono hu).bind fun args ↦
            ih (.call e (String.ofList name) args)
        · exact (ih (.member e (String.ofList name)) rest).mono hrest
    · exact List.suffix_rfl

theorem readsWithin_accessed (hnested : ReadsWithin scope.captures nested) :
    ReadsWithin scope.captures (accessed scope nested) := fun s ↦
  (readsWithin_primary hnested s).bind fun e rest ↦
    readsWithin_members hnested rest.length e rest

section Operators

variable {ω : Type} {operand : Reader Expr} {sign? : List Char → Option (ω × List Char)}
  {join : ω → Expr → Expr → Expr}

/-- Each further operand is read from what the sign before it leaves. -/
theorem readsWithin_moreOperands (hoperand : ReadsWithin captures operand)
    (hsign : ∀ s op t, sign? s = some (op, t) → t <:+ s) (count : Nat) (left : Expr) :
    ReadsWithin captures (moreOperands operand sign? join count left) := by
  induction count generalizing left with
  | zero => exact readsWithin_ok left
  | succ count ih =>
    intro s
    unfold moreOperands
    split
    · exact List.suffix_rfl
    · next op t hread =>
      have hsuffix : t <:+ s := (hsign _ op t hread).trans (skip_suffix s)
      exact ((hoperand.skipped t).mono hsuffix).committed.bind fun right ↦ ih (join op left right)

theorem readsWithin_joined (hoperand : ReadsWithin captures operand)
    (hsign : ∀ s op t, sign? s = some (op, t) → t <:+ s) :
    ReadsWithin captures (joined operand sign? join) := fun s ↦
  (hoperand s).bind fun left rest ↦ readsWithin_moreOperands hoperand hsign rest.length left rest

end Operators

theorem readsWithin_sum (hnested : ReadsWithin scope.captures nested) :
    ReadsWithin scope.captures (sum scope nested) :=
  readsWithin_joined (readsWithin_accessed hnested) fun _ _ _ hsign ↦
    (sumSign?_eq_some.1 hsign).suffix

theorem readsWithin_comparison (hnested : ReadsWithin scope.captures nested) :
    ReadsWithin scope.captures (comparison scope nested) := by
  intro s
  refine (readsWithin_sum hnested s).bind fun left rest ↦ ?_
  split
  · exact List.suffix_rfl
  · next op t hsign =>
    have hsuffix : t <:+ rest := (compareSign_of_read hsign).suffix.trans (skip_suffix rest)
    exact (((readsWithin_sum hnested).skipped t).mono hsuffix).committed.bind fun right ↦
      readsWithin_ok (Expr.compare op left right)

theorem readsWithin_negation (hnested : ReadsWithin scope.captures nested) (count : Nat) :
    ReadsWithin scope.captures (negation scope nested count) := by
  induction count with
  | zero => exact readsWithin_comparison hnested
  | succ count ih =>
    intro s
    unfold negation
    split
    · exact readsWithin_comparison hnested s
    · next t hsign =>
      have hsuffix : t <:+ s := (negationSign?_eq_some.1 hsign).suffix
      exact ((ih.skipped t).mono hsuffix).committed.bind fun e ↦ readsWithin_ok (Expr.not e)

theorem readsWithin_conjunction (hnested : ReadsWithin scope.captures nested) :
    ReadsWithin scope.captures (conjunction scope nested) := by
  refine readsWithin_joined (fun s ↦ readsWithin_negation hnested s.length s) fun s op t hsign ↦ ?_
  obtain ⟨rest, hread, heq⟩ := Option.map_eq_some_iff.1 hsign
  cases heq
  exact (conjunctionSign?_eq_some.1 hread).suffix

theorem readsWithin_disjunction (hnested : ReadsWithin scope.captures nested) :
    ReadsWithin scope.captures (disjunction scope nested) := by
  refine readsWithin_joined (readsWithin_conjunction hnested) fun s op t hsign ↦ ?_
  obtain ⟨rest, hread, heq⟩ := Option.map_eq_some_iff.1 hsign
  cases heq
  exact (disjunctionSign?_eq_some.1 hread).suffix

end Levels

/-- By induction on the depth, since only brackets read an expression anew. -/
theorem readsWithin_expression (scope : Scope) (depth : Nat) :
    ReadsWithin scope.captures (expression scope depth) := by
  induction depth with
  | zero => exact fun s ↦ within_unexpected _ s
  | succ depth ih => exact readsWithin_disjunction ih

/-! ## Whole filters -/

theorem header_suffix (s : List Char) : (header s).2 <:+ s := by
  unfold header
  split
  · exact List.suffix_rfl
  · next name rest hname =>
    have hrest : rest <:+ s := (identifier?_eq_some.1 hname).suffix.trans (skip_suffix s)
    split
    · next t harrow =>
      have ht : t <:+ skip rest := ⟨_, (symbol?_eq_some.1 harrow).symm⟩
      exact ht.trans ((skip_suffix rest).trans hrest)
    · exact List.suffix_rfl

/-- The header of a filter is a part of the text as well. -/
theorem readsWithin_body (captures : Captures) : ReadsWithin captures (body captures) := by
  intro s
  have hexpression := ((readsWithin_expression ⟨(header s).1, captures⟩
    ((header s).2.length + 1)).skipped (header s).2).mono (header_suffix s)
  unfold body
  dsimp only
  split
  · next e rest hreply =>
    rw [hreply] at hexpression
    split
    · exact List.nil_suffix
    · exact (within_unexpected captures (skip rest)).mono ((skip_suffix rest).trans hexpression)
  · exact hexpression

/-! ## What is reported -/

/-- The length that positions are counted in is that of the text in UTF-8. -/
theorem byteLength_eq (s : List Char) : byteLength s = (String.ofList s).utf8ByteSize := by
  induction s with
  | nil => rfl
  | cons c s ih =>
    rw [byteLength, ih, String.ofList_cons, String.utf8ByteSize_append,
      String.utf8ByteSize_singleton]

/-- The causes that may be reported for a place of a text, by what stands there. -/
inductive ReportedAt (captures : Captures) (s : List Char) : ParseError → Prop
  | ending : (∀ c ∈ s, isBlank c = true) → ReportedAt captures s .unexpectedEnd
  | word {w : List Char} : IsFirstWord w s →
      ReportedAt captures s (.unexpectedWord (String.ofList w))
  | number {w : List Char} {n : Int} : w <+: s → IsNumeral w n → int64? n = none →
      ReportedAt captures s (.invalidNumber (String.ofList w))
  | string {quote : Char} {u : List Char} : s = quote :: u → quote = '\x22' ∨ quote = '\x27' →
      (∀ w t, ¬ Quoted quote w u t) → ReportedAt captures s .unterminatedString
  | unbound {name t : List Char} : s = '$' :: name ++ t →
      captures.lookup (String.ofList name) = none →
      ReportedAt captures s (.unboundVariable (String.ofList name))

/-- The fault at a place is reported with a cause that is true of what stands there. -/
theorem Stop.Within.reportedAt {stop : Stop} (h : stop.Within captures s) :
    ReportedAt captures stop.rest stop.cause := by
  have hholds := h.holds
  unfold Stop.cause
  split
  · split
    · next hword => exact .word (isFirstWord_of_firstWord? hword)
    · next hnone => exact .ending (firstWord?_eq_none.1 hnone)
  · next hfault =>
    rw [hfault] at hholds
    obtain ⟨hdigits, n, hn, hrange⟩ := hholds
    exact .number hdigits hn hrange
  · next hfault =>
    rw [hfault] at hholds
    obtain ⟨quote, u, hrest, hquote, hopen⟩ := hholds
    exact .string hrest hquote hopen
  · next hfault =>
    rw [hfault] at hholds
    obtain ⟨t, hrest, hnone⟩ := hholds
    exact .unbound hrest hnone

/-- Two texts that begin differently, whatever is put in behind their beginnings. -/
theorem append_ne_append {a b : List Char} (hab : ¬ a <+: b) (hba : ¬ b <+: a) {u v : String} :
    String.ofList a ++ u ≠ String.ofList b ++ v := by
  intro heq
  have hlist : a ++ u.toList = b ++ v.toList := by
    simpa using congrArg String.toList heq
  have ha : a <+: b ++ v.toList := ⟨u.toList, hlist⟩
  rcases List.prefix_or_prefix_of_prefix ha (List.prefix_append b v.toList) with h | h
  · exact hab h
  · exact hba h

theorem message_unexpectedWord (w : String) :
    (ParseError.unexpectedWord w).message = "unexpected '" ++ (w ++ "'") :=
  String.append_assoc

theorem message_invalidNumber (w : String) :
    (ParseError.invalidNumber w).message = "invalid number '" ++ (w ++ "'") :=
  String.append_assoc

theorem message_unboundVariable (name : String) :
    (ParseError.unboundVariable name).message = "unbound variable '$" ++ (name ++ "'") :=
  String.append_assoc

namespace ReportedAt

variable {cause : ParseError}

/-- The end of the input is reported only where nothing but blanks is left. -/
theorem blank_of_message (h : ReportedAt captures s cause)
    (hmessage : cause.message = "unexpected end of input") : ∀ c ∈ s, isBlank c = true := by
  have hparts : cause.message = "unexpected end" ++ " of input" := hmessage
  cases h with
  | ending hblank => exact hblank
  | word hword =>
    rw [message_unexpectedWord] at hparts
    exact absurd hparts (append_ne_append (by decide) (by decide))
  | number hdigits hn hrange =>
    rw [message_invalidNumber] at hparts
    exact absurd hparts (append_ne_append (by decide) (by decide))
  | string hopening hquote hopen => exact absurd hmessage (by decide)
  | unbound hname hnone =>
    rw [message_unboundVariable] at hparts
    exact absurd hparts (append_ne_append (by decide) (by decide))

/-- A word that is quoted in a message is the one that stands there. -/
theorem isFirstWord_of_message {w : String} (h : ReportedAt captures s cause)
    (hmessage : cause.message = "unexpected '" ++ w ++ "'") : IsFirstWord w.toList s := by
  have hparts : cause.message = "unexpected '" ++ (w ++ "'") := hmessage.trans String.append_assoc
  cases h with
  | word hword =>
    rw [message_unexpectedWord, String.append_right_inj, String.append_left_inj] at hparts
    rwa [← hparts, String.toList_ofList]
  | ending hblank =>
    change "unexpected end" ++ " of input" = _ at hparts
    exact absurd hparts (append_ne_append (by decide) (by decide))
  | number hdigits hn hrange =>
    rw [message_invalidNumber] at hparts
    exact absurd hparts (append_ne_append (by decide) (by decide))
  | string hopening hquote hopen =>
    change "unterminated" ++ " string" = _ at hparts
    exact absurd hparts (append_ne_append (by decide) (by decide))
  | unbound hname hnone =>
    rw [message_unboundVariable] at hparts
    exact absurd hparts (append_ne_append (by decide) (by decide))

end ReportedAt

/-- A filter that cannot be read is refused with the position of a character of its text, or of its
end, and the message is true of the text behind that position: if it speaks of the end of the
input, only blanks are there, and if it quotes a word, that is the first one there. -/
theorem parse_errors_point_into_text {text : String} {error : Error}
    (h : read captures text = .error error) :
    ∃ (position : Nat) (cause : ParseError) (before rest : String),
      error = .parse position cause ∧ text = before ++ rest ∧ before.utf8ByteSize = position ∧
        position ≤ text.utf8ByteSize ∧ String.Pos.Raw.IsValid text ⟨position⟩ ∧
        ReportedAt captures rest.toList cause ∧
        (cause.message = "unexpected end of input" → ∀ c ∈ rest.toList, isBlank c = true) ∧
        ∀ w, cause.message = "unexpected '" ++ w ++ "'" → IsFirstWord w.toList rest.toList := by
  have hbody := readsWithin_body captures text.toList
  have hstop : ∃ stop : Stop, stop.Within captures text.toList ∧
      error = .parse (byteLength text.toList - byteLength stop.rest) stop.cause := by
    unfold read at h
    dsimp only at h
    split at h
    · cases h
    · next stop hreply =>
      rw [hreply] at hbody
      exact ⟨stop, hbody, (Except.error.inj h).symm⟩
    · next stop hreply =>
      rw [hreply] at hbody
      exact ⟨stop, hbody, (Except.error.inj h).symm⟩
  obtain ⟨stop, hwithin, rfl⟩ := hstop
  obtain ⟨before, hsplit⟩ := hwithin.suffix
  have htext : text = String.ofList before ++ String.ofList stop.rest := by
    rw [← String.ofList_append, hsplit, String.ofList_toList]
  have hposition : (String.ofList before).utf8ByteSize =
      byteLength text.toList - byteLength stop.rest := by
    rw [byteLength_eq, byteLength_eq, String.ofList_toList, htext, String.utf8ByteSize_append,
      Nat.add_sub_cancel]
  have hreported : ReportedAt captures (String.ofList stop.rest).toList stop.cause := by
    rw [String.toList_ofList]
    exact hwithin.reportedAt
  refine ⟨_, _, _, _, rfl, htext, hposition, ?_, ?_, hreported, hreported.blank_of_message,
    fun w ↦ hreported.isFirstWord_of_message⟩
  · rw [byteLength_eq, String.ofList_toList]
    exact Nat.sub_le _ _
  · rw [String.Pos.Raw.isValid_iff_exists_append]
    exact ⟨_, _, htext, congrArg String.Pos.Raw.mk hposition.symm⟩

/-- The position counts bytes: two letters in front of it are not of ASCII and have two each. -/
theorem parse_error_behind_umlauts :
    read [] "Größe > )" = .error (.parse 10 (.unexpectedWord ")")) ∧
      String.Pos.Raw.IsValid "Größe > )" ⟨10⟩ ∧
      ∃ before rest, "Größe > )" = before ++ rest ∧ before.utf8ByteSize = 10 ∧
        IsFirstWord [')'] rest.toList := by
  have hread : read [] "Größe > )" = .error (.parse 10 (.unexpectedWord ")")) := by rfl
  obtain ⟨position, cause, before, rest, herror, hsplit, hposition, -, hvalid, -, -, hword⟩ :=
    parse_errors_point_into_text hread
  cases herror
  exact ⟨hread, hvalid, before, rest, hsplit, hposition, hword ")" rfl⟩

end EntitySql.Filter
