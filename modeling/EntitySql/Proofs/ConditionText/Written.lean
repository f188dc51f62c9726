import EntitySql.Proofs.ConditionText.Clause
import EntitySql.Proofs.Sql.Lowering
import Mathlib.Data.List.Forall2

/-!
# Conditions read back from their text

The text of a condition has the tokens that its parts have, and the tokens of a condition are read
as the clause that it stands for, however it nests: a negation takes its parentheses and no more,
and what stands under a connective is either a predicate or in parentheses of its own.
-/

namespace EntitySql.ConditionText

open Text

/-! ## Tokens of a text -/

/-- A text whose tokens, where nothing goes on into it, are these. -/
def Lexes (d : Dialect) (text : List Char) (tokens : List Token) : Prop :=
  ∀ s, Delimited s → lex d (text ++ s) = (lex d s).map (tokens ++ ·)

variable {d : Dialect} {a b s : List Char} {ta tb : List Token}

/-- Texts with a blank between them have the tokens of the one and then those of the other. -/
theorem Lexes.blank (ha : Lexes d a ta) (hb : Lexes d b tb) :
    Lexes d (a ++ ' ' :: b) (ta ++ tb) := by
  intro s hs
  calc
    lex d (a ++ ' ' :: b ++ s) = lex d (a ++ (' ' :: (b ++ s))) := by rw [List.append_assoc]; rfl
    _ = (lex d (b ++ s)).map (ta ++ ·) := by rw [ha _ (by simp), lex_blank]
    _ = ((lex d s).map (tb ++ ·)).map (ta ++ ·) := by rw [hb s hs]
    _ = (lex d s).map (ta ++ tb ++ ·) := by
      simp only [Option.map_map, Function.comp_def, List.append_assoc]

theorem Lexes.comma (ha : Lexes d a ta) (hb : Lexes d b tb) :
    Lexes d (a ++ ',' :: ' ' :: b) (ta ++ .comma :: tb) := by
  intro s hs
  calc
    lex d (a ++ ',' :: ' ' :: b ++ s) = lex d (a ++ (',' :: ' ' :: (b ++ s))) := by
      rw [List.append_assoc]
      rfl
    _ = ((lex d (b ++ s)).map (.comma :: ·)).map (ta ++ ·) := by
      rw [ha _ (by simp), lex_comma, lex_blank]
    _ = (((lex d s).map (tb ++ ·)).map (.comma :: ·)).map (ta ++ ·) := by rw [hb s hs]
    _ = (lex d s).map (ta ++ .comma :: tb ++ ·) := by
      simp only [Option.map_map, Function.comp_def, List.append_assoc, List.cons_append]

theorem Lexes.parenthesized (ha : Lexes d a ta) :
    Lexes d ('(' :: (a ++ [')'])) (.opening :: (ta ++ [.closing])) := by
  intro s hs
  calc
    lex d ('(' :: (a ++ [')']) ++ s) = (lex d (a ++ (')' :: s))).map (.opening :: ·) := by
      rw [List.cons_append, List.append_assoc, lex_opening]
      rfl
    _ = (((lex d s).map (.closing :: ·)).map (ta ++ ·)).map (.opening :: ·) := by
      rw [ha _ (by simp), lex_closing]
    _ = (lex d s).map (.opening :: (ta ++ [.closing]) ++ ·) := by
      simp only [Option.map_map, Function.comp_def, List.append_assoc, List.cons_append,
        List.nil_append]

theorem lexes_word (name : String) (hname : isAsciiName name.toList = true) :
    Lexes d name.toList [.word name] :=
  fun _ hs ↦ lex_word name hname hs.stops_word

theorem lexes_identifier {name : String} (hname : isAsciiName name.toList = true) :
    Lexes d (d.style.identifier name).toList [identifierToken name] :=
  fun _ hs ↦ lex_identifier name hname hs

theorem lexes_marker {name : String} (hname : IsParamName name) :
    Lexes d (marker name).toList [.param name] :=
  fun _ hs ↦ lex_param name hname.1 hname.2 hs.stops_word

/-- A function applied to arguments. -/
theorem Lexes.call {function : String} (hname : isAsciiName function.toList = true)
    (ha : Lexes d a ta) :
    Lexes d (function.toList ++ '(' :: (a ++ [')']))
      (.word function :: .opening :: (ta ++ [.closing])) := by
  intro s hs
  have hstops : Stops isAsciiWordPart ('(' :: (a ++ [')']) ++ s) := by
    rw [List.cons_append, stops_cons]
    decide
  rw [List.append_assoc, lex_word function hname hstops, ha.parenthesized s hs, Option.map_map]
  simp only [Function.comp_def, List.cons_append]

theorem lexes_compare (op : CompareOp) : Lexes d op.sqlSymbol.toList [.compare op] :=
  fun _ hs ↦ lex_compare op hs

theorem lexes_wildcard : Lexes d "'%'".toList [.string "%"] :=
  fun _ hs ↦ lex_wildcard (hs.stops (by decide) (by decide) (by decide))

/-- Parts with a separator have their tokens with that of the separator between them. -/
theorem lexes_intercalate (separator : String) {t : Token}
    (hseparator : ∀ {a b ta tb}, Lexes d a ta → Lexes d b tb →
      Lexes d (a ++ (separator.toList ++ b)) (ta ++ t :: tb))
    {parts : List String} {tokens : List (List Token)}
    (h : List.Forall₂ (fun text ts ↦ Lexes d text.toList ts) parts tokens) (hne : parts ≠ []) :
    Lexes d (separator.intercalate parts).toList ([t].intercalate tokens) := by
  rw [String.toList_intercalate]
  induction h with
  | nil => exact absurd rfl hne
  | @cons text ts texts tokens hfirst hrest ih =>
    cases hrest with
    | nil =>
      simp only [List.map_cons, List.map_nil, List.intercalate_singleton]
      exact hfirst
    | cons hsecond hrest =>
      simp only [List.map_cons, List.intercalate_cons_cons, List.append_assoc] at ih ⊢
      exact hseparator hfirst (ih (by simp))

def concatTokens (d : Dialect) (parts : List (List Token)) : List Token :=
  match d.style.concatForm with
  | .joined _ => [Token.join].intercalate parts
  | .called function =>
    .word function :: .opening :: ([Token.comma].intercalate parts ++ [.closing])

theorem lexes_join {separator : String} (hform : d.style.concatForm = .joined separator)
    (ha : Lexes d a ta) (hb : Lexes d b tb) :
    Lexes d (a ++ (separator.toList ++ b)) (ta ++ .join :: tb) := by
  obtain ⟨c, w, hsign, htext⟩ : ∃ c w, joinSign? d = some (c :: w) ∧
      separator.toList = ' ' :: (c :: w ++ [' ']) := by
    cases d <;> cases hform <;> exact ⟨_, _, rfl, rfl⟩
  have hjoin : Lexes d (c :: w) [.join] := fun _ _ ↦ lex_join hsign
  have h := (ha.blank hjoin).blank hb
  simpa only [htext, List.append_assoc, List.cons_append, List.nil_append] using h

/-- The concatenation of parts has their tokens, with those of its form between or around them. -/
theorem lexes_concat {parts : List String} {tokens : List (List Token)}
    (h : List.Forall₂ (fun text ts ↦ Lexes d text.toList ts) parts tokens) (hne : parts ≠ []) :
    Lexes d (d.style.concat parts).toList (concatTokens d tokens) := by
  cases hform : d.style.concatForm with
  | joined separator =>
    simp only [Style.concat, concatTokens, hform]
    exact lexes_intercalate separator (lexes_join hform) h hne
  | called function =>
    simp only [Style.concat, concatTokens, hform]
    have hname : isAsciiName function.toList = true := by
      cases d <;> cases hform
      decide
    have hinner := lexes_intercalate ", " Lexes.comma h hne
    have hcall := hinner.call hname
    simpa [String.toList_append] using hcall

/-! ## Tokens of a condition -/

def patternTokens (d : Dialect) (method : StringMethod) (text : List Token) : List Token :=
  match method with
  | .contains => concatTokens d [[.string "%"], text, [.string "%"]]
  | .startsWith => concatTokens d [text, [.string "%"]]
  | .endsWith => concatTokens d [[.string "%"], text]

theorem lexes_pattern (method : StringMethod) {text : String} (h : Lexes d text.toList ta) :
    Lexes d (Condition.pattern d.style method text).toList (patternTokens d method ta) := by
  cases method with
  | contains =>
    exact lexes_concat (.cons lexes_wildcard (.cons h (.cons lexes_wildcard .nil))) (by simp)
  | startsWith => exact lexes_concat (.cons h (.cons lexes_wildcard .nil)) (by simp)
  | endsWith => exact lexes_concat (.cons lexes_wildcard (.cons h .nil)) (by simp)

def upperTokens (d : Dialect) (inner : List Token) : List Token :=
  .word d.style.upperFunction :: .opening :: (inner ++ [.closing])

def bracketed (c : Condition) (tokens : List Token) : List Token :=
  if c.isCompound then .opening :: (tokens ++ [.closing]) else tokens

end EntitySql.ConditionText

namespace EntitySql.Condition

open ConditionText

def tokens (d : Dialect) : Condition → List Token
  | .always holds => [.number 1, .compare .eq, .number (if holds then 1 else 0)]
  | .flag column => [identifierToken column]
  | .isNull column => [identifierToken column, .word "IS", .word "NULL"]
  | .isNotNull column => [identifierToken column, .word "IS", .word "NOT", .word "NULL"]
  | .compareNull column op => [identifierToken column, .compare op, .word "NULL"]
  | .compareParam column op param => [identifierToken column, .compare op, .param param]
  | .compareColumns left op right =>
    [identifierToken left, .compare op, identifierToken right]
  | .like column method param =>
    upperTokens d [identifierToken column] ++ .word "LIKE" ::
      patternTokens d method (upperTokens d [.param param])
  | .not inner => .word "NOT" :: .opening :: (inner.tokens d ++ [.closing])
  | .connect op left right =>
    bracketed left (left.tokens d) ++ .word op.sqlKeyword :: bracketed right (right.tokens d)

variable {d : Dialect}

theorem lexes_upper {text : String} {tokens : List Token} (h : Lexes d text.toList tokens) :
    Lexes d (d.style.upperFunction ++ "(" ++ text ++ ")").toList (upperTokens d tokens) := by
  have hname : Text.isAsciiName d.style.upperFunction.toList = true := by cases d <;> decide
  have hcall := h.call hname
  simpa [upperTokens, String.toList_append] using hcall

theorem lexes_digit (holds : Bool) :
    Lexes d (if holds then "1" else "0").toList [.number (if holds then 1 else 0)] := by
  intro s hs
  cases holds with
  | true => exact lex_digit 1 (by decide) (by decide) hs
  | false => exact lex_digit 0 (by decide) (by decide) hs

/-- A condition stands in brackets under a connective where it is made of others itself. -/
theorem lexes_bracketed {c : Condition} {text : String} {tokens : List Token}
    (h : Lexes d text.toList tokens) :
    Lexes d (if c.isCompound then "(" ++ text ++ ")" else text).toList (bracketed c tokens) := by
  unfold bracketed
  split
  · simpa [String.toList_append] using h.parenthesized
  · exact h

/-- The text of a condition has the tokens of the condition. -/
theorem lexes_render (c : Condition)
    (hcolumns : ∀ column ∈ c.columns, Text.isAsciiName column.toList = true)
    (hparams : ∀ param ∈ c.params, IsParamName param) :
    Lexes d (c.render d.style).toList (c.tokens d) := by
  induction c with
  | always holds =>
    have h := ((lexes_digit true).blank (lexes_compare .eq)).blank (lexes_digit (d := d) holds)
    cases holds <;> simpa [render, tokens, CompareOp.sqlSymbol] using h
  | flag column => exact lexes_identifier (hcolumns column (by simp [columns]))
  | isNull column =>
    have hcolumn := lexes_identifier (d := d) (hcolumns column (by simp [columns]))
    have h := (hcolumn.blank (lexes_word "IS" (by decide))).blank (lexes_word "NULL" (by decide))
    simpa [render, tokens, String.toList_append] using h
  | isNotNull column =>
    have hcolumn := lexes_identifier (d := d) (hcolumns column (by simp [columns]))
    have h := ((hcolumn.blank (lexes_word "IS" (by decide))).blank
      (lexes_word "NOT" (by decide))).blank (lexes_word "NULL" (by decide))
    simpa [render, tokens, String.toList_append] using h
  | compareNull column op =>
    have hcolumn := lexes_identifier (d := d) (hcolumns column (by simp [columns]))
    have h := (hcolumn.blank (lexes_compare op)).blank (lexes_word "NULL" (by decide))
    simpa [render, tokens, String.toList_append] using h
  | compareParam column op param =>
    have hcolumn := lexes_identifier (d := d) (hcolumns column (by simp [columns]))
    have hparam := lexes_marker (d := d) (hparams param (by simp [params]))
    have h := (hcolumn.blank (lexes_compare op)).blank hparam
    simpa [render, tokens, String.toList_append] using h
  | compareColumns left op right =>
    have hleft := lexes_identifier (d := d) (hcolumns left (by simp [columns]))
    have hright := lexes_identifier (d := d) (hcolumns right (by simp [columns]))
    have h := (hleft.blank (lexes_compare op)).blank hright
    simpa [render, tokens, String.toList_append] using h
  | like column method param =>
    have hcolumn := lexes_identifier (d := d) (hcolumns column (by simp [columns]))
    have hparam := lexes_marker (d := d) (hparams param (by simp [params]))
    have h := ((lexes_upper hcolumn).blank (lexes_word "LIKE" (by decide))).blank
      (lexes_pattern method (lexes_upper hparam))
    simpa [render, tokens, String.toList_append] using h
  | not inner ih =>
    have h := (lexes_word (d := d) "NOT" (by decide)).blank (ih hcolumns hparams).parenthesized
    simpa [render, tokens, String.toList_append] using h
  | connect op left right ihl ihr =>
    have hl := ihl (fun c hc ↦ hcolumns c (by simp [columns, hc]))
      (fun p hp ↦ hparams p (by simp [params, hp]))
    have hr := ihr (fun c hc ↦ hcolumns c (by simp [columns, hc]))
      (fun p hp ↦ hparams p (by simp [params, hp]))
    have hop : Lexes d op.sqlKeyword.toList [.word op.sqlKeyword] := by
      cases op <;> exact lexes_word _ (by decide)
    have h := ((lexes_bracketed (c := left) hl).blank hop).blank (lexes_bracketed (c := right) hr)
    simpa [render, tokens, String.toList_append] using h

end EntitySql.Condition
