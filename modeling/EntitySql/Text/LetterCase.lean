import EntitySql.Text.Letter
import EntitySql.Text.LetterCase.Tables

/-!
# Letter case

Full upper and lower case of a text. A character may become several, and a capital sigma at the
end of a word becomes a final sigma. Comparison that ignores case is a separate, plainer matter:
it folds the letters of ASCII alone.
-/

namespace EntitySql.Text

namespace LetterCase

def Run.covers (r : Run) (n : Nat) : Bool :=
  r.first ≤ n && n ≤ r.last && (n - r.first) % r.stride == 0

def mapped (runs : List Run) (expansions : List (Nat × List Nat)) (c : Char) : List Char :=
  match expansions.lookup c.toNat with
  | some ns => ns.map Char.ofNat
  | none =>
    match runs.find? (·.covers c.toNat) with
    | some r => [Char.ofNat (c.toNat + r.shift).toNat]
    | none => [c]

def isCased (c : Char) : Bool :=
  if isAscii c then c.isAlpha else inRanges casedRanges c

def isCaseIgnorable (c : Char) : Bool :=
  if isAscii c then c ∈ ['\x27', '.', ':', '^', '\x60'] else inRanges caseIgnorableRanges c

/-- Whether the first character that is not ignorable is a cased letter. -/
def meetsCased (s : List Char) : Bool :=
  match s.dropWhile isCaseIgnorable with
  | [] => false
  | c :: _ => isCased c

end LetterCase

open LetterCase

def upperChar (c : Char) : List Char :=
  if isAscii c then [c.toUpper] else mapped upperRuns upperExpansions c

def upper (s : List Char) : List Char := s.flatMap upperChar

def lowerChar (c : Char) : List Char :=
  if isAscii c then [c.toLower] else mapped lowerRuns lowerExpansions c

/-- Lower case of a text whose characters in `before`, nearest first, come ahead of it. -/
def lowerAfter (before : List Char) : List Char → List Char
  | [] => []
  | c :: s =>
    if c = 'Σ' then
      (if meetsCased before && !meetsCased s then 'ς' else 'σ') :: lowerAfter (c :: before) s
    else lowerChar c ++ lowerAfter (c :: before) s

def lower (s : List Char) : List Char := lowerAfter [] s

def foldAscii (s : List Char) : List Char := s.map Char.toLower

/-- Equality of two texts up to the case of ASCII letters. -/
def sameIgnoringCase (a b : String) : Bool := foldAscii a.toList == foldAscii b.toList

/-- Whether `needle` stands somewhere in the text. -/
def occursIn (needle : List Char) : List Char → Bool
  | [] => needle.isEmpty
  | c :: s => needle.isPrefixOf (c :: s) || occursIn needle s

end EntitySql.Text
