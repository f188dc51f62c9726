import EntitySql.Number.Reading
import EntitySql.Text.LetterCase
import EntitySql.Text.Split

/-!
# URLs

The scheme of a URL, and the faults of its authority: the user, host and port after two slashes.
A host is a name without the characters that a URL gives a meaning, or an IPv6 address in square
brackets. Spaces and control characters around a URL are not part of it, nor are tabs and line ends
within. Path, query and fragment have no faults.
-/

namespace EntitySql.Url

inductive Fault
  | relative
  | emptyHost
  | invalidPort
  | invalidAddress
  | invalidName
  deriving DecidableEq, Repr

def Fault.message : Fault → String
  | .relative => "relative URL without a base"
  | .emptyHost => "empty host"
  | .invalidPort => "invalid port number"
  | .invalidAddress => "invalid IPv6 address"
  | .invalidName => "invalid domain character"

/-- What stands before the first colon, in lower case. -/
def scheme (url : String) : String :=
  String.ofList (Text.foldAscii (url.toList.takeWhile (· != ':')))

/-! ## Addresses -/

/-- A number below 256 without leading zeros. -/
def isOctet (s : List Char) : Bool :=
  (s == ['0'] || s.head? != some '0') && (Number.natural? s).any (· < 256)

def isDottedQuad (s : List Char) : Bool :=
  let octets := s.splitOn '.'
  octets.length == 4 && octets.all isOctet

/-- Sixteen bits in hexadecimal digits. -/
def isGroup (s : List Char) : Bool :=
  !s.isEmpty && s.length ≤ 4 && s.all fun c ↦ (Number.hexValue? c).isSome

/-- How many times sixteen bits the groups hold. The last may be a dotted quad, which counts twice,
where it ends the address. -/
def units? (isEnd : Bool) : List (List Char) → Option Nat
  | [] => some 0
  | [g] => if isGroup g then some 1 else if isEnd && isDottedQuad g then some 2 else none
  | g :: gs => if isGroup g then (units? isEnd gs).map (· + 1) else none

def groups (s : List Char) : List (List Char) := if s.isEmpty then [] else s.splitOn ':'

/-- The parts of a text around its first gap, which is two colons in a row. -/
def splitGap? : List Char → Option (List Char × List Char)
  | ':' :: ':' :: s => some ([], s)
  | c :: s => (splitGap? s).map fun (before, after) ↦ (c :: before, after)
  | [] => none

/-- An address has eight units. A gap, if there is one, stands for those that are left out. -/
def isAddress (s : List Char) : Bool :=
  match splitGap? s with
  | none => units? true (groups s) == some 8
  | some (before, after) =>
    match units? false (groups before), units? true (groups after) with
    | some m, some n => m + n < 8
    | _, _ => false

/-! ## The authority -/

def reserved : List Char :=
  ['\x00', '\t', '\n', '\r', ' ', '#', '/', ':', '<', '>', '?', '@', '[', '\\', ']', '^', '|']

def checkHost : List Char → Except Fault Unit
  | '[' :: s =>
    if s.getLast? == some ']' && isAddress s.dropLast then .ok () else .error .invalidAddress
  | s => if s.any (· ∈ reserved) then .error .invalidName else .ok ()

/-- A port has sixteen bits. A backslash ends it, and a path begins there. -/
def checkPort (s : List Char) : Except Fault Unit :=
  let rest := s.dropWhile Char.isDigit
  if Number.ofDigits (s.takeWhile Char.isDigit) < 65536 && (rest.isEmpty || rest.head? == some '\\')
  then .ok ()
  else .error .invalidPort

/-- The parts of a text before and from its first colon outside square brackets. -/
def splitHost (bracketed : Bool) : List Char → List Char × List Char
  | [] => ([], [])
  | c :: s =>
    if c == ':' && !bracketed then ([], c :: s)
    else
      let (host, rest) := splitHost (c == '[' || (bracketed && c != ']')) s
      (c :: host, rest)

/-- The host may be left out where neither a user stands before it nor a colon behind it. -/
def checkHostAndPort (hasUser : Bool) (s : List Char) : Except Fault Unit := do
  let (host, rest) := splitHost false s
  checkHost host
  if host.isEmpty && (hasUser || !rest.isEmpty) then throw .emptyHost
  checkPort (rest.drop 1)

def endsAuthority (c : Char) : Bool := c == '/' || c == '?' || c == '#'

/-- The user stands before the last at sign, and a colon alone is none. An authority of nothing but
the at sign must end the URL. -/
def checkAuthority (s : List Char) : Except Fault Unit :=
  let authority := s.takeWhile fun c ↦ !endsAuthority c
  match Text.splitLast? '@' authority with
  | none => checkHostAndPort false authority
  | some (user, host) =>
    if user.isEmpty && host.isEmpty && authority.length < s.length then .error .emptyHost
    else checkHostAndPort (user != [] && user != [':']) host

/-! ## The whole -/

def isBorder (c : Char) : Bool := c.toNat ≤ ' '.toNat

def isIgnored (c : Char) : Bool := c == '\t' || c == '\n' || c == '\r'

/-- The characters that make up the URL. -/
def significant (s : List Char) : List Char :=
  (((s.dropWhile isBorder).reverse.dropWhile isBorder).reverse).filter fun c ↦ !isIgnored c

/-- The first fault of a URL. Without two slashes it has no authority. -/
def check (url : String) : Except Fault Unit :=
  match (significant url.toList).dropWhile (· != ':') with
  | [] => .error .relative
  | _ :: '/' :: '/' :: s => checkAuthority s
  | _ => .ok ()

end EntitySql.Url
