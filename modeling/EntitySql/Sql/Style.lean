import EntitySql.Sql.Dialect

/-!
# The style of a dialect

What dialects differ in: the quotes of identifiers, the placeholders of a driver, the upper-case
function, concatenation and paging. A name is quoted only where it is a reserved word; inside the
quotes the closing quote is written twice, so that no name ends its quotes early.
-/

namespace EntitySql

inductive PlaceholderForm
  | question
  | numbered (lead : String)
  deriving DecidableEq

inductive ConcatForm
  | joined (separator : String)
  | called (function : String)
  deriving DecidableEq

inductive PagingForm
  | limitOffset
  | offsetFetch
  deriving DecidableEq

structure Style where
  opening : Char
  closing : Char
  placeholderForm : PlaceholderForm
  upperFunction : String
  concatForm : ConcatForm
  pagingForm : PagingForm
  /-- Whether paging is only valid after an ORDER BY. -/
  pagingNeedsOrder : Bool

def Dialect.style : Dialect → Style
  | .db2 => ⟨'\x22', '\x22', .question, "UCASE", .joined " || ", .limitOffset, false⟩
  | .postgres => ⟨'\x22', '\x22', .numbered "$", "UPPER", .joined " || ", .limitOffset, false⟩
  | .mySql => ⟨'\x60', '\x60', .question, "UCASE", .called "CONCAT", .limitOffset, false⟩
  | .sqlite => ⟨'\x22', '\x22', .question, "UPPER", .joined " || ", .limitOffset, false⟩
  | .sqlServer => ⟨'[', ']', .numbered "@p", "UPPER", .joined " + ", .offsetFetch, true⟩
  | .sqlCe => ⟨'[', ']', .numbered "@p", "UPPER", .joined " + ", .offsetFetch, true⟩
  | .firebird => ⟨'\x22', '\x22', .question, "UPPER", .joined " || ", .offsetFetch, false⟩

/-- Words that are quoted as the name of a table or column. -/
def reservedWords : List String :=
  ["ADD", "ALL", "ALTER", "AND", "AS", "ASC", "BETWEEN", "BY", "CASE", "CHECK", "COLUMN",
    "CONSTRAINT", "CREATE", "CROSS", "CURRENT", "DATE", "DEFAULT", "DELETE", "DESC", "DISTINCT",
    "DROP", "ELSE", "END", "EXISTS", "FETCH", "FOR", "FOREIGN", "FROM", "FULL", "GROUP",
    "HAVING", "IN", "INDEX", "INNER", "INSERT", "INTO", "IS", "JOIN", "KEY", "LEFT", "LIKE",
    "LIMIT", "NOT", "NULL", "OFFSET", "ON", "OR", "ORDER", "OUTER", "PRIMARY", "REFERENCES",
    "RIGHT", "ROWS", "SELECT", "SET", "TABLE", "THEN", "TIME", "TIMESTAMP", "TO", "TOP",
    "UNION", "UNIQUE", "UPDATE", "USER", "VALUES", "VALUE", "WHEN", "WHERE", "WITH"]

def isReserved (name : String) : Bool := reservedWords.any (Text.sameIgnoringCase name)

/-- The marker of a parameter in the text of a statement. -/
def marker (param : String) : String := "@" ++ param

def doubled (quote : Char) (s : List Char) : List Char :=
  s.flatMap fun c ↦ if c = quote then [c, c] else [c]

namespace Style

def quoteChars (style : Style) (name : List Char) : List Char :=
  style.opening :: doubled style.closing name ++ [style.closing]

def quote (style : Style) (name : String) : String :=
  String.ofList (style.quoteChars name.toList)

/-- A table or column as it stands in a statement. -/
def identifier (style : Style) (name : String) : String :=
  if isReserved name then style.quote name else name

/-- The placeholder of the parameter of this number, counted from one. -/
def placeholder (style : Style) (index : Nat) : String :=
  match style.placeholderForm with
  | .question => "?"
  | .numbered lead => lead ++ toString index

def concat (style : Style) (parts : List String) : String :=
  match style.concatForm with
  | .joined separator => separator.intercalate parts
  | .called function => function ++ "(" ++ ", ".intercalate parts ++ ")"

def paging (style : Style) (limit offset : String) : String :=
  match style.pagingForm with
  | .limitOffset => " LIMIT " ++ limit ++ " OFFSET " ++ offset
  | .offsetFetch => " OFFSET " ++ offset ++ " ROWS FETCH NEXT " ++ limit ++ " ROWS ONLY"

end Style

end EntitySql
