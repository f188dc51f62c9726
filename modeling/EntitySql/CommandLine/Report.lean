import EntitySql.CommandLine.Failure
import EntitySql.CommandLine.Request
import EntitySql.Json.Writing
import EntitySql.Sql.Statement

/-!
# Reports

What is printed for a request: lines of text, or a JSON object whose fields are sorted by name. A
report that breaks off keeps the lines before the failure.
-/

namespace EntitySql.CommandLine

structure Report where
  output : String
  failure : Option Failure

namespace Report

def ofLines (lines : List String) : String := String.join (lines.map (· ++ "\n"))

def done (output : String) : Report := ⟨output, none⟩

def failed (failure : Failure) : Report := ⟨"", some failure⟩

/-- A report that goes on after a text, unless that text is all there is. -/
def after (output : String) (rest : Report) : Report := ⟨output ++ rest.output, rest.failure⟩

def ofExcept : Except Failure String → Report
  | .ok output => done output
  | .error failure => failed failure

end Report

/-! ## Statements -/

def bagLines (bag : ParamBag) : List String :=
  if bag.isEmpty then []
  else "Parameters:" :: bag.entries.map fun (name, v) ↦ "  " ++ marker name ++ " = " ++ v.text

def statementTable (dialect : Dialect) (sql : String) (params : Params) : String :=
  Report.ofLines
    (["Dialect: " ++ dialect.name, "Generated SQL:", "  " ++ sql] ++ params.bags.flatMap bagLines)

def bagJson (bag : ParamBag) : Json := (Value.record (Record.ofList bag.entries)).toJson

def paramsJson : Params → Json
  | .single bag => bagJson bag
  | .batch bags => .array (bags.map bagJson)

def statementJson (dialect : Dialect) (sql : String) (params : Params) : String :=
  Report.ofLines
    [Json.indented (.object
      [("dialect", .string dialect.name), ("params", paramsJson params), ("sql", .string sql)])]

def statementReport (format : OutputFormat) (dialect : Dialect) (statement : Statement) : String :=
  match format with
  | .table => statementTable dialect statement.sql statement.params
  | .json => statementJson dialect statement.sql statement.params

/-! ## Filters -/

def filterLines (filter : String) : String := Report.ofLines ["Filter: " ++ filter, ""]

def treeLines (e : Expr) : String := Report.ofLines ["Parsed Tree:", "  " ++ e.text]

def fragmentLines (dialect : Dialect) (fragment : Fragment) : String :=
  Report.ofLines
    (["", "Generated SQL: (" ++ dialect.name ++ ")", "  " ++ fragment.sql] ++
      bagLines fragment.params)

/-! ## Dialects -/

/-- A text with blanks after it, up to a width. -/
def padRight (width : Nat) (text : String) : String :=
  text ++ String.ofList (List.replicate (width - text.length) ' ')

/-- A line of the table of dialects. -/
def dialectLine (name upper param concat paging : String) : String :=
  " ".intercalate
    [padRight 10 name, padRight 8 upper, padRight 10 param, padRight 12 concat, paging]

def styleLine (d : Dialect) : String :=
  let style := d.style
  let paging := style.paging (marker "top") (marker "skip")
  dialectLine d.name style.upperFunction (style.placeholder 1) (style.concat ["a", "b"])
    (String.ofList (Text.trim paging.toList))

def dialectTable : String :=
  Report.ofLines
    (dialectLine "Dialect" "Upper" "Param" "Concat" "Paging" ::
      String.ofList (List.replicate 80 '─') :: Dialect.all.map styleLine)

end EntitySql.CommandLine
