import EntitySql.Error
import EntitySql.Number.Binary64
import EntitySql.Sql.ParamBag
import EntitySql.Sql.Style

/-!
# Paging

Pages are counted from one. The size of a page and the number of rows before it are the parameters
`top` and `skip`. Where a dialect pages ordered rows only, a text that has no ORDER BY gets one
that orders by nothing.
-/

namespace EntitySql

structure Page where
  size : Int64
  skip : Int64

def Page.ofNumber (number : Option Int64) (size : Int64) : Except Error Page :=
  if size < 0 then .error (.validation .pageSize)
  else
    let number := number.getD 1
    if number < 1 then .error (.validation .page)
    else
      match Number.int64? ((number.toInt - 1) * size.toInt) with
      | some skip => .ok ⟨size, skip⟩
      | none => .error (.validation .pageOffset)

def Page.params (page : Page) : ParamBag :=
  .ofList [("top", .int page.size), ("skip", .int page.skip)]

/-- Whether the words ORDER BY stand anywhere in a text, in any case, each between single blanks. -/
def hasOrderBy (sql : String) : Bool :=
  Text.occursIn " order by ".toList (Text.foldAscii sql.toList)

def orderByNothing : String := " ORDER BY (SELECT NULL)"

def pagingClause (dialect : Dialect) (sql : String) : String :=
  (if dialect.style.pagingNeedsOrder && !hasOrderBy sql then orderByNothing else "") ++
    dialect.style.paging (marker "top") (marker "skip")

/-- The text with its paging clause, and the parameters of that clause. -/
def paginate (sql : String) (number : Option Int64) (size : Int64) (dialect : Dialect) :
    Except Error (String × ParamBag) := do
  let page ← Page.ofNumber number size
  return (sql ++ pagingClause dialect sql, page.params)

end EntitySql
