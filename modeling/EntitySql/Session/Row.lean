import EntitySql.Schema.Meta

/-!
# Rows

A row as a database returns it: columns in order, whose names may repeat. Columns are found by
their exact name first, then by a name that differs only in the case of ASCII letters.
-/

namespace EntitySql

structure Row where
  columns : List (String × Value)

namespace Row

def get? (row : Row) (column : String) : Option Value := Record.find? row.columns column

def first? (row : Row) : Option Value := row.columns.head?.map (·.2)

def names (row : Row) : List String := row.columns.map (·.1)

def size (row : Row) : Nat := row.columns.length

def isEmpty (row : Row) : Bool := row.columns.isEmpty

/-- The row as a record; the last of several columns of a name stays. -/
def toRecord (row : Row) : Record := Record.ofList row.columns

end Row

end EntitySql
