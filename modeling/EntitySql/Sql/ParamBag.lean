import EntitySql.Json.Value

/-!
# Bags of parameters

Named values in the order in which their names were first bound. Binding a name again replaces
its value in place. Two bags are equal when they bind the same names to equal values, in whatever
order.
-/

namespace EntitySql

structure ParamBag where
  entries : List (String × Value)

namespace ParamBag

def empty : ParamBag := ⟨[]⟩

instance : Inhabited ParamBag := ⟨empty⟩

def bindIn (name : String) (value : Value) : List (String × Value) → List (String × Value)
  | [] => [(name, value)]
  | (other, old) :: rest =>
    if other = name then (other, value) :: rest else (other, old) :: bindIn name value rest

def insert (bag : ParamBag) (name : String) (value : Value) : ParamBag :=
  ⟨bindIn name value bag.entries⟩

def get? (bag : ParamBag) (name : String) : Option Value := bag.entries.lookup name

def contains (bag : ParamBag) (name : String) : Bool := (bag.get? name).isSome

def size (bag : ParamBag) : Nat := bag.entries.length

def isEmpty (bag : ParamBag) : Bool := bag.entries.isEmpty

def names (bag : ParamBag) : List String := bag.entries.map (·.1)

def insertAll (bag : ParamBag) (entries : List (String × Value)) : ParamBag :=
  entries.foldl (fun b (name, value) ↦ b.insert name value) bag

/-- Both bags together; the second one has the last word. -/
def extend (bag other : ParamBag) : ParamBag := bag.insertAll other.entries

def ofList (entries : List (String × Value)) : ParamBag := empty.insertAll entries

def equals (a b : ParamBag) : Bool :=
  a.size == b.size && a.entries.all fun (name, value) ↦
    match b.get? name with
    | some other => other.equals value
    | none => false

def toJson (bag : ParamBag) : Json := .object (Value.fieldsToJson bag.entries)

end ParamBag

end EntitySql
