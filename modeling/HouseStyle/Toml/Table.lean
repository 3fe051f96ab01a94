import HouseStyle.Toml.Value

/-!
Tables while a document is read. A table that only stands on the way to another one is implicit and may
still get a header of its own; a table made by a dotted key is dotted and may not, but further dotted keys
add to it.
-/

set_option autoImplicit false
namespace HouseStyle.Toml

mutual

inductive Item where
  | value (value : Value)
  | table (table : Table)
  /-- An array of tables, the last one apart. -/
  | tables (earlier : List Table) (last : Table)

inductive Table where
  | mk (implicit dotted : Bool) (items : List (String × Item))

end

namespace Table

def implicit : Table → Bool
  | mk implicit _ _ => implicit

def dotted : Table → Bool
  | mk _ dotted _ => dotted

def items : Table → List (String × Item)
  | mk _ _ items => items

def empty : Table := mk false false []

def get? (t : Table) (key : String) : Option Item :=
  (t.items.find? (·.1 == key)).map (·.2)

def put (t : Table) (key : String) (item : Item) : Table :=
  match t with
  | mk implicit dotted items =>
    if items.any (·.1 == key) then
      mk implicit dotted (items.map fun entry => if entry.1 == key then (key, item) else entry)
    else mk implicit dotted (items ++ [(key, item)])

/-- The item with a change to the table it stands for, the last one of several. -/
def change (make : Table → Option Table) : Item → Option Item
  | .value _ => none
  | .table t => (make t).map .table
  | .tables earlier last => (make last).map (.tables earlier)

def update (make : Table → Option Table) : List String → Table → Option Table
  | [], t => make t
  | key :: path, t =>
    -- a table that is missing is made, and may still get a header
    let item := (t.get? key).getD (.table (mk true false []))
    (change (update make path) item).map (t.put key)

/-- As `update`, along a dotted key: a table with a header of its own does not take part. -/
def updateDotted (make : Table → Option Table) : List String → Table → Option Table
  | [], t => make t
  | key :: path, t =>
    let item := (t.get? key).getD (.table (mk true true []))
    let extendable := match item with
      | .table inner => inner.implicit
      | _ => true
    if extendable then (change (updateDotted make path) item).map (t.put key) else none

def insertNew (key : String) (value : Value) (t : Table) : Option Table :=
  match t.get? key with
  | none => some (t.put key (.value value))
  | some _ => none

/-- A value under a dotted key: the table it goes to must be one made by dotted keys. -/
def insert (path : List String) (key : String) (value : Value) (t : Table) : Option Table :=
  updateDotted (fun inner =>
    if inner.dotted == path.isEmpty then none else insertNew key value inner) path t

def openTable (key : String) (t : Table) : Option Table :=
  match t.get? key with
  | none => some (t.put key (.table empty))
  | some (.table (mk true false items)) => some (t.put key (.table (mk false false items)))
  | some _ => none

def openNext (key : String) (t : Table) : Option Table :=
  match t.get? key with
  | none => some (t.put key (.tables [] empty))
  | some (.tables earlier last) => some (t.put key (.tables (earlier ++ [last]) empty))
  | some _ => none

mutual

def entries : Table → List (String × Value)
  | mk _ _ items => entriesOf items

def entriesOf : List (String × Item) → List (String × Value)
  | [] => []
  | (key, item) :: rest => (key, itemValue item) :: entriesOf rest

def itemValue : Item → Value
  | .value value => value
  | .table t => .table (entries t)
  | .tables earlier last => .array (tableValues earlier ++ [.table (entries last)])

def tableValues : List Table → List Value
  | [] => []
  | t :: rest => .table (entries t) :: tableValues rest

end

end Table
end HouseStyle.Toml
