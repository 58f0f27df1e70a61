import PassChain.Toml.Value

/-!
The tables of a document while it is read. A table that only stands on the way to another one is
implicit; a table made by a dotted key can be extended by dotted keys only.
-/

namespace PassChain.Toml

/-- A field of a table that is being read. -/
inductive Item where
  | value (v : Value)
  | table (implicit dotted : Bool) (items : List (String × Item))
  /-- an array of tables, to which headers add -/
  | tables (elements : List (List (String × Item)))
deriving Inhabited

/-- The fields of a table that is being read. -/
abbrev Items := List (String × Item)

/-- Replaces the field of a name. -/
def Items.replace (items : Items) (name : String) (item : Item) : Items :=
  items.map fun field => if field.1 = name then (name, item) else field

def updateLast? {α : Type} (f : α → Option α) : List α → Option (List α)
  | [] => none
  | [x] => (f x).map ([·])
  | x :: rest => (updateLast? f rest).map (x :: ·)

/-- Changes the table at a path, and makes the tables on the way that are missing. In an array of
tables the way leads through the last one. A dotted key leads through no table that a header has
made. The change is told whether the table was made by a dotted key. -/
def Items.atPath (byKey : Bool) (change : Bool → Items → Option Items) :
    List String → Bool → Items → Option Items
  | [], dotted, items => change dotted items
  | name :: path, _, items =>
    match items.lookup name with
    | none => do
      let made ← atPath byKey change path byKey []
      pure (items ++ [(name, .table true byKey made)])
    | some (.value _) => none
    | some (.tables elements) => do
      let elements ← updateLast? (atPath byKey change path false) elements
      pure (Items.replace items name (.tables elements))
    | some (.table implicit dotted inner) =>
      if byKey && !implicit then none
      else do
        let inner ← atPath byKey change path dotted inner
        pure (Items.replace items name (.table implicit dotted inner))

/-- Adds the value of a key, dotted or not, to a table. A dotted key adds only to tables that
dotted keys have made, and no key is given twice. -/
def Items.insert (items : Items) (path : List String) (v : Value) : Option Items := do
  let name ← path.getLast?
  let parents := path.dropLast
  Items.atPath true (fun dotted items =>
    if dotted == parents.isEmpty || (items.lookup name).isSome then none
    else some (items ++ [(name, .value v)])) parents false items

/-- Opens the table of a header. Only a table that so far stands on the way to others can be
opened. -/
def Items.openTable (items : Items) (path : List String) : Option Items := do
  let name ← path.getLast?
  Items.atPath false (fun _ items =>
    match items.lookup name with
    | none => some (items ++ [(name, .table false false [])])
    | some (.table true false inner) => some (items.replace name (.table false false inner))
    | some _ => none) path.dropLast false items

/-- Adds a table to the array of a header. -/
def Items.openElement (items : Items) (path : List String) : Option Items := do
  let name ← path.getLast?
  Items.atPath false (fun _ items =>
    match items.lookup name with
    | none => some (items ++ [(name, .tables [[]])])
    | some (.tables elements) => some (items.replace name (.tables (elements ++ [[]])))
    | some _ => none) path.dropLast false items

mutual

def Item.toValue : Item → Value
  | .value v => v
  | .table _ _ items => .table (fieldsToTable items)
  | .tables elements => .array (elementsToValues elements)

/-- The fields as those of a table. -/
def fieldsToTable : List (String × Item) → Table
  | [] => []
  | (name, item) :: rest => (name, item.toValue) :: fieldsToTable rest

/-- The elements of an array of tables as values. -/
def elementsToValues : List (List (String × Item)) → List Value
  | [] => []
  | items :: rest => .table (fieldsToTable items) :: elementsToValues rest

end

end PassChain.Toml
