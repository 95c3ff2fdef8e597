import ClassScribe.Settings.Setting

/-! # TOML tables

How keys and headers build a table. Every table remembers whether it was only passed through on the
way to another one, and whether a dotted key made it: a table gets a header of its own at most once,
and dotted keys go only through tables that dotted keys have made. -/

namespace ClassScribe.Toml

/-- What is under a key: a value, a table, or the tables of a list of headers. -/
inductive Item
  | value (value : Setting)
  | table (passed dotted : Bool) (entries : List (String × Item))
  | elements (tables : List Item)
  deriving Inhabited

namespace Item

/-- A table without entries. -/
def empty : Item := .table false false []

/-! ### Tables on a path -/

/-- The table that further keys go to: the table itself, or the last one of a list. -/
def target? : Item → Option Item
  | .value _ => none
  | .table passed dotted entries => some (.table passed dotted entries)
  | .elements tables => tables.getLast?

/-- The item with another table that further keys go to. -/
def setTarget (item new : Item) : Item :=
  match item with
  | .elements tables => .elements (tables.dropLast ++ [new])
  | _ => new

/-- The entry of a table. -/
def entry? (key : String) : Item → Option Item
  | .table _ _ entries => entries.lookup key
  | _ => none

/-- The entries with one of them replaced or added. -/
def setEntry (key : String) (item : Item) : List (String × Item) → List (String × Item)
  | [] => [(key, item)]
  | (k, old) :: rest => if k = key then (k, item) :: rest else (k, old) :: setEntry key item rest

/-- The table with an entry replaced or added. -/
def set (t : Item) (key : String) (item : Item) : Item :=
  match t with
  | .table passed dotted entries => .table passed dotted (setEntry key item entries)
  | other => other

/-- A table that dotted keys may not go through. -/
def isFixed : Item → Bool
  | .table passed _ _ => !passed
  | _ => false

/-- Changes the table at the end of a path. Tables that are not there are made on the way. -/
def changeAt? (dotted : Bool) (change : Item → Option Item) : List String → Item → Option Item
  | [], item => do
    let t ← item.target?
    pure (item.setTarget (← change t))
  | key :: path, item => do
    let t ← item.target?
    let inner := (t.entry? key).getD (.table true dotted [])
    if dotted && inner.isFixed then none
    else
      let inner ← changeAt? dotted change path inner
      pure (item.setTarget (t.set key inner))

/-! ### Statements -/

/-- Adds a value to a table; a dotted key needs a table that dotted keys have made. -/
def addValue? (dotted : Bool) (key : String) (value : Setting) (t : Item) : Option Item :=
  match t, t.entry? key with
  | .table _ wasDotted _, none => if wasDotted = dotted then some (t.set key (.value value)) else none
  | _, _ => none

/-- Adds a key with its value to a table. -/
def addPair? (path : List String) (key : String) (value : Setting) (t : Item) : Option Item :=
  changeAt? true (addValue? (!path.isEmpty) key value) path t

/-- Gives a table its header. -/
def define? (key : String) (t : Item) : Option Item :=
  match t.entry? key with
  | none => some (t.set key empty)
  | some (.table true false entries) => some (t.set key (.table false false entries))
  | some _ => none

/-- Adds a table to a list of tables. -/
def addElement? (key : String) (t : Item) : Option Item :=
  match t.entry? key with
  | none => some (t.set key (.elements [empty]))
  | some (.elements tables) => some (t.set key (.elements (tables ++ [empty])))
  | some _ => none

/-! ### Settings -/

mutual
/-- The setting that an item stands for. -/
def toSetting : Item → Setting
  | .value v => v
  | .table _ _ entries => .table (toEntries entries)
  | .elements tables => .list (toItems tables)
/-- The settings of entries. -/
def toEntries : List (String × Item) → List (String × Setting)
  | [] => []
  | (key, item) :: rest => (key, toSetting item) :: toEntries rest
/-- The settings of items. -/
def toItems : List Item → List Setting
  | [] => []
  | item :: rest => toSetting item :: toItems rest
end

end Item
end ClassScribe.Toml
