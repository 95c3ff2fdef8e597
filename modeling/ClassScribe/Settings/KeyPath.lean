import ClassScribe.Settings.Setting

/-! # Key paths

A key of a configuration file or an environment may be a path: names with dots between them, and
positions in lists between brackets. What is no path is a name as a whole. -/

namespace ClassScribe

/-- A step of a key path. -/
inductive KeyStep
  | name (name : String)
  | position (index : Int)
  deriving DecidableEq, Repr

namespace KeyStep

/-- A character of a name in a path. -/
def isNameChar (c : Char) : Bool := c.isAlphanum || c == ' ' || c == '_' || c == '-'

/-- A name at the start, and what follows it. -/
def readName? (s : List Char) : Option (KeyStep × List Char) :=
  let name := s.takeWhile isNameChar
  if name.isEmpty then none else some (.name (String.ofList name), s.dropWhile isNameChar)

/-- The position between brackets whose opening one has been read, and what follows. -/
def readPosition? (s : List Char) : Option (KeyStep × List Char) :=
  let s := s.dropWhile Char.isWhitespace
  let (negative, s) := if s.head? = some '-' then (true, s.drop 1) else (false, s)
  let digits := s.takeWhile Char.isDigit
  let n := Extended.valueOf digits
  match (s.dropWhile Char.isDigit).dropWhile Char.isWhitespace with
  | ']' :: rest =>
    if digits.isEmpty then none else some (.position (if negative then -n else n), rest)
  | _ => none

/-- The steps after the first one. A step takes a character, so as many as there are characters are
enough. -/
def readMore? : Nat → List Char → Option (List KeyStep)
  | _, [] => some []
  | 0, _ => none
  | count + 1, '.' :: rest => do
    let (step, rest) ← readName? rest
    pure (step :: (← readMore? count rest))
  | count + 1, '[' :: rest => do
    let (step, rest) ← readPosition? rest
    pure (step :: (← readMore? count rest))
  | _, _ => none

/-- The steps of a key. -/
def ofKey (key : String) : List KeyStep :=
  let path := do
    let (step, rest) ← readName? key.toList
    pure (step :: (← readMore? rest.length rest))
  path.getD [.name key]

end KeyStep

namespace Setting

/-- The place of a position in a list of a length; a negative one counts from the end. -/
def indexOf (index : Int) (length : Nat) : Nat :=
  if 0 ≤ index then index.toNat else length - index.natAbs

/-- The items with one of them replaced; the list is made longer if it has to be. -/
def setItem (index : Int) (value : Setting) (items : List Setting) : List Setting :=
  let i := indexOf index items.length
  (items ++ List.replicate (i + 1 - items.length) Setting.nothing).set i value

/-- Sets what is at a path. Tables and lists are made on the way where something else is. -/
def setAt (s : Setting) (path : List KeyStep) (value : Setting) : Setting :=
  match path with
  | [] => value
  | [.name name] => .table (merge name value s.entriesOf)
  | .name name :: rest =>
    let inner := (s.entriesOf.lookup name).getD .nothing
    .table (replace name (inner.setAt rest value) s.entriesOf)
  | .position index :: rest =>
    let items := s.itemsOf
    let inner := items[indexOf index items.length]?.getD .nothing
    .list (setItem index (inner.setAt rest value) items)

/-- Adds the entries of a source to a table. -/
def addSource (s : Setting) (source : List (String × Setting)) : Setting :=
  source.foldl (fun s (key, value) => s.setAt (KeyStep.ofKey key) value) s

end Setting
end ClassScribe
