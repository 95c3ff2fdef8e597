import ClassScribe.Toml.Value

/-! # TOML documents

A TOML text as a table of settings. -/

namespace ClassScribe.Toml

/-! ### Statements -/

/-- Reads a header behind its first bracket. A second one opens an element of a list. -/
def readHeader? (s : List Char) : Option (Statement × Shorter s) :=
  match s with
  | '[' :: rest => do
    let (path, key, ⟨r, h⟩) ← readKey? (skipGaps rest)
    have h1 := skipGaps_length_le rest
    have h2 := skipGaps_length_le r
    match hr : skipGaps r with
    | ']' :: ']' :: r2 =>
      pure (.element path key, ⟨r2, by rw [hr] at h2; simp at h2 ⊢; omega⟩)
    | _ => none
  | s => do
    let (path, key, ⟨r, h⟩) ← readKey? (skipGaps s)
    have h1 := skipGaps_length_le s
    have h2 := skipGaps_length_le r
    match hr : skipGaps r with
    | ']' :: r2 => pure (.table path key, ⟨r2, by rw [hr] at h2; simp at h2; omega⟩)
    | _ => none

/-- Reads a statement. -/
def readStatement? (s : List Char) : Option (Statement × Shorter s) :=
  match s with
  | '[' :: rest => do
    let (statement, r) ← readHeader? rest
    pure (statement, Shorter.cons '[' r)
  | s => do
    let (path, key, ⟨r, h⟩) ← readKey? s
    let ⟨r2, h2⟩ ← dropEquals? r
    let (value, ⟨r3, h3⟩) ← readValue? r2
    pure (.pair path key value, ⟨r3, by omega⟩)

/-- The statements of a text, each at the end of its line. -/
def statements? (s : List Char) : Option (List Statement) :=
  match hf : skipFiller? s with
  | none => none
  | some [] => some []
  | some (c :: rest) => do
    have _h0 : (c :: rest).length ≤ s.length := skipFiller?_length_le hf
    let (statement, ⟨r, _h⟩) ← readStatement? (c :: rest)
    match hl : endLine? r with
    | none => none
    | some r2 =>
      have _h2 := endLine?_length_le hl
      let more ← statements? r2
      pure (statement :: more)
termination_by s.length
decreasing_by omega

/-! ### The table -/

/-- A document while it is read: the outermost table, and the path of the table that pairs go to. -/
structure Draft where
  root : Item
  current : List String

/-- The draft with a further statement. -/
def Draft.add? (d : Draft) : Statement → Option Draft
  | .pair path key value => do
    let root ← d.root.changeAt? false (Item.addPair? path key value) d.current
    pure { d with root }
  | .table path key => do
    let root ← d.root.changeAt? false (Item.define? key) path
    pure ⟨root, path ++ [key]⟩
  | .element path key => do
    let root ← d.root.changeAt? false (Item.addElement? key) path
    pure ⟨root, path ++ [key]⟩

/-- The table of a text. A mark of the byte order may stand at the start. -/
def parse? (s : List Char) : Option (List (String × Setting)) := do
  let s := if s.head? = some '\ufeff' then s.drop 1 else s
  let draft ← (← statements? s).foldlM Draft.add? ⟨.empty, []⟩
  pure draft.root.toSetting.entriesOf

end ClassScribe.Toml
