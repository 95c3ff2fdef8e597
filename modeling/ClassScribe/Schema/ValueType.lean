import ClassScribe.Text.Blank
import ClassScribe.Text.Letter

/-! # Value types

The types of accessor values and the type tags that stand for them in schemas and comments:
scalars, arrays, and types that are defined elsewhere. -/

namespace ClassScribe

/-- The built-in types. -/
inductive Scalar
  | string
  | number
  | boolean
  deriving DecidableEq, Repr

/-- The type of a value. -/
inductive ValueType
  | scalar (scalar : Scalar)
  | array (element : ValueType)
  | named (name : String)
  deriving DecidableEq, Repr

namespace ValueType

/-- The type tag of a scalar. -/
def scalarTag : Scalar → String
  | .string => "String"
  | .number => "Number"
  | .boolean => "Boolean"

/-- The type tag of a type. -/
def tag : ValueType → String
  | .scalar s => scalarTag s
  | .array element => "Array<" ++ element.tag ++ ">"
  | .named name => name

/-- Whether a type is a given scalar. -/
def isScalar (t : ValueType) (s : Scalar) : Bool := t == .scalar s

/-! ### Reading type tags -/

/-- Why a text is no type tag. -/
inductive Error
  | unterminated (text : String)
  | invalid (text : String)
  deriving DecidableEq, Repr

/-- The text of the failure. -/
def Error.message : Error → String
  | .unterminated text => "unterminated array type `" ++ text ++ "`"
  | .invalid text => "invalid type `" ++ text ++ "`"

/-- The text behind the opening of an array type. -/
def afterArray? (s : List Char) : Option (List Char) :=
  (Text.dropLead? "Array<".toList s).or (Text.dropLead? "List<".toList s)

/-- A character of the name of a type. -/
def isNamePart (c : Char) : Bool := Text.isAlphanumeric c || c == '_' || c == '.'

/-- The type of a text that is no array type: a scalar under one of its names, or a named type. -/
def ofWord (s : List Char) : Except Error ValueType :=
  let word := String.ofList s
  if word = "String" then .ok (.scalar .string)
  else if word = "Number" ∨ word = "Integer" ∨ word = "Float" ∨ word = "Double" then
    .ok (.scalar .number)
  else if word = "Boolean" then .ok (.scalar .boolean)
  else if !s.isEmpty && s.all isNamePart then .ok (.named word)
  else .error (.invalid word)

theorem length_trim_le (s : List Char) : (Text.trim s).length ≤ s.length := by
  have h1 := (List.dropWhile_suffix Text.isBlank (l := s)).length_le
  have h2 := (List.dropWhile_suffix Text.isBlank (l := (s.dropWhile Text.isBlank).reverse)).length_le
  simp only [List.length_reverse] at h2
  simp only [Text.trim, Text.trimEnd, Text.trimStart, Text.dropEndWhile, List.length_reverse]
  omega

theorem length_afterArray? {s r : List Char} (h : afterArray? s = some r) :
    r.length < s.length := by
  have key : ∀ {p s r : List Char}, p ≠ [] → Text.dropLead? p s = some r →
      r.length < s.length := by
    intro p s r hp h
    have := Text.length_dropLead? h
    cases p with
    | nil => exact absurd rfl hp
    | cons a p => simp at this; omega
  rcases Option.or_eq_some_iff.1 h with h | ⟨_, h⟩
  · exact key (by decide) h
  · exact key (by decide) h

theorem length_dropTail? {p s r : List Char} (h : Text.dropTail? p s = some r) :
    r.length ≤ s.length := by
  simp only [Text.dropTail?, Option.map_eq_some_iff] at h
  obtain ⟨a, h1, rfl⟩ := h
  have := Text.length_dropLead? h1
  simp at this ⊢; omega

/-- The type of a type tag. White space around the tag and around every element type is ignored. -/
def ofChars (s : List Char) : Except Error ValueType :=
  match _ha : afterArray? (Text.trim s) with
  | none => ofWord (Text.trim s)
  | some rest =>
    match _hb : Text.dropTail? ['>'] rest with
    | none => .error (.unterminated (String.ofList (Text.trim s)))
    | some inner => (ofChars inner).map .array
termination_by s.length
decreasing_by
  have h1 := length_trim_le s
  have h2 := length_afterArray? _ha
  have h3 := length_dropTail? _hb
  omega

/-- The type of a type tag. -/
def ofTag (s : String) : Except Error ValueType := ofChars s.toList

end ValueType
end ClassScribe
