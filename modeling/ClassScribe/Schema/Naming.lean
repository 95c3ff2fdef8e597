import ClassScribe.Text.Fill
import ClassScribe.Text.Letter
import ClassScribe.Text.LetterCase

/-! # Names and descriptions

What the name of a schema parameter becomes in a class (a constant key, the name of an accessor
argument, a method title), and how its description is cleaned and filled. -/

namespace ClassScribe.Naming
open ClassScribe.Text

/-- The width of the description of an accessor argument. -/
def descriptionWidth : Nat := 102

/-- The width of the description of an enumeration entry. -/
def entryWidth : Nat := 113

/-! ### Constant keys -/

/-- A name that is written like a constant already. -/
def isConstant (name : List Char) : Bool :=
  !name.isEmpty && name.all fun c => isCapital c || c == '_' || isDecimalDigit c

/-- Puts underscores where words meet: after a small letter before a capital, before the last of
three or more capitals, and before a digit that ends the name after a small letter or two capitals.
The characters around an underscore are not looked at again. -/
def separateWords : List Char → List Char
  | [] => []
  | [c] => [c]
  | c :: d :: rest =>
    if isSmall c then
      if isCapital d || (isDecimalDigit d && rest.isEmpty) then c :: '_' :: d :: separateWords rest
      else c :: separateWords (d :: rest)
    else if isCapital c && isCapital d then
      let capitals := rest.takeWhile isCapital
      let after := rest.dropWhile isCapital
      match after with
      | [digit] =>
        if isDecimalDigit digit then c :: d :: capitals ++ ['_', digit]
        else if capitals.isEmpty then c :: separateWords (d :: rest)
        else c :: d :: capitals.dropLast ++ '_' :: capitals.getLast?.toList ++ separateWords after
      | _ =>
        if capitals.isEmpty then c :: separateWords (d :: rest)
        else c :: d :: capitals.dropLast ++ '_' :: capitals.getLast?.toList ++ separateWords after
    else c :: separateWords (d :: rest)
termination_by s => s.length
decreasing_by
  all_goals simp_wf
  all_goals
    have := (List.dropWhile_suffix isCapital (l := rest)).length_le
    omega

/-- The name as a constant: words in capitals with underscores between them. -/
def constantKey (name : List Char) : List Char :=
  if isConstant name then name else upper (separateWords name)

/-! ### Accessor arguments -/

/-- A capital and a small letter with word characters behind, or two or more capitals. -/
def isLastWord (s : List Char) : Bool :=
  (match s with
    | c :: d :: _ => isCapital c && isSmall d
    | _ => false) || (2 ≤ s.length && s.all isCapital)

/-- The shortest ending that is a last word. -/
def lastWord? : List Char → Option (List Char)
  | [] => none
  | c :: rest =>
    match lastWord? rest with
    | some word => some word
    | none => if isLastWord (c :: rest) then some (c :: rest) else none

/-- The last word of a name in small letters; a constant, and a name without such a word or with
a character that belongs to no word, is kept whole. -/
def argumentName (name : List Char) : List Char :=
  if isConstant name then lower name
  else if name.all isWordlike then lower ((lastWord? name).getD name)
  else lower name

/-! ### Method titles and function names -/

/-- The name with a capital at its start. -/
def methodTitle (name : List Char) : List Char := upperFirst name

/-- The name without `ID` at its end, if a small letter, and perhaps two or more capitals, stand
before it, and at least one more character before these. -/
def stripIdSuffix (name : List Char) : List Char :=
  match dropTail? ['I', 'D'] name with
  | none => name
  | some body =>
    let stem := dropEndWhile isCapital body
    let capitals := body.length - stem.length
    if name.all isWordlike && capitals != 1 && 2 ≤ stem.length &&
        stem.getLast?.any isSmall then body
    else name

/-! ### Descriptions -/

/-- The opening of a note that is left out of descriptions. -/
def noteOpening : List Char := "[@TODO".toList

/-- The rest of the line after a note that starts here, if one does. A note has at least one
character after its opening and ends with its line. -/
def afterNote? (s : List Char) : Option (List Char) :=
  match dropLead? noteOpening s with
  | some (c :: rest) => if c = '\n' then none else some (rest.dropWhile (· != '\n'))
  | _ => none

theorem length_afterNote? {s r : List Char} (h : afterNote? s = some r) : r.length < s.length := by
  unfold afterNote? at h
  split at h
  · rename_i c rest hd
    split at h
    · simp at h
    · simp only [Option.some.injEq] at h
      have h1 := length_dropLead? hd
      have h2 := length_dropWhile_le (· != '\n') rest
      subst h
      simp only [List.length_cons] at h1
      omega
  · simp at h

/-- Turns every run of two or more white-space characters, every line feed and every note into one
space. -/
def collapse : List Char → List Char
  | [] => []
  | c :: rest =>
    if isBlank c then
      match rest with
      | d :: more => if isBlank d then ' ' :: collapse (more.dropWhile isBlank)
        else (if c = '\n' then ' ' else c) :: collapse (d :: more)
      | [] => [if c = '\n' then ' ' else c]
    else
      match _h : afterNote? (c :: rest) with
      | some after => ' ' :: collapse after
      | none => c :: collapse rest
termination_by s => s.length
decreasing_by
  · have := length_dropWhile_le isBlank more; simp; omega
  · simp
  · exact length_afterNote? _h
  · simp

/-- A description in one line: the lines run together, without notes and superfluous white space. -/
def cleanDescription (ls : List (List Char)) : List Char := trim (collapse ls.flatten)

/-- A description in lines that are shorter by the type tag and the argument name, which stand
before its first line. -/
def fillDescription (width : Nat) (tag argument text : List Char) : List (List Char) :=
  fill (width - tag.length - argument.length) text

end ClassScribe.Naming
