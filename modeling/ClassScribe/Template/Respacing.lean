import ClassScribe.Template.CommentLine
import ClassScribe.Template.Parser
import ClassScribe.Template.Source
import ClassScribe.Text.Unquoted

/-! # White space between the words of tags

The places inside of outputs and statements, outside of string literals, where one character of white space
may stand for another. Two statements bind white space: a loop takes a space on each side of its `in` and
nothing else, and the name of a parent is taken with the white space in it. -/

namespace ClassScribe.Template

/-- Whether the white space between two sides of a statement is a part of the statement. -/
inductive Statement.Binds : List Char → List Char → Prop
  /-- the space before the `in` of a loop -/
  | beforeIn {before behind target item : List Char} {more : List (List Char)} :
      Text.isIdentifier target = true → Text.words before = ["for".toList, target] →
      Text.words behind = "in".toList :: item :: more → "in ".toList <+: behind → Binds before behind
  /-- the space behind the `in` of a loop -/
  | behindIn {before behind target : List Char} :
      Text.isIdentifier target = true → Text.words before = ["for".toList, target, "in".toList] →
      " in".toList <:+ before → Text.words behind ≠ [] → Binds before behind
  /-- white space in the name of a parent -/
  | parent {before behind word : List Char} {more : List (List Char)} :
      Text.words before = "extends".toList :: word :: more → Text.words behind ≠ [] → Binds before behind

namespace Piece

/-- Whether a text behind the opening of a tag, and behind the marker there, leaves the tag open and no string
literal open. -/
structure StaysOpen (kind : TagKind) (s : List Char) : Prop where
  unquoted : Text.quoteBehind none s = none
  unclosed : ∀ l r, s = l ++ closer kind :: '\x7d' :: r → Text.quoteBehind none l ≠ none

/-- What stands in a tag behind a place outside of string literals, without the marker at the end, if the tag
is closed. -/
def tagRest? (kind : TagKind) (behind : List Char) : Option (List Char) :=
  (spanInner (closer kind) true none behind).map fun (inside, _) => (tailMarker inside).2

/-- Whether the white space at a place in a tag may be exchanged, where it stands between some text of the tag
and what follows in the source. -/
def IsFree (kind : TagKind) (before behind : List Char) : Prop :=
  kind = .statement → ∀ rest ∈ tagRest? kind behind, ¬Statement.Binds before rest

end Piece

/-- Whether one plain blank stands for another in a source, inside of a tag and outside of string literals, at
a place where this may be done. -/
inductive Respaced (free : TagKind → List Char → List Char → Prop) : List Char → List Char → Prop
  /-- In an output or a statement, behind the marker at its start. -/
  | tag {above front behind : List Char} {opening c d : Char} {kind : TagKind} :
      Piece.EndsOutside above → above.getLast? ≠ some '\x7b' → Piece.opens? opening = some kind →
      kind ≠ .comment → Piece.StaysOpen kind (Piece.leadMarker front).2 →
      Text.isPlainBlank c = true → Text.isPlainBlank d = true →
      free kind (Piece.leadMarker front).2 behind →
      Respaced free (above ++ '\x7b' :: opening :: (front ++ c :: behind))
        (above ++ '\x7b' :: opening :: (front ++ d :: behind))
  /-- In the end tag of a raw section. -/
  | endraw {above before behind after : List Char} {line : Nat} {c d : Char} :
      Piece.cut above = .error (line, .unclosedRaw) → EndrawTag (before ++ c :: behind) →
      Text.isPlainBlank c = true → Text.isPlainBlank d = true →
      Respaced free (above ++ (before ++ c :: behind ++ after)) (above ++ (before ++ d :: behind ++ after))

/-- Whether two sources come to the same: to one template, or to an error of syntax each. -/
def ReadAlike (options : Spacing) (name content content' : String) : Prop :=
  (∃ t, parse options name content = .ok t ∧ parse options name content' = .ok t) ∨
    ∃ line fault line' fault', parse options name content = .error (.invalidSyntax name line fault) ∧
      parse options name content' = .error (.invalidSyntax name line' fault')

end ClassScribe.Template
