import ClassScribe.Expr.Filter

/-! # Patterns

What the filter `format` is given is a row of texts with a place between any two of them. Each place is
written as `%s`, and each percent sign of a text twice. -/

namespace ClassScribe

/-- A text, and the texts behind the places. -/
structure Pattern where
  first : String
  more : List String

namespace Pattern

/-- Characters with each percent sign twice. -/
def doubled (s : List Char) : List Char := s.flatMap fun c => if c = '%' then ['%', '%'] else [c]

/-- The characters of a place and of the text behind it. -/
def behindPlace (text : String) : List Char := '%' :: 's' :: doubled text.toList

/-- How a pattern is written. -/
def source (p : Pattern) : String :=
  String.ofList (doubled p.first.toList ++ p.more.flatMap behindPlace)

/-- The texts of a pattern with one text at each place. -/
def fill (p : Pattern) (shown : List String) : String :=
  String.ofList (p.first.toList ++
    (List.zipWith (fun s text => s.toList ++ text.toList) shown p.more).flatten)

end Pattern
end ClassScribe
