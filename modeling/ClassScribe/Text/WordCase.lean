import ClassScribe.Text.LetterCase
import ClassScribe.Text.Letter

/-! # Word cases

A text is cut into words at everything that is not an ASCII letter or digit, and inside a word
where small letters meet capitals; the words are then written in one of the styles for
identifiers. -/

namespace ClassScribe.Text

/-! ### Words of an identifier -/

/-- The case of the last cased character since the last boundary, if there is one. -/
inductive CaseMode
  | boundary
  | small
  | capital
  deriving DecidableEq, Repr

/-- The mode after a character that does not end a word. -/
def CaseMode.after (mode : CaseMode) (c : Char) : CaseMode :=
  if isSmall c then .small else if isCapital c then .capital else mode

/-- The maximal runs of ASCII letters and digits. -/
def alphanumericRuns (run : List Char) : List Char → List (List Char)
  | [] => if run.isEmpty then [] else [run.reverse]
  | c :: rest =>
    if c.isAlphanum then alphanumericRuns (c :: run) rest
    else (if run.isEmpty then [] else [run.reverse]) ++ alphanumericRuns [] rest

/-- Cuts a run after a small letter before a capital, and before a capital between a capital and a
small letter; `word` holds the word that is being read, reversed. -/
def humps (mode : CaseMode) (word : List Char) : List Char → List (List Char)
  | [] => if word.isEmpty then [] else [word.reverse]
  | [c] => [(c :: word).reverse]
  | c :: next :: rest =>
    if mode.after c = .small && isCapital next then
      (c :: word).reverse :: humps .boundary [] (next :: rest)
    else if mode = .capital && isCapital c && isSmall next then
      word.reverse :: humps .boundary [c] (next :: rest)
    else humps (mode.after c) (c :: word) (next :: rest)

/-- The words of an identifier. -/
def identifierWords (s : List Char) : List (List Char) :=
  (alphanumericRuns [] s).flatMap (humps .boundary [])

/-! ### Styles -/

/-- The word in small letters. -/
def smallWord (w : List Char) : List Char := w.map Char.toLower

/-- The word with a capital at its start and small letters after it. -/
def capitalWord : List Char → List Char
  | [] => []
  | c :: rest => c.toUpper :: smallWord rest

/-- How a text can be re-cased. -/
inductive CaseStyle
  /-- Words run together, each with a capital. -/
  | pascal
  /-- The same with a small first word. -/
  | camel
  /-- Small words with underscores between them. -/
  | snake
  /-- Small words with hyphens between them. -/
  | kebab
  /-- The whole text in capitals. -/
  | upper
  /-- The whole text in small letters. -/
  | lower
  deriving DecidableEq, Repr

/-- All styles. -/
def CaseStyle.all : List CaseStyle := [.pascal, .camel, .snake, .kebab, .upper, .lower]

/-- The name of a style. -/
def CaseStyle.name : CaseStyle → String
  | .pascal => "pascal"
  | .camel => "camel"
  | .snake => "snake"
  | .kebab => "kebab"
  | .upper => "upper"
  | .lower => "lower"

/-- The style of a name. -/
def CaseStyle.ofName? (name : String) : Option CaseStyle := CaseStyle.all.find? (·.name == name)

/-- The text in a style. -/
def CaseStyle.apply (style : CaseStyle) (s : List Char) : List Char :=
  match style with
  | .pascal => (identifierWords s).flatMap capitalWord
  | .camel =>
    match identifierWords s with
    | [] => []
    | first :: rest => smallWord first ++ rest.flatMap capitalWord
  | .snake => ['_'].intercalate ((identifierWords s).map smallWord)
  | .kebab => ['-'].intercalate ((identifierWords s).map smallWord)
  | .upper => Text.upper s
  | .lower => Text.lower s

end ClassScribe.Text
