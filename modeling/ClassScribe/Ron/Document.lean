import ClassScribe.Ron.Text
import ClassScribe.Settings.Setting
import ClassScribe.Text.Blank
import ClassScribe.Text.Part

/-! # RON documents

Structures with names or without, options, lists and maps, read as settings: a structure with named
fields is a table, one without names a list, and one without fields nothing. -/

namespace ClassScribe.Ron
open Text (Part)

/-! ### Numbers -/

/-- A character of an integer of any base. -/
def isIntegerChar (c : Char) : Bool := (Numeral.digit? c).isSome || c == '_'

/-- A character of a decimal number. -/
def isFloatChar (c : Char) : Bool :=
  c.isDigit || c == 'e' || c == 'E' || c == '.' || c == '+' || c == '-' || c == '_'

/-- The base of an integer, and its digits with what follows. -/
def splitBase : List Char → Nat × List Char
  | '0' :: 'x' :: rest => (16, rest)
  | '0' :: 'b' :: rest => (2, rest)
  | '0' :: 'o' :: rest => (8, rest)
  | s => (10, s)

/-- The setting of an integer. One that a signed word does not hold is a floating-point number. -/
def ofInteger? (negative signed : Bool) (n : Nat) : Option Setting :=
  let i : Int := if negative then -n else n
  if Number.InSignedRange i then some (.int i)
  else if !signed ∧ Number.InRange i then (Binary64.ofInt? i).map fun x => .float (.finite x)
  else none

/-- An integer, and what follows. -/
def readInteger? (s : List Char) : Option (Setting × List Char) :=
  let (signed, negative, body) := match s with
    | '-' :: rest => (true, true, rest)
    | '+' :: rest => (true, false, rest)
    | s => (false, false, s)
  let (base, body) := splitBase body
  let digits := body.takeWhile isIntegerChar
  if digits.head? = some '_' then none
  else do
    let n ← Numeral.value? base (digits.filter (· != '_'))
    pure (← ofInteger? negative signed n, body.drop digits.length)

/-- A floating-point number, and what follows. -/
def readFloat? (s : List Char) : Option (Setting × List Char) :=
  let literal := s.takeWhile isFloatChar
  (Extended.ofText? literal).map fun x => (.float x, s.drop literal.length)

/-- A number, and what follows. Digits that are no integer may still be a decimal number. -/
def readNumber? (s : List Char) : Option (Setting × List Char) :=
  let body := match s with
    | '-' :: rest => rest
    | '+' :: rest => rest
    | s => s
  match Text.dropLead? "-inf".toList s with
  | some r => if r.head?.any isNameChar then none else some (.float (.infinite true), r)
  | none =>
    if (body.takeWhile isIntegerChar).length < (body.takeWhile isFloatChar).length then readFloat? s
    else
      match readInteger? s with
      | some found => some found
      | none => readFloat? s

/-! ### Values -/

/-- The setting of a word. -/
def ofWord? (name : List Char) : Option Setting :=
  if name = "true".toList then some (.flag true)
  else if name = "false".toList then some (.flag false)
  else if name = "None".toList then some .nothing
  else if name = "inf".toList then some (.float (.infinite false))
  else if name = "NaN".toList then some (.float .nan)
  else none

/-- A value that is a text or a number, and what follows. -/
def readScalar? (s : List Char) : Option (Setting × List Char) :=
  match readText? s with
  | some (t, r) => some (.text (String.ofList t), r)
  | none => readNumber? s

/-- Whether fields with names follow an opening parenthesis. -/
def startsFields (s : List Char) : Bool :=
  match readName? (skip s) with
  | some (_, r) => (skip r).head? = some ':'
  | none => false

/-- The key of a field, which is a name in a structure and a text in a map, and what follows. -/
def readKey? (close : Char) (s : List Char) : Option (List Char × List Char) :=
  if close = ')' then readName? s else readText? s

/-- Adds an entry in front of later ones, of which one with the same key counts. -/
def addEntry (key : String) (value : Setting) (later : List (String × Setting)) :
    List (String × Setting) :=
  if (later.lookup key).isSome then later else (key, value) :: later

mutual
/-- A value behind white space and comments. -/
def readValue (s : List Char) : Part Setting s :=
  match h : skip s with
  | [] => none
  | c :: rest =>
    have hs := skip_length h
    if c = '[' then
      match readItems ']' rest with
      | none => none
      | some (items, ⟨r, hr⟩) => some (.list items, ⟨r, Nat.lt_trans hr hs⟩)
    else if c = '\x7b' then
      match readPairs '\x7d' rest with
      | none => none
      | some (entries, ⟨r, hr⟩) => some (.table entries, ⟨r, Nat.lt_trans hr hs⟩)
    else if c = '(' then
      if rest.head? = some ')' then Part.of? s .nothing (rest.drop 1)
      else
        match readFields rest with
        | none => none
        | some (v, ⟨r, hr⟩) => some (v, ⟨r, Nat.lt_trans hr hs⟩)
    else
      match readName? (c :: rest) with
      | none =>
        match readScalar? (c :: rest) with
        | none => none
        | some (v, r) => Part.of? s v r
      | some (name, r) =>
        if hr : r.length < s.length then
          match ofWord? name with
          | some v => some (v, ⟨r, hr⟩)
          | none =>
            match hn : skip r with
            | '(' :: r2 =>
              have h2 := Nat.lt_trans (skip_length hn) hr
              if name = "Some".toList then
                match readItems ')' r2 with
                | some ([v], ⟨r3, h3⟩) => some (v, ⟨r3, Nat.lt_trans h3 h2⟩)
                | _ => none
              else
                match readFields r2 with
                | none => none
                | some (v, ⟨r3, h3⟩) => some (v, ⟨r3, Nat.lt_trans h3 h2⟩)
            | _ => if name = "Some".toList then none else some (.nothing, ⟨r, hr⟩)
        else none
termination_by (s.length, 0)
decreasing_by all_goals exact Prod.Lex.left _ _ (by assumption)

/-- The fields of a structure behind its opening parenthesis, with names or without. -/
def readFields (s : List Char) : Part Setting s :=
  if startsFields s then
    match readPairs ')' s with
    | none => none
    | some (entries, r) => some (.table entries, r)
  else
    match readItems ')' s with
    | none => none
    | some (items, r) => some (.list items, r)
termination_by (s.length, 2)
decreasing_by all_goals exact Prod.Lex.right _ (Nat.lt_succ_self 1)

/-- Items with commas between them and perhaps behind the last one, up to the closing character. -/
def readItems (close : Char) (s : List Char) : Part (List Setting) s :=
  match h : skip s with
  | [] => none
  | c :: rest =>
    if c = close then some ([], ⟨rest, skip_length h⟩)
    else
      match readValue s with
      | none => none
      | some (v, ⟨r, hr⟩) =>
        match hn : skip r with
        | [] => none
        | d :: r2 =>
          have h2 := Nat.lt_trans (skip_length hn) hr
          if d = close then some ([v], ⟨r2, h2⟩)
          else if d = ',' then
            match readItems close r2 with
            | none => none
            | some (items, ⟨r3, h3⟩) => some (v :: items, ⟨r3, Nat.lt_trans h3 h2⟩)
          else none
termination_by (s.length, 1)
decreasing_by
  · exact Prod.Lex.right _ Nat.zero_lt_one
  · exact Prod.Lex.left _ _ h2

/-- Pairs with commas between them and perhaps behind the last one, up to the closing character. -/
def readPairs (close : Char) (s : List Char) : Part (List (String × Setting)) s :=
  match h : skip s with
  | [] => none
  | c :: rest =>
    if c = close then some ([], ⟨rest, skip_length h⟩)
    else
      match readKey? close (c :: rest) with
      | none => none
      | some (key, r0) =>
        if hk : r0.length < s.length then
          match hc : skip r0 with
          | ':' :: r1 =>
            have h1 := Nat.lt_trans (skip_length hc) hk
            match readValue r1 with
            | none => none
            | some (v, ⟨r2, h2⟩) =>
              match hn : skip r2 with
              | [] => none
              | d :: r3 =>
                have h3 := Nat.lt_trans (skip_length hn) (Nat.lt_trans h2 h1)
                if d = close then some ([(String.ofList key, v)], ⟨r3, h3⟩)
                else if d = ',' then
                  match readPairs close r3 with
                  | none => none
                  | some (more, ⟨r4, h4⟩) =>
                    some (addEntry (String.ofList key) v more, ⟨r4, Nat.lt_trans h4 h3⟩)
                else none
          | _ => none
        else none
termination_by (s.length, 1)
decreasing_by all_goals exact Prod.Lex.left _ _ (by assumption)
end

/-! ### Documents -/

/-- The extensions that a text may ask for. None of them matters to settings. -/
def extensions : List (List Char) :=
  ["unwrap_newtypes".toList, "implicit_some".toList, "unwrap_variant_newtypes".toList]

/-- What follows the words of an attribute, with white space and comments between them. -/
def dropWords? : List (List Char) → List Char → Option (List Char)
  | [], s => some s
  | word :: more, s => (Text.dropLead? word s).bind fun r => dropWords? more (skip r)

/-- What follows the names of extensions; there are at most as many as characters. -/
def dropExtensions? : Nat → List Char → Option (List Char)
  | 0, _ => none
  | count + 1, s => do
    let (name, r) ← readName? s
    if extensions.contains name then
      match skip r with
      | ',' :: r =>
        if (skip r).head?.any isNameChar then dropExtensions? count (skip r) else some (skip r)
      | r => some r
    else none

/-- What follows the attributes at the start; there are at most as many as characters. -/
def dropAttributes? : Nat → List Char → Option (List Char)
  | 0, s => some s
  | count + 1, s =>
    match skip s with
    | '#' :: rest => do
      let r ← dropWords? ["#".toList, "!".toList, "[".toList, "enable".toList, "(".toList] ('#' :: rest)
      let r ← dropExtensions? (r.length + 1) r
      dropAttributes? count (← dropWords? [")".toList, "]".toList] r)
    | s => some s

/-- The setting of a text that holds nothing else. -/
def parse? (s : List Char) : Option Setting := do
  let s ← dropAttributes? s.length s
  match readValue s with
  | some (v, ⟨r, _⟩) => if (skip r).isEmpty then some v else none
  | none => none

end ClassScribe.Ron
