import ClassScribe.Json5.Scalar
import ClassScribe.Text.Part

/-! # JSON5 documents

JSON with comments, trailing commas, names as keys, and more ways to write strings and numbers, read
as settings. -/

namespace ClassScribe.Json5
open Text (Part)

/-- Adds an entry in front of later ones, of which one with the same key counts. -/
def addEntry (key : String) (value : Setting) (later : List (String × Setting)) :
    List (String × Setting) :=
  if (later.lookup key).isSome then later else (key, value) :: later

mutual
/-- A value behind white space and comments. -/
def readValue (s : List Char) : Part Setting s :=
  match h : skip s with
  | [] => none
  | c :: rest =>
    have hs := skip_length h
    if c = '[' then
      match readItems rest with
      | none => none
      | some (items, ⟨r, hr⟩) => some (.list items, ⟨r, Nat.lt_trans hr hs⟩)
    else if c = '\x7b' then
      match readPairs rest with
      | none => none
      | some (entries, ⟨r, hr⟩) => some (.table entries, ⟨r, Nat.lt_trans hr hs⟩)
    else
      match readScalar? (c :: rest) with
      | none => none
      | some (v, r) => Part.of? s v r
termination_by (s.length, 0)
decreasing_by all_goals exact Prod.Lex.left _ _ hs

/-- Items with commas between them and perhaps behind the last one, up to the closing bracket. -/
def readItems (s : List Char) : Part (List Setting) s :=
  match h : skip s with
  | ']' :: r => some ([], ⟨r, skip_length h⟩)
  | _ =>
    match readValue s with
    | none => none
    | some (v, ⟨r, hr⟩) =>
      match hn : skip r with
      | ']' :: r2 => some ([v], ⟨r2, Nat.lt_trans (skip_length hn) hr⟩)
      | ',' :: r2 =>
        have h2 := Nat.lt_trans (skip_length hn) hr
        match readItems r2 with
        | none => none
        | some (items, ⟨r3, h3⟩) => some (v :: items, ⟨r3, Nat.lt_trans h3 h2⟩)
      | _ => none
termination_by (s.length, 1)
decreasing_by
  · exact Prod.Lex.right _ Nat.zero_lt_one
  · exact Prod.Lex.left _ _ h2

/-- Pairs with commas between them and perhaps behind the last one, up to the closing brace. -/
def readPairs (s : List Char) : Part (List (String × Setting)) s :=
  match h : skip s with
  | '\x7d' :: r => some ([], ⟨r, skip_length h⟩)
  | t =>
    match readKey? t with
    | none => none
    | some (key, r0) =>
      if hk : r0.length < s.length then
        match hc : skip r0 with
        | ':' :: r1 =>
          have h1 := Nat.lt_trans (skip_length hc) hk
          match readValue r1 with
          | none => none
          | some (v, ⟨r2, h2⟩) =>
            match hn : skip r2 with
            | '\x7d' :: r3 =>
              some ([(key, v)], ⟨r3, Nat.lt_trans (skip_length hn) (Nat.lt_trans h2 h1)⟩)
            | ',' :: r3 =>
              have h3 := Nat.lt_trans (skip_length hn) (Nat.lt_trans h2 h1)
              match readPairs r3 with
              | none => none
              | some (more, ⟨r4, h4⟩) => some (addEntry key v more, ⟨r4, Nat.lt_trans h4 h3⟩)
            | _ => none
        | _ => none
      else none
termination_by (s.length, 1)
decreasing_by
  · exact Prod.Lex.left _ _ h1
  · exact Prod.Lex.left _ _ h3
end

/-- The setting of a text that holds nothing else. -/
def parse? (s : List Char) : Option Setting :=
  match readValue s with
  | some (v, ⟨r, _⟩) => if (skip r).isEmpty then some v else none
  | none => none

end ClassScribe.Json5
