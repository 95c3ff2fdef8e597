import ClassScribe.Text.Blank

/-! # Pieces of template sources

A template source is cut into texts and tags: `{{ … }}` for output, `{% … %}` for statements
and `{# … #}` for comments. The tags around a raw section count as comments. The line that has been
reached is counted on over each text, each tag and each raw section. -/

namespace ClassScribe.Template

/-- The kinds of tags. -/
inductive TagKind
  | output
  | statement
  | comment
  deriving DecidableEq, Repr

/-- What a tag asks for on one of its sides: `-` trims the text there, `+` keeps it as it is. -/
inductive Marker
  | plain
  | trim
  | keep
  deriving DecidableEq, Repr

/-- A tag with its text inside, without the white space around that. -/
structure Tag where
  kind : TagKind
  inner : List Char
  line : Nat
  left : Marker
  right : Marker
  deriving DecidableEq, Repr

/-- A piece of a template source. -/
inductive Piece
  | text (s : List Char)
  | tag (tag : Tag)
  deriving DecidableEq, Repr

/-- Why a source cannot be cut. -/
inductive CutFault
  | unclosedTag (close : String)
  | strayEndraw
  | unclosedRaw
  deriving DecidableEq, Repr

/-- The text of a fault. -/
def CutFault.message : CutFault → String
  | .unclosedTag close => "unclosed tag, expected `" ++ close ++ "`"
  | .strayEndraw => "`endraw` without `raw`"
  | .unclosedRaw => "unclosed `raw` section"

namespace Piece

/-! ### Tags -/

/-- The kind of tag that a character opens behind a brace. -/
def opens? : Char → Option TagKind
  | '\x7b' => some .output
  | '%' => some .statement
  | '#' => some .comment
  | _ => none

/-- The character before the brace that closes a tag. -/
def closer : TagKind → Char
  | .output => '\x7d'
  | .statement => '%'
  | .comment => '#'

/-- The text before the first opening of a tag, and the kind of that tag with what follows the
opening. -/
def spanText : List Char → List Char × Option (TagKind × List Char)
  | [] => ([], none)
  | [c] => ([c], none)
  | c :: d :: rest =>
    match if c = '\x7b' then opens? d else none with
    | some kind => ([], some (kind, rest))
    | none =>
      let (before, found) := spanText (d :: rest)
      (c :: before, found)

/-- The text before the closing of a tag, and what follows the closing. A closing inside a string of
an expression does not count; `quote` is the quote that the string was opened with. -/
def spanInner (close : Char) (quoted : Bool) (quote : Option Char) :
    List Char → Option (List Char × List Char)
  | [] => none
  | c :: rest =>
    match quote with
    | some q =>
      if c = '\\' then
        match rest with
        | [] => none
        | d :: more => (spanInner close quoted quote more).map fun (s, r) => (c :: d :: s, r)
      else
        (spanInner close quoted (if c = q then none else quote) rest).map fun (s, r) => (c :: s, r)
    | none =>
      if quoted && (c == '"' || c == '\'') then
        (spanInner close quoted (some c) rest).map fun (s, r) => (c :: s, r)
      else
        match if c = close then rest else [] with
        | '\x7d' :: more => some ([], more)
        | _ => (spanInner close quoted none rest).map fun (s, r) => (c :: s, r)

/-- The marker at the start of a text, and the rest. -/
def leadMarker : List Char → Marker × List Char
  | '-' :: rest => (.trim, rest)
  | '+' :: rest => (.keep, rest)
  | rest => (.plain, rest)

/-- The marker at the end of a text, and the text before it. -/
def tailMarker (s : List Char) : Marker × List Char :=
  match s.getLast? with
  | some '-' => (.trim, s.dropLast)
  | some '+' => (.keep, s.dropLast)
  | _ => (.plain, s)

/-! ### Raw sections -/

/-- Reads the rest of an end tag of a raw section behind the opening of a statement: its markers, and
what follows it. -/
def readEndraw? (s : List Char) : Option (Marker × Marker × List Char) := do
  let (left, s) := leadMarker s
  let s ← Text.dropLead? "endraw".toList (Text.trimStart s)
  let (right, s) := leadMarker (Text.trimStart s)
  match s with
  | '%' :: '\x7d' :: rest => some (left, right, rest)
  | _ => none

/-- The text of a raw section, the markers of its end tag, and what follows that. -/
def spanRaw : List Char → Option (List Char × Marker × Marker × List Char)
  | '\x7b' :: '%' :: rest =>
    match readEndraw? rest with
    | some (left, right, after) => some ([], left, right, after)
    | none => (spanRaw rest).map fun (s, found) => ('\x7b' :: '%' :: s, found)
  | c :: rest => (spanRaw rest).map fun (s, found) => (c :: s, found)
  | [] => none

/-- On the end tag of a raw section, only trimming counts. -/
def endMarker : Marker → Marker
  | .trim => .trim
  | _ => .plain

/-! ### Cutting -/

theorem spanText_length {s t r : List Char} {k : TagKind} (h : spanText s = (t, some (k, r))) :
    r.length < s.length := by
  fun_induction spanText s generalizing t with
  | case1 => simp at h
  | case2 => simp at h
  | case3 c d rest kind _ =>
    simp only [Prod.mk.injEq, Option.some.injEq] at h
    obtain ⟨_, _, rfl⟩ := h
    simp only [List.length_cons]
    omega
  | case4 c d rest _ before found heq ih =>
    simp only [Prod.mk.injEq] at h
    obtain ⟨_, rfl⟩ := h
    have := ih heq
    simp at this ⊢; omega

theorem spanInner_length {close : Char} {b : Bool} {q : Option Char} {s t r : List Char}
    (h : spanInner close b q s = some (t, r)) : r.length < s.length := by
  fun_induction spanInner close b q s generalizing t r with
  | case1 => simp at h
  | case2 => simp at h
  | case3 q d more ih =>
    simp only [Option.map_eq_some_iff, Prod.exists, Prod.mk.injEq] at h
    obtain ⟨_, _, h, _, rfl⟩ := h
    have := ih h
    simp; omega
  | case4 c rest q _ ih =>
    simp only [Option.map_eq_some_iff, Prod.exists, Prod.mk.injEq] at h
    obtain ⟨_, _, h, _, rfl⟩ := h
    have := ih h
    simp; omega
  | case5 c rest _ ih =>
    simp only [Option.map_eq_some_iff, Prod.exists, Prod.mk.injEq] at h
    obtain ⟨_, _, h, _, rfl⟩ := h
    have := ih h
    simp; omega
  | case6 c rest _ more hm =>
    simp only [Option.some.injEq, Prod.mk.injEq] at h
    obtain ⟨_, rfl⟩ := h
    split at hm
    · subst hm
      simp only [List.length_cons]
      omega
    · simp at hm
  | case7 c rest _ _ ih =>
    simp only [Option.map_eq_some_iff, Prod.exists, Prod.mk.injEq] at h
    obtain ⟨_, _, h, _, rfl⟩ := h
    have := ih h
    simp; omega

theorem leadMarker_length (s : List Char) : (leadMarker s).2.length ≤ s.length := by
  unfold leadMarker; split <;> simp only [List.length_cons] <;> omega

theorem readEndraw?_length {s r : List Char} {m n : Marker} (h : readEndraw? s = some (m, n, r)) :
    r.length < s.length := by
  simp only [readEndraw?, Option.bind_eq_bind, Option.bind_eq_some_iff] at h
  obtain ⟨a, ha, h⟩ := h
  split at h
  · rename_i rest heq
    simp only [Option.some.injEq, Prod.mk.injEq] at h
    obtain ⟨_, _, rfl⟩ := h
    have h1 := leadMarker_length s
    have h2 := Text.length_dropWhile_le Text.isBlank (leadMarker s).2
    have h3 := Text.length_dropLead? ha
    have h4 := Text.length_dropWhile_le Text.isBlank a
    have h5 := leadMarker_length (Text.trimStart a)
    rw [heq] at h5
    simp [Text.trimStart] at *
    omega
  · simp at h

theorem spanRaw_length {s t r : List Char} {m n : Marker} (h : spanRaw s = some (t, m, n, r)) :
    r.length < s.length := by
  fun_induction spanRaw s generalizing t m n r with
  | case1 rest _ _ _ heq =>
    simp only [Option.some.injEq, Prod.mk.injEq] at h
    obtain ⟨_, _, _, rfl⟩ := h
    have := readEndraw?_length heq
    simp; omega
  | case2 rest _ ih =>
    simp only [Option.map_eq_some_iff, Prod.exists, Prod.mk.injEq] at h
    obtain ⟨_, _, _, _, h, _, rfl, rfl, rfl⟩ := h
    have := ih h
    simp; omega
  | case3 c rest _ ih =>
    simp only [Option.map_eq_some_iff, Prod.exists, Prod.mk.injEq] at h
    obtain ⟨_, _, _, _, h, _, rfl, rfl, rfl⟩ := h
    have := ih h
    simp; omega
  | case4 => simp at h

/-- A text as a piece, unless it is empty. -/
def textPiece (s : List Char) : List Piece := if s.isEmpty then [] else [.text s]

/-- The pieces of what is left of a source, when a line has been reached. The line goes on over the text
before a tag, over the inside of the tag, and over a raw section with its end tag. -/
def cutAt (line : Nat) (s : List Char) : Except (Nat × CutFault) (List Piece) :=
  match _h : spanText s with
  | (before, none) => .ok (textPiece before)
  | (before, some (kind, body)) =>
    let line := line + Text.lineFeeds before
    let left := (leadMarker body).1
    match _hi : spanInner (closer kind) (kind != .comment) none (leadMarker body).2 with
    | none => .error (line, .unclosedTag (String.ofList [closer kind, '\x7d']))
    | some (inside, rest) =>
      let next := line + Text.lineFeeds inside
      let (right, inside) := tailMarker inside
      let inner := Text.trim inside
      if kind = .statement ∧ inner = "endraw".toList then .error (line, .strayEndraw)
      else if kind = .statement ∧ inner = "raw".toList then
        match _hr : spanRaw rest with
        | none => .error (line, .unclosedRaw)
        | some (raw, endLeft, endRight, after) =>
          let next := next + Text.lineFeeds (rest.take (rest.length - after.length))
          (cutAt next after).map fun more =>
            textPiece before ++ .tag ⟨.comment, inner, line, left, right⟩ :: textPiece raw ++
              .tag ⟨.comment, "endraw".toList, next, endMarker endLeft, endMarker endRight⟩ :: more
      else
        (cutAt next rest).map fun more =>
          textPiece before ++ .tag ⟨kind, inner, line, left, right⟩ :: more
termination_by s.length
decreasing_by
  all_goals
    have h1 := spanText_length _h
    have h2 := leadMarker_length body
    have h3 := spanInner_length _hi
  · have h5 := spanRaw_length _hr
    omega
  · omega

/-- The pieces of a source. -/
def cut (s : List Char) : Except (Nat × CutFault) (List Piece) := cutAt 1 s

end Piece
end ClassScribe.Template
