import ClassScribe.Number.Layout
import ClassScribe.Text.Blank

/-! # Maps in a class source

What the source of an enumeration means when it is run: the object literal of the map is read, and the
keys of the map are gone through in the order in which they have been put in. A number literal is the
nearest binary number, and the text of a number has the shortest digits that are read back as it. -/

namespace ClassScribe.EmittedMap

/-- A value of the map. -/
inductive Datum
  | number (x : Binary64)
  | text (s : String)
  deriving DecidableEq, Repr

/-- The text of a number: up to 21 digits in front of the point and six zeros behind it are written
without an exponent, and zero has no sign. -/
def numberText (x : Binary64) : List Char :=
  if x.isZero then ['0']
  else
    let (n, scale) := x.shortest .even
    let digits := digitsOf n
    let lead := scale + digits.length - 1
    x.signText ++
      if -6 ≤ lead ∧ lead < 21 then Binary64.positional [] digits scale
      else Binary64.scientific digits lead

/-- The text that a value is compared by. -/
def Datum.string : Datum → String
  | .number x => String.ofList (numberText x)
  | .text s => s

/-! ### Literals -/

/-- A character that may not stand in a quoted literal as it is. -/
def isLineTerminator (c : Char) : Bool :=
  c == '\n' || c == '\r' || c == '\u2028' || c == '\u2029'

/-- The text of a literal behind its opening quote, and what follows. -/
def readQuoted? : List Char → Option (List Char × List Char)
  | [] => none
  | '\'' :: rest => some ([], rest)
  | '\\' :: c :: rest =>
    if c = '\\' ∨ c = '\'' then (readQuoted? rest).map fun (s, r) => (c :: s, r) else none
  | c :: rest =>
    if c = '\\' ∨ isLineTerminator c = true then none
    else (readQuoted? rest).map fun (s, r) => (c :: s, r)

/-- The nearest number to a literal of decimal digits, the first of which is zero only if it stands alone,
and what follows. -/
def readDecimal? (negative : Bool) (s : List Char) : Option (Binary64 × List Char) :=
  let digits := s.takeWhile Char.isDigit
  if digits = [] ∨ digits.head? = some '0' ∧ digits.length ≠ 1 then none
  else (Binary64.ofRatio? negative (Nat.ofDigitChars 10 digits 0) 1).map fun x =>
    (x, s.dropWhile Char.isDigit)

/-- A literal and what follows. -/
def readLiteral? : List Char → Option (Datum × List Char)
  | '\'' :: rest => (readQuoted? rest).map fun (s, r) => (.text (String.ofList s), r)
  | '-' :: rest => (readDecimal? true rest).map fun (x, r) => (.number x, r)
  | s => (readDecimal? false s).map fun (x, r) => (.number x, r)

/-! ### Objects -/

/-- The line of an entry, and what follows. -/
def readProperty? (s : List Char) : Option ((String × Datum) × List Char) := do
  let rest ← Text.dropLead? "    '".toList s
  let (key, rest) ← readQuoted? rest
  let rest ← Text.dropLead? ": ".toList rest
  let (value, rest) ← readLiteral? rest
  let rest ← Text.dropLead? ",\n".toList rest
  pure ((String.ofList key, value), rest)

theorem length_readQuoted? {s t r : List Char} (h : readQuoted? s = some (t, r)) :
    r.length < s.length := by
  fun_induction readQuoted? s generalizing t r with
  | case1 => cases h
  | case2 rest =>
      cases h
      exact Nat.lt_succ_self _
  | case3 c rest hc ih =>
      obtain ⟨⟨u, v⟩, hread, hr⟩ := Option.map_eq_some_iff.1 h
      cases hr
      have := ih hread
      simp only [List.length_cons]
      omega
  | case4 => cases h
  | case5 => cases h
  | case6 c rest _ _ _ ih =>
      obtain ⟨⟨u, v⟩, hread, hr⟩ := Option.map_eq_some_iff.1 h
      cases hr
      have := ih hread
      simp only [List.length_cons]
      omega

theorem length_readDecimal? {negative : Bool} {s r : List Char} {x : Binary64}
    (h : readDecimal? negative s = some (x, r)) : r.length ≤ s.length := by
  unfold readDecimal? at h
  dsimp only at h
  split at h
  · cases h
  · obtain ⟨_, -, hr⟩ := Option.map_eq_some_iff.1 h
    cases hr
    exact Text.length_dropWhile_le _ _

theorem length_readLiteral? {s r : List Char} {d : Datum} (h : readLiteral? s = some (d, r)) :
    r.length ≤ s.length := by
  unfold readLiteral? at h
  split at h
  · obtain ⟨⟨_, _⟩, hread, hr⟩ := Option.map_eq_some_iff.1 h
    cases hr
    exact Nat.le_of_lt (Nat.lt_succ_of_lt (length_readQuoted? hread))
  · obtain ⟨⟨_, _⟩, hread, hr⟩ := Option.map_eq_some_iff.1 h
    cases hr
    exact Nat.le_succ_of_le (length_readDecimal? hread)
  · obtain ⟨⟨_, _⟩, hread, hr⟩ := Option.map_eq_some_iff.1 h
    cases hr
    exact length_readDecimal? hread

theorem length_readProperty? {s r : List Char} {e : String × Datum} (h : readProperty? s = some (e, r)) :
    r.length < s.length := by
  simp only [readProperty?, Option.bind_eq_bind, Option.bind_eq_some_iff, Option.pure_def] at h
  obtain ⟨r1, h1, ⟨_, r2⟩, h2, r3, h3, ⟨_, r4⟩, h4, r5, h5, he⟩ := h
  cases he
  dsimp only at h3 h5
  have := Text.length_dropLead? h1
  have := length_readQuoted? h2
  have := Text.length_dropLead? h3
  have := length_readLiteral? h4
  have := Text.length_dropLead? h5
  omega

/-- The entries of an object up to its closing brace, and what follows. -/
def readProperties? (s : List Char) : Option (List (String × Datum) × List Char) :=
  match Text.dropLead? ['\x7d'] s with
  | some rest => some ([], rest)
  | none =>
    match _h : readProperty? s with
    | none => none
    | some (e, rest) => (readProperties? rest).map fun (es, r) => (e :: es, r)
termination_by s.length
decreasing_by exact length_readProperty? _h

/-- Puts an entry into an object: the key keeps its place if it is there already. -/
def putEntry (object : List (String × Datum)) (e : String × Datum) : List (String × Datum) :=
  if object.any (·.1 == e.1) then object.map fun f => if f.1 = e.1 then e else f else object ++ [e]

/-- The text in front of the entries of the map in a class of a name. -/
def opening (name : String) : List Char :=
  ("\n" ++ name ++ "._MAP = Object.freeze(\x7b\n").toList

/-- The map that a source gives a class of a name, in the order of the keys. -/
def read? (name : String) (source : List Char) : Option (List (String × Datum)) := do
  let rest ← Text.dropLead? (opening name) source
  let (entries, rest) ← readProperties? rest
  if rest = ");\n".toList then some (entries.foldl putEntry []) else none

/-! ### The lookup -/

/-- The lookup that stands in the source: the keys are gone through in their order, and the first one is
returned whose value has the wanted text. -/
def valueForString? (map : List (String × Datum)) (wanted : String) : Option String :=
  (map.find? fun e => e.2.string == wanted).map (·.1)

end ClassScribe.EmittedMap
