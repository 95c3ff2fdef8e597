import ClassScribe.Proofs.Json.Literals
import ClassScribe.Proofs.Text.Splitting

/-! # JSON texts are read as what they have been written from

The text of a value is read as the document of the value, up to the numbers, which are read from their
digits (`parse?_valueText`). -/

namespace ClassScribe.Json
open Text (Part)

variable {s rest : List Char} {c : Char}

/-! ### Strings -/

theorem value?_hexDigit :
    ∀ n < 32, Numeral.value? 16 ['0', '0', hexDigit (n / 16), hexDigit (n % 16)] = some n := by
  decide +kernel

theorem readUnits_short {e : Char} (he : shortEscape? e = some c) (tail : List Char) :
    readUnits ('\\' :: e :: tail) = (readUnits tail).map fun (us, r) => (.char c :: us, r) := by
  have hu : e ≠ 'u' := by
    rintro rfl
    cases he
  rw [readUnits, he]
  · dsimp only [bind, Option.bind]
    cases readUnits tail with
    | none => rfl
    | some p => rfl
  · intro a b d f r h
    exact absurd h hu

theorem readUnits_code {n : Nat} (hn : n < 32) (tail : List Char) :
    readUnits ('\\' :: 'u' :: '0' :: '0' :: hexDigit (n / 16) :: hexDigit (n % 16) :: tail) =
      (readUnits tail).map fun (us, r) => (.char (Char.ofNat n) :: us, r) := by
  have hunit : unitOf n = .char (Char.ofNat n) := if_neg (by omega)
  rw [readUnits, value?_hexDigit n hn]
  dsimp only [bind, Option.bind]
  cases readUnits tail with
  | none => rfl
  | some p =>
      rw [← hunit]
      rfl

theorem readUnits_plain (hquote : c ≠ '"') (hslash : c ≠ '\\') (hc : ¬c.toNat < 32)
    (tail : List Char) : readUnits (c :: tail) = (readUnits tail).map fun (us, r) => (.char c :: us, r) := by
  rw [readUnits, if_neg (by simp [hc, hslash])]
  · dsimp only [bind, Option.bind]
    cases readUnits tail with
    | none => rfl
    | some p => rfl
  · exact hquote
  · intro a b d f r h
    exact absurd h hslash
  · intro e r h
    exact absurd h hslash

theorem readUnits_escaped (c : Char) (tail : List Char) :
    readUnits (escaped c ++ tail) = (readUnits tail).map fun (us, r) => (.char c :: us, r) := by
  unfold escaped
  split_ifs with hquote hslash h h h h h hcode
  case neg => exact readUnits_plain hquote hslash hcode tail
  iterate 7
    · subst c
      exact readUnits_short rfl tail
  · have hread := readUnits_code hcode tail
    rwa [Char.ofNat_toNat] at hread

theorem readUnits_string (s rest : List Char) :
    readUnits (s.flatMap escaped ++ '"' :: rest) = some (s.map .char, rest) := by
  induction s with
  | nil => rfl
  | cons c s ih =>
      rw [List.flatMap_cons, List.append_assoc, readUnits_escaped, ih]
      rfl

theorem joinUnits_char (s : List Char) : joinUnits (s.map .char) = some s := by
  induction s with
  | nil => rfl
  | cons c s ih =>
      rw [List.map_cons, joinUnits, ih]
      rfl

/-- A reader finds a part of a text, and this is what follows it. -/
def Reads {α : Type} (part : Part α s) (x : α) (rest : List Char) : Prop :=
  ∃ h, part = some (x, ⟨rest, h⟩)

theorem reads_string (x : String) (rest : List Char) :
    Reads (readString (x.toList.flatMap escaped ++ '"' :: rest)) (some x) rest := by
  have hunits := readUnits_string x.toList rest
  refine ⟨readUnits_length hunits, ?_⟩
  unfold readString
  split
  · next hnone =>
      rw [hunits] at hnone
      cases hnone
  · next hsome =>
      rw [hunits] at hsome
      cases hsome
      rw [joinUnits_char, Option.map_some, String.ofList_toList]

/-! ### Values -/

/-- What stands at the start of a text, behind its first character: the value that is read, and what
follows it. -/
inductive Opens : Char → List Char → Json → List Char → Prop
  | string {s rest : List Char} {x : Option String} :
      Reads (readString s) x rest → Opens '"' s (.string x) rest
  | emptyArray {s rest : List Char} : skipSpace s = ']' :: rest → Opens '[' s (.array []) rest
  | array {s rest : List Char} {xs : List Json} : (∀ r, skipSpace s ≠ ']' :: r) →
      Reads (readItems s) xs rest → Opens '[' s (.array xs) rest
  | emptyObject {s rest : List Char} : skipSpace s = '\x7d' :: rest → Opens '\x7b' s (.object []) rest
  | object {s rest : List Char} {ms : List (Option String × Json)} : (∀ r, skipSpace s ≠ '\x7d' :: r) →
      Reads (readMembers s) ms rest → Opens '\x7b' s (.object ms) rest
  | number {c : Char} {s rest : List Char} {l : NumberLiteral} : c = '-' ∨ c.isDigit = true →
      readNumber (c :: s) = some (l, rest) → Opens c s (.number l.toNumber?) rest
  | null {rest : List Char} : Opens 'n' ("ull".toList ++ rest) .null rest
  | true {rest : List Char} : Opens 't' ("rue".toList ++ rest) (.bool true) rest
  | false {rest : List Char} : Opens 'f' ("alse".toList ++ rest) (.bool false) rest

theorem skipSpace_cons (hc : isSpace c = false) (s : List Char) : skipSpace (c :: s) = c :: s :=
  List.dropWhile_cons_of_neg (by rw [hc]; decide)

theorem reads_of? {α : Type} {x : α} (h : rest.length < s.length) : Reads (Part.of? s x rest) x rest :=
  ⟨h, dif_pos h⟩

theorem of?_eq_some {α : Type} {x y : α} {r : List Char} {h : rest.length < s.length}
    (heq : Part.of? s x r = some (y, ⟨rest, h⟩)) : x = y ∧ r = rest := by
  unfold Part.of? at heq
  split at heq
  · cases heq
    exact ⟨rfl, rfl⟩
  · cases heq

/-- The reader goes by the first character that is no white space. The words for the truth values and for
nothing are tried one after the other, behind all that have a character of their own. -/
theorem readValue_of_opens {x : Json} {r : List Char} (hs : skipSpace s = c :: rest) (h : Opens c rest x r)
    (hr : r.length < s.length) : Reads (readValue s) x r := by
  rw [readValue]
  split
  · next hnil =>
      rw [hs] at hnil
      cases hnil
  · next c' tail hcons =>
      rw [hs] at hcons
      cases hcons
      dsimp only
      cases h with
      | string h =>
          obtain ⟨_, hread⟩ := h
          rw [if_pos rfl, hread]
          exact ⟨_, rfl⟩
      | emptyArray h =>
          rw [if_neg (by decide), if_pos rfl]
          split
          · next h' =>
              rw [h] at h'
              cases h'
              exact ⟨_, rfl⟩
          · next hne => exact absurd h (hne _)
      | array hne h =>
          obtain ⟨_, hread⟩ := h
          rw [if_neg (by decide), if_pos rfl]
          split
          · next h' => exact absurd h' (hne _)
          · rw [hread]
            exact ⟨_, rfl⟩
      | emptyObject h =>
          rw [if_neg (by decide), if_neg (by decide), if_pos rfl]
          split
          · next h' =>
              rw [h] at h'
              cases h'
              exact ⟨_, rfl⟩
          · next hne => exact absurd h (hne _)
      | object hne h =>
          obtain ⟨_, hread⟩ := h
          rw [if_neg (by decide), if_neg (by decide), if_pos rfl]
          split
          · next h' => exact absurd h' (hne _)
          · rw [hread]
            exact ⟨_, rfl⟩
      | number hc hread =>
          have hne : c ≠ '"' ∧ c ≠ '[' ∧ c ≠ '\x7b' := by
            refine ⟨?_, ?_, ?_⟩
            all_goals
              rintro rfl
              revert hc
              decide
          rw [if_neg hne.1, if_neg hne.2.1, if_neg hne.2.2, if_pos hc, hread]
          exact reads_of? hr
      | null =>
          have hword : Text.dropLead? ['n', 'u', 'l', 'l'] ('n' :: ("ull".toList ++ r)) = some r :=
            Text.dropLead?_eq_some.mpr rfl
          rw [if_neg (by decide), if_neg (by decide), if_neg (by decide), if_neg (by decide), hword]
          exact reads_of? hr
      | true =>
          have hnull : Text.dropLead? ['n', 'u', 'l', 'l'] ('t' :: ("rue".toList ++ r)) = none := rfl
          have hword : Text.dropLead? ['t', 'r', 'u', 'e'] ('t' :: ("rue".toList ++ r)) = some r :=
            Text.dropLead?_eq_some.mpr rfl
          rw [if_neg (by decide), if_neg (by decide), if_neg (by decide), if_neg (by decide), hnull]
          dsimp only
          rw [hword]
          exact reads_of? hr
      | false =>
          have hnull : Text.dropLead? ['n', 'u', 'l', 'l'] ('f' :: ("alse".toList ++ r)) = none := rfl
          have htrue : Text.dropLead? ['t', 'r', 'u', 'e'] ('f' :: ("alse".toList ++ r)) = none := rfl
          have hword : Text.dropLead? ['f', 'a', 'l', 's', 'e'] ('f' :: ("alse".toList ++ r)) = some r :=
            Text.dropLead?_eq_some.mpr rfl
          rw [if_neg (by decide), if_neg (by decide), if_neg (by decide), if_neg (by decide), hnull]
          dsimp only
          rw [htrue]
          dsimp only
          rw [hword]
          exact reads_of? hr

theorem opens_of_readValue {x : Json} {r : List Char} (h : Reads (readValue s) x r) :
    ∃ c rest, skipSpace s = c :: rest ∧ Opens c rest x r := by
  obtain ⟨hr, hread⟩ := h
  rw [readValue] at hread
  split at hread
  · cases hread
  next c rest hs =>
  refine ⟨c, rest, hs, ?_⟩
  dsimp only at hread
  by_cases hquote : c = '"'
  · rw [if_pos hquote] at hread
    subst hquote
    split at hread
    · cases hread
    · next hstring =>
        cases hread
        exact .string ⟨_, hstring⟩
  rw [if_neg hquote] at hread
  by_cases hbracket : c = '['
  · rw [if_pos hbracket] at hread
    subst hbracket
    split at hread
    · next hempty =>
        cases hread
        exact .emptyArray hempty
    · next hne =>
        split at hread
        · cases hread
        · next hitems =>
            cases hread
            exact .array hne ⟨_, hitems⟩
  rw [if_neg hbracket] at hread
  by_cases hbrace : c = '\x7b'
  · rw [if_pos hbrace] at hread
    subst hbrace
    split at hread
    · next hempty =>
        cases hread
        exact .emptyObject hempty
    · next hne =>
        split at hread
        · cases hread
        · next hmembers =>
            cases hread
            exact .object hne ⟨_, hmembers⟩
  rw [if_neg hbrace] at hread
  by_cases hnumber : c = '-' ∨ c.isDigit = true
  · rw [if_pos hnumber] at hread
    split at hread
    · cases hread
    · next l tail hnum =>
        obtain ⟨rfl, rfl⟩ := of?_eq_some hread
        exact .number hnumber hnum
  rw [if_neg hnumber] at hread
  split at hread
  · next hword =>
      obtain ⟨rfl, rfl⟩ := of?_eq_some hread
      obtain ⟨rfl, rfl⟩ := List.cons.inj (Text.dropLead?_eq_some.mp hword)
      exact .null
  split at hread
  · next hword =>
      obtain ⟨rfl, rfl⟩ := of?_eq_some hread
      obtain ⟨rfl, rfl⟩ := List.cons.inj (Text.dropLead?_eq_some.mp hword)
      exact .true
  split at hread
  · next hword =>
      obtain ⟨rfl, rfl⟩ := of?_eq_some hread
      obtain ⟨rfl, rfl⟩ := List.cons.inj (Text.dropLead?_eq_some.mp hword)
      exact .false
  · cases hread

theorem readItems_iff {xs : List Json} : Reads (readItems s) xs rest ↔
    ∃ x r, Reads (readValue s) x r ∧ ((skipSpace r = ']' :: rest ∧ xs = [x]) ∨
      ∃ more ys, skipSpace r = ',' :: more ∧ Reads (readItems more) ys rest ∧ xs = x :: ys) := by
  constructor
  · rintro ⟨h, hread⟩
    rw [readItems] at hread
    split at hread
    · cases hread
    next x r hr hvalue =>
    refine ⟨x, r, ⟨hr, hvalue⟩, ?_⟩
    split at hread
    · next hend =>
        cases hread
        exact .inl ⟨hend, rfl⟩
    · next more hcomma =>
        dsimp only at hread
        split at hread
        · cases hread
        · next ys r' hr' hitems =>
            cases hread
            exact .inr ⟨more, ys, hcomma, ⟨hr', hitems⟩, rfl⟩
    · cases hread
  · rintro ⟨x, r, ⟨hr, hvalue⟩, hcases⟩
    rw [readItems, hvalue]
    dsimp only
    rcases hcases with ⟨hend, rfl⟩ | ⟨more, ys, hcomma, ⟨hr', hitems⟩, rfl⟩
    · split
      · next h =>
          rw [hend] at h
          cases h
          exact ⟨_, rfl⟩
      · next h =>
          rw [hend] at h
          cases h
      · next h _ => exact absurd hend (h _)
    · split
      · next h =>
          rw [hcomma] at h
          cases h
      · next h =>
          rw [hcomma] at h
          cases h
          rw [hitems]
          exact ⟨_, rfl⟩
      · next _ h => exact absurd hcomma (h _)

theorem readMembers_iff {ms : List (Option String × Json)} : Reads (readMembers s) ms rest ↔
    ∃ r key r1 r2 x r3, skipSpace s = '"' :: r ∧ Reads (readString r) key r1 ∧
      skipSpace r1 = ':' :: r2 ∧ Reads (readValue r2) x r3 ∧ ((skipSpace r3 = '\x7d' :: rest ∧ ms = [(key, x)]) ∨
        ∃ more ns, skipSpace r3 = ',' :: more ∧ Reads (readMembers more) ns rest ∧
          ms = (key, x) :: ns) := by
  constructor
  · rintro ⟨h, hread⟩
    rw [readMembers] at hread
    split at hread
    · next r hquote =>
      dsimp only at hread
      split at hread
      · cases hread
      next key r1 hr1 hkey =>
      split at hread
      · next r2 hcolon =>
        split at hread
        · cases hread
        next x r3 hr3 hvalue =>
        refine ⟨r, key, r1, r2, x, r3, hquote, ⟨hr1, hkey⟩, hcolon, ⟨hr3, hvalue⟩, ?_⟩
        split at hread
        · next hend =>
            cases hread
            exact .inl ⟨hend, rfl⟩
        · next more hcomma =>
            split at hread
            · cases hread
            · next ns r' hr' hmembers =>
                cases hread
                exact .inr ⟨more, ns, hcomma, ⟨hr', hmembers⟩, rfl⟩
        · cases hread
      · cases hread
    · cases hread
  · rintro ⟨r, key, r1, r2, x, r3, hquote, ⟨hr1, hkey⟩, hcolon, ⟨hr3, hvalue⟩, hcases⟩
    rw [readMembers]
    split
    · next h =>
      rw [hquote] at h
      cases h
      dsimp only
      rw [hkey]
      dsimp only
      split
      · next h =>
        rw [hcolon] at h
        cases h
        rw [hvalue]
        dsimp only
        rcases hcases with ⟨hend, rfl⟩ | ⟨more, ns, hcomma, ⟨hr', hmembers⟩, rfl⟩
        · split
          · next h =>
              rw [hend] at h
              cases h
              exact ⟨_, rfl⟩
          · next h =>
              rw [hend] at h
              cases h
          · next h _ => exact absurd hend (h _)
        · split
          · next h =>
              rw [hcomma] at h
              cases h
          · next h =>
              rw [hcomma] at h
              cases h
              rw [hmembers]
              exact ⟨_, rfl⟩
          · next _ h => exact absurd hcomma (h _)
      · next h => exact absurd hcolon (h _)
    · next h => exact absurd hquote (h _)

/-! ### Texts of values -/

theorem endsNumber_cons (hc : c.isDigit = false ∧ c ≠ '.' ∧ c ≠ 'e' ∧ c ≠ 'E') (rest : List Char) :
    EndsNumber (c :: rest) :=
  fun _ hd => Option.some.inj hd ▸ hc

theorem isDigit_spec (h : c.isDigit = true) : isSpace c = false ∧ c ≠ ']' := by
  refine ⟨?_, ?_⟩
  · rw [← Bool.not_eq_true]
    intro hspace
    simp only [isSpace, Bool.or_eq_true, beq_iff_eq] at hspace
    rcases hspace with ((rfl | rfl) | rfl) | rfl <;> exact absurd h (by decide)
  · rintro rfl
    exact absurd h (by decide)

theorem exists_cons_numberText (n : Number) :
    ∃ c cs, n.text = c :: cs ∧ (c = '-' ∨ c.isDigit = true) := by
  obtain ⟨p, hp, htext⟩ := exists_parts n
  rw [← htext, NumberParts.text, minus]
  cases p.negative with
  | true => exact ⟨'-', _, rfl, .inl rfl⟩
  | false =>
      obtain ⟨d, ds, hds⟩ := List.exists_cons_of_ne_nil hp.integer.nonempty
      rw [hds]
      exact ⟨d, _, rfl, .inr (hp.integer.digit d (by rw [hds]; exact List.mem_cons_self))⟩

theorem exists_cons_valueText (v : Value) :
    ∃ c cs, valueText v = c :: cs ∧ isSpace c = false ∧ c ≠ ']' := by
  cases v with
  | none => exact ⟨_, _, rfl, by decide, by decide⟩
  | bool b => cases b <;> exact ⟨_, _, rfl, by decide, by decide⟩
  | number n =>
      obtain ⟨c, cs, htext, rfl | hc⟩ := exists_cons_numberText n
      · exact ⟨_, _, htext, by decide, by decide⟩
      · exact ⟨c, cs, htext, isDigit_spec hc⟩
  | text s => exact ⟨_, _, rfl, by decide, by decide⟩
  | sequence items => exact ⟨_, _, rfl, by decide, by decide⟩
  | mapping fields => exact ⟨_, _, rfl, by decide, by decide⟩

theorem reads_number (n : Number) (hrest : EndsNumber rest) :
    Reads (readValue (n.text ++ rest)) (.number n.reread?) rest := by
  obtain ⟨l, hread, hnumber⟩ := readNumber_append n hrest
  obtain ⟨c, cs, htext, hc⟩ := exists_cons_numberText n
  have hspace : isSpace c = false := by
    rcases hc with rfl | hc
    · decide
    · exact (isDigit_spec hc).1
  rw [htext] at hread ⊢
  rw [← hnumber]
  refine readValue_of_opens (skipSpace_cons hspace _) (.number hc hread) ?_
  simp only [List.cons_append, List.length_cons, List.length_append]
  omega

theorem exists_cons_itemsText (x : Value) (xs : List Value) :
    ∃ c cs, itemsText (x :: xs) = c :: cs ∧ isSpace c = false ∧ c ≠ ']' := by
  obtain ⟨c, cs, htext, hc⟩ := exists_cons_valueText x
  cases xs with
  | nil =>
      rw [itemsText, htext]
      exact ⟨c, cs, rfl, hc⟩
  | cons y ys =>
      rw [itemsText, htext]
      exact ⟨c, _, rfl, hc⟩

theorem exists_cons_fieldsText (f : String × Value) (fields : List (String × Value)) :
    ∃ cs, fieldsText (f :: fields) = '"' :: cs := by
  cases fields with
  | nil => exact ⟨_, rfl⟩
  | cons g fields => exact ⟨_, rfl⟩

theorem stringText_append (x : String) (rest : List Char) :
    stringText x ++ rest = '"' :: (x.toList.flatMap escaped ++ '"' :: rest) := by
  simp [stringText]

theorem fieldsText_singleton (k : String) (x : Value) (rest : List Char) :
    fieldsText [(k, x)] ++ rest =
      '"' :: (k.toList.flatMap escaped ++ '"' :: (':' :: (valueText x ++ rest))) := by
  simp [fieldsText, stringText]

theorem fieldsText_cons_cons (k : String) (x : Value) (f : String × Value) (fields : List (String × Value))
    (rest : List Char) : fieldsText ((k, x) :: f :: fields) ++ rest =
      '"' :: (k.toList.flatMap escaped ++ '"' :: (':' :: (valueText x ++ ',' ::
        (fieldsText (f :: fields) ++ rest)))) := by
  simp [fieldsText, stringText]

theorem reads_text (x : String) (rest : List Char) :
    Reads (readValue (stringText x ++ rest)) (.string (some x)) rest := by
  rw [stringText_append]
  refine readValue_of_opens (skipSpace_cons (by decide) _) (.string (reads_string x rest)) ?_
  simp only [List.length_cons, List.length_append]
  omega

theorem length_lt_append {word : List Char} (h : 0 < word.length) (rest : List Char) :
    rest.length < (word ++ rest).length := by
  rw [List.length_append]
  omega

mutual
theorem reads_valueText (v : Value) {rest : List Char} (hrest : EndsNumber rest) :
    Reads (readValue (valueText v ++ rest)) (ofValueBy Number.reread? v) rest := by
  match v with
  | .none => exact readValue_of_opens (skipSpace_cons (by decide) _) .null (length_lt_append (by decide) _)
  | .bool true =>
      exact readValue_of_opens (skipSpace_cons (by decide) _) .true (length_lt_append (by decide) _)
  | .bool false =>
      exact readValue_of_opens (skipSpace_cons (by decide) _) .false (length_lt_append (by decide) _)
  | .number n => exact reads_number n hrest
  | .text s => exact reads_text s rest
  | .sequence [] =>
      exact readValue_of_opens (skipSpace_cons (by decide) _)
        (.emptyArray (skipSpace_cons (by decide) rest)) (length_lt_append (by decide) _)
  | .sequence (x :: xs) =>
      have hitems := reads_itemsText x xs rest
      rw [valueText, List.append_assoc, List.cons_append]
      obtain ⟨c, cs, htext, hspace, hbracket⟩ := exists_cons_itemsText x xs
      refine readValue_of_opens (skipSpace_cons (by decide) _) (.array ?_ hitems) ?_
      · rw [htext, List.cons_append, skipSpace_cons hspace]
        exact fun r h => hbracket (List.cons.inj h).1
      · simp
        omega
  | .mapping [] =>
      exact readValue_of_opens (skipSpace_cons (by decide) _)
        (.emptyObject (skipSpace_cons (by decide) rest)) (length_lt_append (by decide) _)
  | .mapping ((k, x) :: fields) =>
      have hfields := reads_fieldsText k x fields rest
      rw [valueText, List.append_assoc, List.cons_append]
      obtain ⟨cs, htext⟩ := exists_cons_fieldsText (k, x) fields
      refine readValue_of_opens (skipSpace_cons (by decide) _) (.object ?_ hfields) ?_
      · rw [htext, List.cons_append, skipSpace_cons (by decide)]
        intro r h
        exact absurd (List.cons.inj h).1 (by decide)
      · simp
        omega
termination_by sizeOf v

theorem reads_itemsText (x : Value) (xs : List Value) (rest : List Char) :
    Reads (readItems (itemsText (x :: xs) ++ ']' :: rest)) (ofValuesBy Number.reread? (x :: xs)) rest := by
  rw [readItems_iff]
  match xs with
  | [] =>
      exact ⟨_, _, reads_valueText x (endsNumber_cons (by decide) _),
        .inl ⟨skipSpace_cons (by decide) _, rfl⟩⟩
  | y :: ys =>
      rw [itemsText, List.append_assoc]
      exact ⟨_, _, reads_valueText x (endsNumber_cons (by decide) _), .inr ⟨_, _,
        skipSpace_cons (by decide) _, reads_itemsText y ys rest, rfl⟩⟩
termination_by sizeOf (x :: xs)

theorem reads_fieldsText (k : String) (x : Value) (fields : List (String × Value)) (rest : List Char) :
    Reads (readMembers (fieldsText ((k, x) :: fields) ++ '\x7d' :: rest))
      (ofFieldsBy Number.reread? ((k, x) :: fields)) rest := by
  rw [readMembers_iff]
  match fields with
  | [] =>
      rw [fieldsText_singleton]
      exact ⟨_, _, _, _, _, _, skipSpace_cons (by decide) _, reads_string k _,
        skipSpace_cons (by decide) _, reads_valueText x (endsNumber_cons (by decide) _),
        .inl ⟨skipSpace_cons (by decide) _, rfl⟩⟩
  | (l, y) :: fields =>
      rw [fieldsText_cons_cons]
      exact ⟨_, _, _, _, _, _, skipSpace_cons (by decide) _, reads_string k _,
        skipSpace_cons (by decide) _, reads_valueText x (endsNumber_cons (by decide) _),
        .inr ⟨_, _, skipSpace_cons (by decide) _, reads_fieldsText l y fields rest, rfl⟩⟩
termination_by sizeOf ((k, x) :: fields)
end

/-- The text of a value is read as its document, up to the numbers. -/
theorem parse?_valueText (v : Value) : parse? (valueText v) = some (ofValueBy Number.reread? v) := by
  have hreads := @reads_valueText v [] nofun
  rw [List.append_nil] at hreads
  obtain ⟨_, hread⟩ := hreads
  rw [parse?, hread]
  rfl

/-! ### Numbers of a document -/

theorem Reads.length {α : Type} {part : Part α s} {x : α} (h : Reads part x rest) :
    rest.length < s.length :=
  h.1

theorem holds_of_reads {P : Number → Prop}
    (hP : ∀ (l : NumberLiteral) (n : Number), l.toNumber? = some n → P n) (length : Nat) :
    (∀ {s rest : List Char} {x : Json}, s.length = length → Reads (readValue s) x rest → x.Holds P) ∧
    (∀ {s rest : List Char} {xs : List Json}, s.length = length → Reads (readItems s) xs rest →
      ∀ x ∈ xs, x.Holds P) ∧
    (∀ {s rest : List Char} {ms : List (Option String × Json)}, s.length = length →
      Reads (readMembers s) ms rest → ∀ m ∈ ms, m.2.Holds P) := by
  induction length using Nat.strong_induction_on with
  | _ length ih =>
      have hvalue : ∀ {s rest : List Char} {x : Json}, s.length = length → Reads (readValue s) x rest →
          x.Holds P := by
        intro s rest x hs hread
        obtain ⟨c, tail, hspace, hopens⟩ := opens_of_readValue hread
        have htail := skipSpace_length hspace
        cases hopens with
        | string _ => exact .string
        | emptyArray _ => exact .array (List.forall_mem_nil _)
        | array _ hitems => exact .array ((ih _ (hs ▸ htail)).2.1 rfl hitems)
        | emptyObject _ => exact .object (List.forall_mem_nil _)
        | object _ hmembers => exact .object ((ih _ (hs ▸ htail)).2.2 rfl hmembers)
        | number _ _ => exact .number (hP _)
        | null => exact .null
        | true => exact .bool
        | false => exact .bool
      refine ⟨hvalue, ?_, ?_⟩
      · intro s rest xs hs hread
        obtain ⟨x, r, hx, hcases⟩ := readItems_iff.mp hread
        have hr := hx.length
        rcases hcases with ⟨-, rfl⟩ | ⟨more, ys, hcomma, hitems, rfl⟩
        · exact List.forall_mem_singleton.mpr (hvalue hs hx)
        · have hmore := skipSpace_length hcomma
          exact List.forall_mem_cons.mpr ⟨hvalue hs hx, (ih _ (by omega)).2.1 rfl hitems⟩
      · intro s rest ms hs hread
        obtain ⟨r, key, r1, r2, x, r3, hquote, hkey, hcolon, hx, hcases⟩ := readMembers_iff.mp hread
        have h1 := skipSpace_length hquote
        have h2 := hkey.length
        have h3 := skipSpace_length hcolon
        have h4 := hx.length
        have hholds := (ih r2.length (by omega)).1 rfl hx
        rcases hcases with ⟨-, rfl⟩ | ⟨more, ns, hcomma, hmembers, rfl⟩
        · exact List.forall_mem_singleton.mpr hholds
        · have hmore := skipSpace_length hcomma
          exact List.forall_mem_cons.mpr ⟨hholds, (ih _ (by omega)).2.2 rfl hmembers⟩

theorem holds_of_parse? {P : Number → Prop}
    (hP : ∀ (l : NumberLiteral) (n : Number), l.toNumber? = some n → P n) {doc : Json}
    (h : parse? s = some doc) : doc.Holds P := by
  unfold parse? at h
  split at h
  · cases h
  · next hread =>
      split at h
      · cases h
        exact (holds_of_reads hP s.length).1 rfl ⟨_, hread⟩
      · cases h

/-- Compact texts are read as they have been written, with the numbers of their digits. -/
theorem rereadsBy_codec : codec.RereadsBy Number.reread? where
  reads v _ := by
    show parse? (String.ofList (valueText v)).toList = _
    rw [String.toList_ofList, parse?_valueText]
  integers _ := reread?_int
  bounds content doc h := by
    refine holds_of_parse? ?_ h
    rintro l _ hl i rfl
    exact inRange_of_toNumber? hl

end ClassScribe.Json
