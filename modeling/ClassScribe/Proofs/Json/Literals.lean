import Mathlib.Data.List.Induction
import ClassScribe.Json.Rereading
import ClassScribe.Proofs.Number.Shortest

/-! # Number literals in JSON texts

The text of every number is a number literal (`exists_parts`), which ends where the number ends, and an
integer of 64 bits is read from its digits as it is (`reread?_int`). -/

namespace ClassScribe.Json

variable {ds rest : List Char} {c : Char}

/-- A text that does not carry on a number. -/
def EndsNumber (rest : List Char) : Prop :=
  ∀ c ∈ rest.head?, c.isDigit = false ∧ c ≠ '.' ∧ c ≠ 'e' ∧ c ≠ 'E'

/-- Decimal digits, at least one. -/
structure IsDigits (ds : List Char) : Prop where
  nonempty : ds ≠ []
  digit : ∀ c ∈ ds, c.isDigit = true

theorem isDigits_digitsOf (n : Nat) : IsDigits (digitsOf n) :=
  ⟨digitsOf_ne_nil n, fun _ hc => isDigit_of_mem_digitsOf hc⟩

theorem isDigit_of_mem_zeros {n : Nat} (hc : c ∈ List.replicate n '0') : c.isDigit = true := by
  rw [List.eq_of_mem_replicate hc]
  decide

theorem IsDigits.append {es : List Char} (hd : ∀ c ∈ ds, c.isDigit = true)
    (he : ∀ c ∈ es, c.isDigit = true) (hne : ds ++ es ≠ []) : IsDigits (ds ++ es) :=
  ⟨hne, fun c hc => (List.mem_append.mp hc).elim (hd c) (he c)⟩

theorem isDigits_singleton (hc : c.isDigit = true) : IsDigits [c] :=
  ⟨List.cons_ne_nil _ _, fun d hd => by rwa [List.mem_singleton.mp hd]⟩

/-! ### Readers of the parts -/

theorem readDigits_append (hd : IsDigits ds) (hrest : ∀ c ∈ rest.head?, c.isDigit = false) :
    readDigits (ds ++ rest) = some (ds.map digitValue, rest) := by
  have hstop : rest.takeWhile Char.isDigit = [] ∧ rest.dropWhile Char.isDigit = rest := by
    cases rest with
    | nil => exact ⟨rfl, rfl⟩
    | cons c rest =>
        have hc : ¬c.isDigit = true := by
          rw [hrest c rfl]
          decide
        exact ⟨List.takeWhile_cons_of_neg hc, List.dropWhile_cons_of_neg hc⟩
  obtain ⟨d, ds', rfl⟩ := List.exists_cons_of_ne_nil hd.nonempty
  unfold readDigits
  rw [List.takeWhile_append_of_pos hd.digit, List.dropWhile_append_of_pos hd.digit, hstop.1, hstop.2,
    List.append_nil]

theorem digitValue_eq_zero (hc : c.isDigit = true) (h : digitValue c = 0) : c = '0' := by
  unfold digitValue at h
  have hlow : 48 ≤ c.toNat := by
    simp only [Char.isDigit, Bool.and_eq_true, decide_eq_true_eq] at hc
    exact hc.1
  rw [← Char.ofNat_toNat c, show c.toNat = 48 by omega]

/-- Digits that do not start with a zero in front of others. -/
structure IsInteger (ds : List Char) : Prop extends IsDigits ds where
  lead : ds.head? = some '0' → ds.length = 1

theorem isInteger_digitsOf (n : Nat) : IsInteger (digitsOf n) := by
  refine ⟨isDigits_digitsOf n, ?_⟩
  intro hzero
  rcases Nat.eq_zero_or_pos n with rfl | hn
  · rfl
  · exact absurd hzero (head?_digitsOf_ne hn)

theorem readInteger_append (hd : IsInteger ds) (hrest : ∀ c ∈ rest.head?, c.isDigit = false) :
    readInteger (ds ++ rest) = some (ds.map digitValue, rest) := by
  have hlead : ¬((ds.map digitValue).head? = some 0 ∧ (ds.map digitValue).length ≠ 1) := by
    rintro ⟨hzero, hlength⟩
    rw [List.length_map] at hlength
    rw [List.head?_map, Option.map_eq_some_iff] at hzero
    obtain ⟨d, hhead, hvalue⟩ := hzero
    obtain rfl := digitValue_eq_zero (hd.digit d (List.mem_of_head? hhead)) hvalue
    exact hlength (hd.lead hhead)
  unfold readInteger
  rw [readDigits_append hd.toIsDigits hrest]
  dsimp only [bind, Option.bind]
  rw [if_neg hlead]
  rfl

theorem readExponent_of_ne (hc : c ≠ 'e' ∧ c ≠ 'E') (rest : List Char) :
    readExponent (c :: rest) = some (none, c :: rest) :=
  if_neg fun h => h.elim hc.1 hc.2

theorem readExponent_plus (rest : List Char) :
    readExponent ('e' :: '+' :: rest) = (readDigits rest).map fun (ds, r) => (some (false, ds), r) := rfl

theorem readExponent_minus (rest : List Char) :
    readExponent ('e' :: '-' :: rest) = (readDigits rest).map fun (ds, r) => (some (true, ds), r) := rfl

/-- The parts of a number literal behind its sign, and what follows. -/
def readUnsigned (negative : Bool) (s : List Char) : Option (NumberLiteral × List Char) := do
  let (integer, rest) ← readInteger s
  let (fraction, rest) ← readFraction rest
  let (exponent, rest) ← readExponent rest
  pure (⟨negative, integer, fraction, exponent⟩, rest)

theorem readNumber_minus (s : List Char) : readNumber ('-' :: s) = readUnsigned true s := rfl

theorem readNumber_of_ne (hc : c ≠ '-') (s : List Char) :
    readNumber (c :: s) = readUnsigned false (c :: s) := by
  unfold readNumber
  split
  next negative body heq =>
    split at heq
    · next hminus => exact absurd (List.cons.inj hminus).1 hc
    · obtain ⟨rfl, rfl⟩ := Prod.mk.inj heq
      rfl

/-! ### Parts of a number -/

/-- The parts of the text of a number: the digits of the integer, of the fraction, and of the exponent
behind its sign. -/
structure NumberParts where
  negative : Bool
  integer : List Char
  fraction : Option (List Char)
  exponent : Option (Bool × List Char)

/-- The sign in front of a number. -/
def minus (negative : Bool) : List Char := if negative then ['-'] else []

namespace NumberParts

/-- The text behind the integer. -/
def fractionText (p : NumberParts) : List Char :=
  match p.fraction with
  | some ds => '.' :: ds
  | none => []

/-- The text of the exponent, which always has a sign. -/
def exponentText (p : NumberParts) : List Char :=
  match p.exponent with
  | some (below, ds) => 'e' :: (if below then '-' else '+') :: ds
  | none => []

/-- The text of the number. -/
def text (p : NumberParts) : List Char :=
  minus p.negative ++ p.integer ++ p.fractionText ++ p.exponentText

/-- The literal that the text is read as. -/
def literal (p : NumberParts) : NumberLiteral :=
  ⟨p.negative, p.integer.map digitValue, p.fraction.map (·.map digitValue),
    p.exponent.map fun (below, ds) => (below, ds.map digitValue)⟩

/-- The parts are digits. -/
structure IsWritten (p : NumberParts) : Prop where
  integer : IsInteger p.integer
  fraction : ∀ ds ∈ p.fraction, IsDigits ds
  exponent : ∀ e ∈ p.exponent, IsDigits e.2

variable {p : NumberParts}

theorem text_fraction (negative : Bool) (integer fraction : List Char) :
    text ⟨negative, integer, some fraction, none⟩ = minus negative ++ integer ++ '.' :: fraction := by
  simp [text, fractionText, exponentText]

theorem readExponent_append (hp : p.IsWritten) (hrest : EndsNumber rest) :
    readExponent (p.exponentText ++ rest) = some (p.literal.exponent, rest) := by
  unfold exponentText literal
  dsimp only
  cases he : p.exponent with
  | none =>
      cases rest with
      | nil => rfl
      | cons c rest =>
          obtain ⟨-, -, hsmall, hlarge⟩ := hrest c rfl
          exact readExponent_of_ne ⟨hsmall, hlarge⟩ rest
  | some e =>
      obtain ⟨below, ds⟩ := e
      have hread := readDigits_append (hp.exponent _ he) fun c hc => (hrest c hc).1
      dsimp only at hread ⊢
      cases below with
      | false =>
          rw [if_neg (by decide), List.cons_append, List.cons_append, readExponent_plus, hread]
          rfl
      | true =>
          rw [if_pos rfl, List.cons_append, List.cons_append, readExponent_minus, hread]
          rfl

theorem head?_exponentText (hrest : EndsNumber rest) :
    ∀ c ∈ (p.exponentText ++ rest).head?, c.isDigit = false ∧ c ≠ '.' := by
  unfold exponentText
  intro c hc
  cases he : p.exponent with
  | none =>
      rw [he] at hc
      exact ⟨(hrest c hc).1, (hrest c hc).2.1⟩
  | some e =>
      rw [he] at hc
      obtain rfl := Option.some.inj hc
      exact ⟨by decide, by decide⟩

theorem readFraction_append (hp : p.IsWritten) (hrest : EndsNumber rest) :
    readFraction (p.fractionText ++ (p.exponentText ++ rest)) =
      some (p.literal.fraction, p.exponentText ++ rest) := by
  have hhead := head?_exponentText (p := p) hrest
  unfold fractionText literal
  dsimp only
  cases hf : p.fraction with
  | none =>
      generalize p.exponentText ++ rest = tail at hhead ⊢
      cases tail with
      | nil => rfl
      | cons c tail =>
          rw [List.nil_append, readFraction]
          · rfl
          · intro r hr
            exact (hhead c rfl).2 (List.cons.inj hr).1
  | some ds =>
      rw [List.cons_append, readFraction,
        readDigits_append (hp.fraction ds hf) fun c hc => (hhead c hc).1]
      rfl

theorem head?_fractionText (hrest : EndsNumber rest) :
    ∀ c ∈ (p.fractionText ++ (p.exponentText ++ rest)).head?, c.isDigit = false := by
  have hhead := head?_exponentText (p := p) hrest
  unfold fractionText
  intro c hc
  cases hf : p.fraction with
  | none =>
      rw [hf] at hc
      exact (hhead c hc).1
  | some ds =>
      rw [hf] at hc
      obtain rfl := Option.some.inj hc
      decide

/-- The text of a number is read up to where the number ends. -/
theorem readNumber_text (hp : p.IsWritten) (hrest : EndsNumber rest) :
    readNumber (p.text ++ rest) = some (p.literal, rest) := by
  have hinteger := readInteger_append hp.integer (head?_fractionText (p := p) hrest)
  have hsign : readNumber (p.text ++ rest) =
      readUnsigned p.negative (p.integer ++ (p.fractionText ++ (p.exponentText ++ rest))) := by
    unfold text
    simp only [List.append_assoc]
    cases p.negative with
    | true => exact readNumber_minus _
    | false =>
        obtain ⟨d, ds, hds⟩ := List.exists_cons_of_ne_nil hp.integer.nonempty
        have hd := hp.integer.digit d (by rw [hds]; exact List.mem_cons_self)
        rw [minus, if_neg (by decide), List.nil_append, hds]
        refine readNumber_of_ne ?_ _
        rintro rfl
        exact absurd hd (by decide)
  rw [hsign, readUnsigned, hinteger]
  dsimp only [bind, Option.bind]
  rw [readFraction_append hp hrest]
  dsimp only
  rw [readExponent_append hp hrest]
  rfl

end NumberParts

/-! ### Texts of numbers -/

theorem isInteger_of_head? (hd : IsDigits ds) (h : ds.head? ≠ some '0') : IsInteger ds :=
  ⟨hd, fun hzero => absurd hzero h⟩

theorem isWritten_fraction {integer fraction : List Char} (negative : Bool) (hi : IsInteger integer)
    (hf : IsDigits fraction) : NumberParts.IsWritten ⟨negative, integer, some fraction, none⟩ :=
  ⟨hi, fun _ h => Option.some.inj h ▸ hf, nofun⟩

theorem exists_positional {n : Nat} (hn : 0 < n) (negative : Bool) (scale : Int) :
    ∃ p : NumberParts, p.IsWritten ∧ p.text =
      minus negative ++ Binary64.positional ['.', '0'] (digitsOf n) scale := by
  have hdigits := isDigits_digitsOf n
  obtain ⟨d, ds, hds⟩ := List.exists_cons_of_ne_nil hdigits.nonempty
  have hlead : d ≠ '0' := by
    have hhead := head?_digitsOf_ne hn
    rw [hds] at hhead
    exact fun h => hhead (congrArg some h)
  rw [hds] at hdigits ⊢
  unfold Binary64.positional
  dsimp only
  split
  · -- A whole number gets zeros, and a zero behind the point.
    have hzeros : IsDigits (d :: ds ++ List.replicate scale.toNat '0') :=
      .append hdigits.digit (fun _ hc => isDigit_of_mem_zeros hc) (List.cons_ne_nil _ _)
    refine ⟨_, isWritten_fraction negative
      (isInteger_of_head? hzeros fun h => hlead (Option.some.inj h)) (isDigits_digitsOf 0), ?_⟩
    rw [NumberParts.text_fraction, List.append_assoc]
    rfl
  · split
    · next hscale hplaces =>
        -- The point is among the digits.
        obtain ⟨k, hk⟩ : ∃ k, (d :: ds).length - (-scale).toNat = k + 1 :=
          ⟨(d :: ds).length - (-scale).toNat - 1, by omega⟩
        rw [hk]
        have htake : IsDigits ((d :: ds).take (k + 1)) :=
          ⟨List.cons_ne_nil _ _, fun c hc => hdigits.digit c (List.mem_of_mem_take hc)⟩
        have hdrop : IsDigits ((d :: ds).drop (k + 1)) := by
          refine ⟨?_, fun c hc => hdigits.digit c (List.mem_of_mem_drop hc)⟩
          rw [Ne, List.drop_eq_nil_iff]
          omega
        refine ⟨_, isWritten_fraction negative
          (isInteger_of_head? htake fun h => hlead (Option.some.inj h)) hdrop, ?_⟩
        rw [NumberParts.text_fraction, List.append_assoc]
    · next hscale hplaces =>
        -- The digits stand behind a zero and the point, perhaps with more zeros between them.
        have hfraction : IsDigits (List.replicate ((-scale).toNat - (d :: ds).length) '0' ++ d :: ds) :=
          .append (fun _ hc => isDigit_of_mem_zeros hc) hdigits.digit (by simp)
        refine ⟨_, isWritten_fraction negative (isInteger_digitsOf 0) hfraction, ?_⟩
        rw [NumberParts.text_fraction, List.append_assoc]
        rfl

theorem exists_scientific (n : Nat) (negative : Bool) (lead : Int) :
    ∃ p : NumberParts, p.IsWritten ∧ p.text =
      minus negative ++ Binary64.scientific (digitsOf n) lead := by
  have hdigits := isDigits_digitsOf n
  obtain ⟨d, ds, hds⟩ := List.exists_cons_of_ne_nil hdigits.nonempty
  rw [hds] at hdigits ⊢
  obtain ⟨hd, hdigits⟩ := List.forall_mem_cons.mp hdigits.digit
  have hinteger : IsInteger [d] := ⟨isDigits_singleton hd, fun _ => rfl⟩
  have hexponent : ∀ e ∈ some (decide (lead < 0), digitsOf lead.natAbs), IsDigits e.2 :=
    fun _ h => Option.some.inj h ▸ isDigits_digitsOf _
  cases ds with
  | nil =>
      refine ⟨⟨negative, [d], none, _⟩, ⟨hinteger, nofun, hexponent⟩, ?_⟩
      simp [NumberParts.text, NumberParts.fractionText, NumberParts.exponentText, Binary64.scientific]
  | cons e es =>
      have hfraction : ∀ fs ∈ some (e :: es), IsDigits fs :=
        fun _ h => Option.some.inj h ▸ ⟨List.cons_ne_nil _ _, hdigits⟩
      refine ⟨⟨negative, [d], some (e :: es), _⟩, ⟨hinteger, hfraction, hexponent⟩, ?_⟩
      simp [NumberParts.text, NumberParts.fractionText, NumberParts.exponentText, Binary64.scientific]

/-- The parts of an integer. -/
def integerParts (i : Int) : NumberParts := ⟨decide (i < 0), digitsOf i.natAbs, none, none⟩

theorem isWritten_integerParts (i : Int) : (integerParts i).IsWritten :=
  ⟨isInteger_digitsOf _, nofun, nofun⟩

theorem text_integerParts (i : Int) : (integerParts i).text = (Number.int i).text := by
  unfold integerParts NumberParts.text minus NumberParts.fractionText NumberParts.exponentText Number.text
    intText
  by_cases hi : i < 0
  · simp [hi]
  · simp [hi]

/-- The text of a number is a number literal. -/
theorem exists_parts (n : Number) : ∃ p : NumberParts, p.IsWritten ∧ p.text = n.text := by
  cases n with
  | int i => exact ⟨integerParts i, isWritten_integerParts i, text_integerParts i⟩
  | float x =>
      have hsign : x.signText = minus x.negative := rfl
      unfold Number.text Binary64.jsonText
      dsimp only
      rw [hsign]
      split
      · refine ⟨_, isWritten_fraction x.negative (isInteger_digitsOf 0) (isDigits_digitsOf 0), ?_⟩
        rw [NumberParts.text_fraction, List.append_assoc]
        rfl
      · next hzero =>
          have hpos := Binary64.shortest_pos .even (Bool.eq_false_of_not_eq_true hzero)
          split
          · exact exists_positional hpos _ _
          · exact exists_scientific _ _ _

theorem reread?_eq {p : NumberParts} {n : Number} (hp : p.IsWritten) (htext : p.text = n.text) :
    n.reread? = p.literal.toNumber? := by
  have hread := @NumberParts.readNumber_text [] p hp nofun
  rw [List.append_nil, htext] at hread
  rw [Number.reread?, hread]
  rfl

/-- In front of what does not carry it on, the text of a number is read as the number that it is read as
alone. -/
theorem readNumber_append (n : Number) (hrest : EndsNumber rest) :
    ∃ l, readNumber (n.text ++ rest) = some (l, rest) ∧ l.toNumber? = n.reread? := by
  obtain ⟨p, hp, htext⟩ := exists_parts n
  refine ⟨p.literal, ?_, (reread?_eq hp htext).symm⟩
  rw [← htext, NumberParts.readNumber_text hp hrest]

/-! ### Integers -/

theorem collectInteger_eq {ds : List Nat}
    (h : ds.foldl (fun n d => n * 10 + d) 0 ≤ NumberLiteral.maxWord) :
    NumberLiteral.collectInteger ds = (ds.foldl (fun n d => n * 10 + d) 0, 0) := by
  -- The last digit is the one that is collected last.
  induction ds using List.reverseRecOn with
  | nil => rfl
  | append_singleton ds d ih =>
      rw [List.foldl_append, List.foldl_cons, List.foldl_nil] at h ⊢
      have hds := ih (by omega)
      unfold NumberLiteral.collectInteger at hds ⊢
      rw [List.foldl_append, hds, List.foldl_cons, List.foldl_nil]
      exact if_pos ⟨rfl, h⟩

theorem collectInteger_digitsOf {n : Nat} (hn : n ≤ NumberLiteral.maxWord) :
    NumberLiteral.collectInteger ((digitsOf n).map digitValue) = (n, 0) := by
  have hvalue : ((digitsOf n).map digitValue).foldl (fun m d => m * 10 + d) 0 = n := by
    rw [List.foldl_map]
    exact foldl_digitsOf n
  rw [collectInteger_eq (by rwa [hvalue]), hvalue]

/-- An integer of 64 bits is read as it is. -/
theorem reread?_int {i : Int} (hi : Number.InRange i) : (Number.int i).reread? = some (.int i) := by
  obtain ⟨hlow, hhigh⟩ := hi
  have hword := collectInteger_digitsOf (n := i.natAbs) (by unfold NumberLiteral.maxWord; omega)
  rw [reread?_eq (isWritten_integerParts i) (text_integerParts i)]
  unfold integerParts NumberParts.literal NumberLiteral.toNumber?
  dsimp only
  rw [hword]
  dsimp only
  rw [if_pos ⟨rfl, rfl, rfl⟩]
  by_cases hneg : i < 0
  · rw [decide_eq_true hneg, if_neg (by decide), if_pos (by omega), show -(i.natAbs : Int) = i by omega]
  · rw [decide_eq_false hneg, if_pos (by decide), show (i.natAbs : Int) = i by omega]

theorem collectInteger_le (ds : List Nat) :
    (NumberLiteral.collectInteger ds).1 ≤ NumberLiteral.maxWord := by
  induction ds using List.reverseRecOn with
  | nil => exact Nat.zero_le _
  | append_singleton ds d ih =>
      unfold NumberLiteral.collectInteger at ih ⊢
      rw [List.foldl_append, List.foldl_cons, List.foldl_nil]
      split
      next word excess heq =>
      rw [heq] at ih
      split
      · next h => exact h.2
      · exact ih

theorem inRange_of_toNumber? {l : NumberLiteral} {i : Int} (h : l.toNumber? = some (.int i)) :
    Number.InRange i := by
  have hword := collectInteger_le l.integer
  have hsigned {x : Option Binary64} (h : x.map (fun x => Number.float (if l.negative then x.neg else x)) =
      some (.int i)) : False := by
    obtain ⟨_, -, h⟩ := Option.map_eq_some_iff.mp h
    cases h
  unfold NumberLiteral.toNumber? at h
  dsimp only at h
  unfold Number.InRange
  unfold NumberLiteral.maxWord at hword
  split at h
  · split at h
    · have hi := Number.int.inj (Option.some.inj h)
      omega
    · split at h
      · have hi := Number.int.inj (Option.some.inj h)
        omega
      · exact (hsigned h).elim
  · split at h
    · exact (hsigned h).elim
    · split at h
      · split at h
        · cases h
        · cases h
      · exact (hsigned h).elim

end ClassScribe.Json
