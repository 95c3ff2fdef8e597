import Mathlib.Tactic.Common
import ClassScribe.Expr.Source
import ClassScribe.Proofs.Number.Digits

/-! # Tokens of written expressions

Every text that spells tokens has exactly these tokens (`tokenize_of_spells`). The reader of one
token takes its spelling and stops there (`read_spelling`), because the text behind it does not carry
the token on. -/

namespace ClassScribe
namespace Token

/-- Whether a token has a spelling: a name is an identifier, and a number is a signed word. -/
def isWritable : Token → Bool
  | .name n => Text.isIdentifier n.toList
  | .int i => i ≤ 0x7FFFFFFFFFFFFFFF
  | .float _ => false
  | .text _ | .symbol _ => true

/-! ### Classes of characters -/

theorem isIdentStart_spec {c : Char} (h : Text.isIdentStart c = true) :
    c.isDigit = false ∧ c ≠ '"' ∧ c ≠ '\'' ∧ Text.isAsciiBlank c = false := by
  have hd : c.isDigit = false := by
    rw [← Bool.not_eq_true]
    intro hd
    delta Text.isIdentStart Char.isAlpha Char.isUpper Char.isLower at h
    delta Char.isDigit at hd
    simp only [Bool.or_eq_true, Bool.and_eq_true, decide_eq_true_eq, beq_iff_eq, ge_iff_le] at h hd
    change ((65 ≤ c.toNat ∧ c.toNat ≤ 90) ∨ (97 ≤ c.toNat ∧ c.toNat ≤ 122)) ∨ c = '_' at h
    change 48 ≤ c.toNat ∧ c.toNat ≤ 57 at hd
    rcases h with (h | h) | rfl
    · omega
    · omega
    · exact absurd hd (by decide)
  refine ⟨hd, ?_, ?_, ?_⟩
  · rintro rfl
    exact absurd h (by decide)
  · rintro rfl
    exact absurd h (by decide)
  · rw [← Bool.not_eq_true]
    intro hb
    simp only [Text.isAsciiBlank, Bool.or_eq_true, beq_iff_eq] at hb
    rcases hb with (((rfl | rfl) | rfl) | rfl) | rfl <;> exact absurd h (by decide)

theorem isDigit_spec {c : Char} (h : c.isDigit = true) :
    c ≠ '"' ∧ c ≠ '\'' ∧ c ≠ '.' ∧ Text.isAsciiBlank c = false := by
  refine ⟨?_, ?_, ?_, ?_⟩
  · rintro rfl
    exact absurd h (by decide)
  · rintro rfl
    exact absurd h (by decide)
  · rintro rfl
    exact absurd h (by decide)
  · rw [← Bool.not_eq_true]
    intro hb
    simp only [Text.isAsciiBlank, Bool.or_eq_true, beq_iff_eq] at hb
    rcases hb with (((rfl | rfl) | rfl) | rfl) | rfl <;> exact absurd h (by decide)

/-! ### Names -/

theorem takeWhile_isIdentPart {cs s : List Char} (hc : cs.all Text.isIdentPart = true)
    (hs : ∀ c r, s = c :: r → Text.isIdentPart c = false) :
    (cs ++ s).takeWhile Text.isIdentPart = cs ∧ (cs ++ s).dropWhile Text.isIdentPart = s := by
  induction cs with
  | nil =>
      cases s with
      | nil => exact ⟨rfl, rfl⟩
      | cons c r =>
          have := hs c r rfl
          rw [List.nil_append]
          rw [List.takeWhile_cons, List.dropWhile_cons, this]
          exact ⟨rfl, rfl⟩
  | cons c cs ih =>
      rw [List.all_cons, Bool.and_eq_true] at hc
      obtain ⟨h1, h2⟩ := ih hc.2
      rw [List.cons_append, List.takeWhile_cons, List.dropWhile_cons, hc.1, if_pos rfl, if_pos rfl,
        h1, h2]
      exact ⟨rfl, rfl⟩

theorem read_name {n : String} {s : List Char} (hn : Text.isIdentifier n.toList = true)
    (hs : (Token.name n).endsBefore s = true) :
    ∃ c cs, n.toList = c :: cs ∧ Text.isAsciiBlank c = false ∧
      read c (cs ++ s) = .ok (.name n, s) := by
  cases hl : n.toList with
  | nil => rw [hl] at hn; exact absurd hn (by decide)
  | cons c cs =>
      rw [hl] at hn
      unfold Text.isIdentifier at hn
      rw [Bool.and_eq_true] at hn
      obtain ⟨hd, hq, hq', hb⟩ := isIdentStart_spec hn.1
      have hstop : ∀ d r, s = d :: r → Text.isIdentPart d = false := by
        rintro d r rfl
        simpa [endsBefore] using hs
      obtain ⟨ht, hr⟩ := takeWhile_isIdentPart hn.2 hstop
      refine ⟨c, cs, rfl, hb, ?_⟩
      unfold read
      rw [if_neg (by simp [hq, hq']), if_neg (by simp [hd]), if_pos hn.1, ht, hr, ← hl,
        String.ofList_toList]

/-! ### Numbers -/

theorem spanNumber_of_endsNumber {s : List Char} (hs : endsNumber s = true) :
    spanNumber s = ([], s) := by
  unfold spanNumber
  split
  · rename_i d rest
    have hd : d.isDigit = false := by simpa [endsNumber] using hs
    rw [if_neg (by simp [hd])]
  · rename_i c rest hdot
    have hc : c.isDigit = false := by
      unfold endsNumber at hs
      split at hs
      · rename_i heq
        obtain ⟨h1, h2⟩ := List.cons.inj heq
        exact absurd h2 fun h2 => hdot _ _ h1 h2
      · rename_i heq
        obtain ⟨rfl, rfl⟩ := List.cons.inj heq
        simpa using hs
      · rename_i heq
        exact absurd heq (by simp)
    rw [if_neg (by simp [hc])]
  · rfl

theorem spanNumber_append {ds : List Char} (hd : ∀ c ∈ ds, c.isDigit = true) (s : List Char) :
    spanNumber (ds ++ s) = (ds ++ (spanNumber s).1, (spanNumber s).2) := by
  induction ds with
  | nil => rfl
  | cons c ds ih =>
      have hc := hd c List.mem_cons_self
      have hne := (isDigit_spec hc).2.2.1
      have ih := ih fun x hx => hd x (List.mem_cons_of_mem c hx)
      rw [List.cons_append, spanNumber.eq_def]
      split
      · rename_i heq
        exact absurd (List.cons.inj heq).1 hne
      · rename_i heq
        obtain ⟨rfl, rfl⟩ := List.cons.inj heq
        rw [if_pos hc, ih]
        rfl
      · rename_i heq
        exact absurd heq (by simp)

theorem spanNumber_digits {ds s : List Char} (hd : ∀ c ∈ ds, c.isDigit = true)
    (hs : endsNumber s = true) : spanNumber (ds ++ s) = (ds, s) := by
  rw [spanNumber_append hd, spanNumber_of_endsNumber hs, List.append_nil]

theorem valueOf_digitsOf (n : Nat) : valueOf (digitsOf n) = n := foldl_digitsOf n

theorem ofNumber_digitsOf {n : Nat} (hn : n ≤ 0x7FFFFFFFFFFFFFFF) :
    ofNumber (digitsOf n) = .ok (.int n) := by
  have hdot : '.' ∉ digitsOf n := by
    intro h
    exact (isDigit_spec (isDigit_of_mem_digitsOf h)).2.2.1 rfl
  unfold ofNumber
  rw [List.splitOn_eq_singleton hdot]
  simp only [valueOf_digitsOf, if_pos hn]

theorem read_int {n : Nat} {s : List Char} (hn : n ≤ 0x7FFFFFFFFFFFFFFF)
    (hs : (Token.int n).endsBefore s = true) :
    ∃ c cs, digitsOf n = c :: cs ∧ Text.isAsciiBlank c = false ∧
      read c (cs ++ s) = .ok (.int n, s) := by
  cases hl : digitsOf n with
  | nil => exact absurd hl Nat.toDigits_ne_nil
  | cons c cs =>
      have hdig : ∀ d ∈ c :: cs, d.isDigit = true := fun d hd =>
        isDigit_of_mem_digitsOf (hl ▸ hd)
      have hc := hdig c List.mem_cons_self
      obtain ⟨hq, hq', _, hb⟩ := isDigit_spec hc
      have hspan : spanNumber (c :: cs ++ s) = (c :: cs, s) :=
        spanNumber_digits hdig hs
      refine ⟨c, cs, rfl, hb, ?_⟩
      unfold read
      rw [if_neg (by simp [hq, hq']), if_pos hc, ← List.cons_append, hspan]
      simp only [← hl, ofNumber_digitsOf hn, Except.map]

/-! ### Strings -/

theorem readString_escape (c : Char) (s : List Char) :
    readString '"' (escape c ++ s) =
      (readString '"' s).map fun (t, r) => (c :: t, r) := by
  unfold escape
  split
  · rename_i h
    have hu : unescape c = c := by
      rcases h with rfl | rfl <;> rfl
    simp only [List.cons_append, List.nil_append]
    rw [readString, hu]
  · rename_i h
    rw [not_or] at h
    rw [List.singleton_append, readString.eq_def]
    split
    · rename_i heq
      exact absurd heq (by simp)
    · rename_i heq
      exact absurd (List.cons.inj heq).1 h.2
    · rename_i heq
      exact absurd (List.cons.inj heq).1 h.2
    · rename_i heq
      obtain ⟨rfl, rfl⟩ := List.cons.inj heq
      rw [if_neg h.1]

theorem readString_flatMap_escape (cs s : List Char) :
    readString '"' (cs.flatMap escape ++ '"' :: s) = some (cs, s) := by
  induction cs with
  | nil => rfl
  | cons c cs ih =>
      rw [List.flatMap_cons, List.append_assoc, readString_escape, ih]
      rfl

/-! ### Symbols -/

/-- A sign of one character is not taken for one of two where the text behind it does not make it
one. -/
theorem symbol_read?_text {x : Symbol} {s : List Char} (hs : (Token.symbol x).endsBefore s = true) :
    Symbol.read? (x.text.toList ++ s) = some (x, s) := by
  cases x with
  | lt =>
      cases s with
      | nil => rfl
      | cons c r =>
          have hc : c ≠ '=' := by simpa [endsBefore] using hs
          simp [Symbol.text, Symbol.read?, hc]
  | gt =>
      cases s with
      | nil => rfl
      | cons c r =>
          have hc : c ≠ '=' := by simpa [endsBefore] using hs
          simp [Symbol.text, Symbol.read?, hc]
  | _ => rfl

theorem read_symbol {x : Symbol} {s : List Char} (hs : (Token.symbol x).endsBefore s = true) :
    ∃ c cs, x.text.toList = c :: cs ∧ Text.isAsciiBlank c = false ∧
      read c (cs ++ s) = .ok (.symbol x, s) := by
  have hr := symbol_read?_text hs
  cases hl : x.text.toList with
  | nil => cases x <;> exact absurd hl (by decide)
  | cons c cs =>
      rw [hl, List.cons_append] at hr
      have hc : (c ≠ '"' ∧ c ≠ '\'') ∧ c.isDigit = false ∧ Text.isIdentStart c = false ∧
          Text.isAsciiBlank c = false := by
        cases x <;> (obtain ⟨rfl, rfl⟩ := List.cons.inj hl; decide)
      obtain ⟨⟨hq, hq'⟩, hd, hi, hb⟩ := hc
      refine ⟨c, cs, rfl, hb, ?_⟩
      unfold read
      rw [if_neg (by simp [hq, hq']), if_neg (by simp [hd]), if_neg (by simp [hi]), hr]

/-! ### All tokens -/

/-- The reader of tokens takes the spelling of a token off a text that does not carry it on. -/
theorem read_spelling {t : Token} {s : List Char} (ht : t.isWritable = true)
    (hs : t.endsBefore s = true) :
    ∃ c cs, t.spelling = c :: cs ∧ Text.isAsciiBlank c = false ∧ read c (cs ++ s) = .ok (t, s) := by
  cases t with
  | name n => exact read_name ht hs
  | int i =>
      have hi : i ≤ 0x7FFFFFFFFFFFFFFF := by simpa [isWritable] using ht
      exact read_int hi hs
  | float x => exact absurd ht (by simp [isWritable])
  | text x =>
      refine ⟨'"', x.toList.flatMap escape ++ ['"'], rfl, by decide, ?_⟩
      unfold read
      rw [if_pos (Or.inl rfl), List.append_assoc, List.singleton_append,
        readString_flatMap_escape]
      simp only [String.ofList_toList]
  | symbol x => exact read_symbol hs

theorem endsBefore_space (t : Token) (s : List Char) : t.endsBefore (' ' :: s) = true := by
  match t with
  | .name _ | .int _ | .float _ | .text _ => rfl
  | .symbol x => cases x <;> rfl

theorem spells_spaced : ∀ ts : List Token, Spells (spaced ts) ts
  | [] => .done
  | t :: ts => by
      have h := Spells.token (endsBefore_space t (spaced ts)) (.blank (by decide) (spells_spaced ts))
      rwa [show spaced (t :: ts) = t.spelling ++ ' ' :: spaced ts from
        List.append_assoc _ _ _]

theorem tokenize_blank {c : Char} (hc : Text.isAsciiBlank c = true) (s : List Char) :
    tokenize (c :: s) = tokenize s := by
  rw [tokenize, if_pos hc]

theorem tokenize_of_read_error {c : Char} {s : List Char} {e : Error} (hc : ¬Text.isAsciiBlank c = true)
    (hread : read c s = .error e) : tokenize (c :: s) = .error e := by
  rw [tokenize, if_neg hc]
  split
  · next e' he => rw [Except.error.inj (hread.symm.trans he)]
  · next he => cases hread.symm.trans he

theorem tokenize_of_read {c : Char} {s r : List Char} {t : Token} (hc : ¬Text.isAsciiBlank c = true)
    (hread : read c s = .ok (t, r)) : tokenize (c :: s) = (tokenize r).map (t :: ·) := by
  rw [tokenize, if_neg hc]
  split
  · next he => cases hread.symm.trans he
  · next t' r' he =>
      cases hread.symm.trans he
      rfl

theorem tokenize_append {t : Token} {s : List Char} (ht : t.isWritable = true)
    (hs : t.endsBefore s = true) : tokenize (t.spelling ++ s) = (tokenize s).map (t :: ·) := by
  obtain ⟨c, cs, hsp, hb, hr⟩ := read_spelling ht hs
  rw [hsp, List.cons_append, tokenize_of_read (by simp [hb]) hr]

/-- Every text that spells tokens has these tokens. -/
theorem tokenize_of_spells {s : List Char} {ts : List Token} (h : Spells s ts)
    (ht : ∀ t ∈ ts, t.isWritable = true) : tokenize s = .ok ts := by
  induction h with
  | done => rw [tokenize]
  | blank hc _ ih =>
      rw [tokenize_blank hc]
      exact ih ht
  | @token t s ts hs _ ih =>
      have ih := ih fun u hu => ht u (List.mem_cons_of_mem t hu)
      rw [tokenize_append (ht t List.mem_cons_self) hs, ih]
      rfl

end Token
end ClassScribe
