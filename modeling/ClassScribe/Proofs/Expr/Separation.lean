import ClassScribe.Proofs.Expr.Trimming
import ClassScribe.Proofs.Outcome
import ClassScribe.Text.Unquoted

/-! # Tokens between white space

White space outside of string literals separates tokens: the tokens of a text are the ones before such a place
and the ones behind it (`tokenize_append_blank`), whatever white space stands there. -/

namespace ClassScribe

namespace Text

variable {s t : List Char} {c : Char}

theorem quoteBehind_append (h : ∀ c ∈ s, isQuote c = false) (t : List Char) :
    quoteBehind none (s ++ t) = quoteBehind none t := by
  induction s with
  | nil => rfl
  | cons c s ih =>
      obtain ⟨hc, hs⟩ := List.forall_mem_cons.mp h
      rw [List.cons_append, quoteBehind, if_neg (by simp [hc]), ih hs]

theorem quoteBehind_of_ne {q : Char} (hc : c ≠ '\\') (s : List Char) :
    quoteBehind (some q) (c :: s) = quoteBehind (if c = q then none else some q) s := by
  rw [quoteBehind.eq_def]
  split <;> simp_all

theorem isQuote_of_isBlank (h : isBlank c = true) : isQuote c = false := by
  rw [← Bool.not_eq_true]
  intro hquote
  simp only [isQuote, Bool.or_eq_true, beq_iff_eq] at hquote
  rcases hquote with rfl | rfl <;> exact absurd h (by decide)

theorem isAsciiBlank_of_isPlainBlank (h : isPlainBlank c = true) : isAsciiBlank c = true := by
  unfold isPlainBlank at h
  unfold isAsciiBlank
  rw [h]
  rfl

end Text

namespace Token
open Text

variable {u v r s : List Char} {c d q : Char}

theorem readString_of_ne (hc : c ≠ '\\') (s : List Char) : readString q (c :: s) =
    if c = q then some ([], s) else (readString q s).map fun (t, r) => (c :: t, r) := by
  rw [readString.eq_def]
  split <;> simp_all

/-- A string literal that is closed in a text is read there. -/
theorem readString_of_quoteBehind (h : quoteBehind (some q) u = none) :
    ∃ s r, quoteBehind none r = none ∧ ∀ v, readString q (u ++ v) = some (s, r ++ v) := by
  fun_induction readString q u with
  | case1 => cases h
  | case2 c rest ih =>
      obtain ⟨s, r, hr, hread⟩ := ih h
      refine ⟨unescape c :: s, r, hr, fun v => ?_⟩
      rw [List.cons_append, List.cons_append, readString, hread]
      rfl
  | case3 => cases h
  | case4 rest hesc hend =>
      have hq : q ≠ '\\' := by
        intro hq
        cases rest with
        | nil => exact hend hq rfl
        | cons d rest => exact hesc d rest hq rfl
      rw [quoteBehind_of_ne hq, if_pos rfl] at h
      refine ⟨[], rest, h, fun v => ?_⟩
      rw [List.cons_append, readString_of_ne hq, if_pos rfl]
  | case5 c rest hesc hend hc ih =>
      have hc' : c ≠ '\\' := by
        intro hc'
        cases rest with
        | nil => exact hend hc' rfl
        | cons d rest => exact hesc d rest hc' rfl
      rw [quoteBehind_of_ne hc', if_neg hc] at h
      obtain ⟨s, r, hr, hread⟩ := ih h
      refine ⟨c :: s, r, hr, fun v => ?_⟩
      rw [List.cons_append, readString_of_ne hc', if_neg hc, hread]
      rfl

theorem spec_of_isAsciiBlank (hc : isAsciiBlank c = true) :
    c.isDigit = false ∧ c ≠ '.' ∧ c ≠ '=' ∧ isIdentPart c = false := by
  simp only [isAsciiBlank, Bool.or_eq_true, beq_iff_eq] at hc
  rcases hc with (((rfl | rfl) | rfl) | rfl) | rfl <;> decide

theorem spanNumber_digit (hc : c.isDigit = true) (s : List Char) :
    spanNumber (c :: s) = (c :: (spanNumber s).1, (spanNumber s).2) :=
  spanNumber_append (fun _ hd => List.mem_singleton.mp hd ▸ hc : ∀ d ∈ [c], d.isDigit = true) s

theorem spanNumber_point (hd : d.isDigit = true) (s : List Char) :
    spanNumber ('.' :: d :: s) = ('.' :: (spanNumber (d :: s)).1, (spanNumber (d :: s)).2) := by
  rw [spanNumber, if_pos hd]

theorem spanNumber_append_blank (hc : isAsciiBlank c = true) (u v : List Char) :
    spanNumber (u ++ c :: v) = ((spanNumber u).1, (spanNumber u).2 ++ c :: v) := by
  obtain ⟨hdigit, hpoint, -, -⟩ := spec_of_isAsciiBlank hc
  fun_induction spanNumber u with
  | case1 d rest hd s r hspan ih =>
      rw [hspan] at ih
      rw [List.cons_append, List.cons_append, spanNumber_point hd, ← List.cons_append, ih]
  | case2 d rest hd => exact spanNumber_of_endsNumber (by simp [endsNumber, hd])
  | case3 e rest hnot he s r hspan ih =>
      rw [hspan] at ih
      rw [List.cons_append, spanNumber_digit he, ih]
  | case4 e rest hnot he =>
      refine spanNumber_of_endsNumber ?_
      by_cases hpoint : e = '.'
      · cases rest with
        | nil => simp [hpoint, endsNumber, hdigit]
        | cons d rest => exact absurd rfl (hnot d rest hpoint)
      · rw [List.cons_append, endsNumber_of_ne hpoint]
        simpa using he
  | case5 =>
      refine spanNumber_of_endsNumber ?_
      rw [List.nil_append, endsNumber_of_ne hpoint, hdigit]
      rfl

theorem quoteBehind_spanNumber (u : List Char) :
    quoteBehind none (spanNumber u).2 = quoteBehind none u := by
  fun_induction spanNumber u with
  | case1 d rest hd s r hspan ih =>
      rw [hspan] at ih
      exact ih
  | case2 d rest hd => rfl
  | case3 e rest hnot he s r hspan ih =>
      rw [hspan] at ih
      have hquote : isQuote e = false := by
        have := isDigit_spec he
        simp [isQuote, this.1, this.2.1]
      rw [quoteBehind, if_neg (by simp [hquote])]
      exact ih
  | case4 e rest hnot he => rfl
  | case5 => rfl

/-- A symbol that is read stands at the front of the text, and is not the beginning of a longer one. -/
theorem symbol_read?_spec {x : Symbol} (h : Symbol.read? u = some (x, r)) :
    u = x.text.toList ++ r ∧ (Token.symbol x).endsBefore r = true := by
  have hsign (hr : ∀ r', r ≠ '=' :: r') : (Token.symbol .lt).endsBefore r = true ∧
      (Token.symbol .gt).endsBefore r = true := by
    cases r with
    | nil => exact ⟨rfl, rfl⟩
    | cons c r =>
        have hc : c ≠ '=' := fun hc => hr r (by rw [hc])
        simp [endsBefore, hc]
  unfold Symbol.read? at h
  split at h
  case h_5 rest hrest =>
    cases h
    exact ⟨rfl, (hsign hrest).1⟩
  case h_6 rest hrest =>
    cases h
    exact ⟨rfl, (hsign hrest).2⟩
  all_goals cases h
  all_goals exact ⟨rfl, rfl⟩

theorem endsBefore_append_blank {x : Symbol} (hc : isAsciiBlank c = true)
    (h : (Token.symbol x).endsBefore r = true) (v : List Char) :
    (Token.symbol x).endsBefore (r ++ c :: v) = true := by
  obtain ⟨-, -, hequals, -⟩ := spec_of_isAsciiBlank hc
  cases r with
  | nil => cases x <;> simp [endsBefore, hequals]
  | cons d r => cases x <;> exact h

theorem symbol_read?_append_blank (hc : isAsciiBlank c = true) (u v : List Char) :
    Symbol.read? (u ++ c :: v) = (Symbol.read? u).map fun (x, r) => (x, r ++ c :: v) := by
  cases hu : Symbol.read? u with
  | some found =>
      obtain ⟨x, r⟩ := found
      obtain ⟨rfl, hends⟩ := symbol_read?_spec hu
      rw [List.append_assoc, symbol_read?_text (endsBefore_append_blank hc hends v)]
      rfl
  | none =>
      cases huv : Symbol.read? (u ++ c :: v) with
      | none => rfl
      | some found =>
          obtain ⟨x, r⟩ := found
          obtain ⟨hsource, hends⟩ := symbol_read?_spec huv
          rcases List.append_eq_append_iff.mp hsource with ⟨k, hk, hv⟩ | ⟨k, rfl, rfl⟩
          · cases k with
            | nil =>
                have hnil : (Token.symbol x).endsBefore [] = true := by cases x <;> rfl
                have hread := symbol_read?_text hnil
                rw [hk, List.append_nil, List.append_nil, hu] at hread
                cases hread
            | cons d k =>
                -- The symbol would have white space in it.
                obtain ⟨rfl, -⟩ := List.cons.inj hv
                have hall : x.text.toList.all (!isAsciiBlank ·) = true := by cases x <;> decide
                rw [hk] at hall
                simp [hc] at hall
          · rw [symbol_read?_text (endsBefore_of_append hends)] at hu
            cases hu

/-! ### Tokens -/

/-- The front of a text with a property goes up to a character without it at most. -/
theorem span_append_of_neg {p : Char → Bool} (hc : p c = false) (u v : List Char) :
    (u ++ c :: v).takeWhile p = u.takeWhile p ∧ (u ++ c :: v).dropWhile p = u.dropWhile p ++ c :: v := by
  induction u with
  | nil => simp [hc]
  | cons d u ih =>
      cases hd : p d with
      | true => simp [hd, ih]
      | false => simp [hd]

/-- A token goes up to white space at most, outside of string literals. -/
theorem read_append_blank (h : quoteBehind none (d :: u) = none) (hc : isAsciiBlank c = true) (v : List Char) :
    read d (u ++ c :: v) = (read d u).map fun (t, r) => (t, r ++ c :: v) := by
  obtain ⟨-, -, -, hident⟩ := spec_of_isAsciiBlank hc
  unfold read
  split_ifs with hquote hdigit hstart
  · have hopen : quoteBehind (some d) u = none := by
      rwa [quoteBehind, if_pos (by simpa [isQuote] using hquote)] at h
    obtain ⟨s, r, -, hread⟩ := readString_of_quoteBehind hopen
    have hnil := hread []
    rw [List.append_nil, List.append_nil] at hnil
    rw [hread, hnil]
    rfl
  · rw [← List.cons_append, spanNumber_append_blank hc]
    dsimp only
    cases ofNumber (spanNumber (d :: u)).1 <;> rfl
  · obtain ⟨htake, hdrop⟩ := span_append_of_neg hident u v
    rw [htake, hdrop]
    rfl
  · rw [← List.cons_append, symbol_read?_append_blank hc]
    cases Symbol.read? (d :: u) <;> rfl

/-- Behind a token that starts outside of string literals, no literal is open that is closed later. -/
theorem quoteBehind_of_read {t : Token} (h : quoteBehind none (d :: u) = none) (hread : read d u = .ok (t, r)) :
    quoteBehind none r = none := by
  unfold read at hread
  split_ifs at hread with hquote hdigit hstart
  · have hopen : quoteBehind (some d) u = none := by
      rwa [quoteBehind, if_pos (by simpa [isQuote] using hquote)] at h
    obtain ⟨s, r', hr, hstring⟩ := readString_of_quoteBehind hopen
    have hnil := hstring []
    rw [List.append_nil, List.append_nil] at hnil
    rw [hnil] at hread
    cases hread
    exact hr
  · obtain ⟨t', -, heq⟩ := map_eq_ok.mp hread
    cases heq
    rwa [quoteBehind_spanNumber]
  · cases hread
    have hname : ∀ e ∈ d :: u.takeWhile isIdentPart, isQuote e = false := by
      intro e he
      have hpart : isIdentPart e = true := by
        rcases List.mem_cons.mp he with rfl | he
        · exact isIdentPart_of_isIdentStart hstart
        · exact List.mem_takeWhile_imp he
      obtain ⟨-, -, hdouble, hsingle⟩ := isIdentPart_spec hpart
      simp [isQuote, hdouble, hsingle]
    rwa [← quoteBehind_append hname, List.cons_append, List.takeWhile_append_dropWhile]
  · cases hsymbol : Symbol.read? (d :: u) with
    | none =>
        rw [hsymbol] at hread
        cases hread
    | some found =>
        rw [hsymbol] at hread
        cases hread
        have hall : ∀ x : Symbol, x.text.toList.all (!isQuote ·) = true := by
          intro x
          cases x <;> decide
        have htext : ∀ e ∈ found.1.text.toList, isQuote e = false := fun e he => by
          simpa using List.all_eq_true.mp (hall found.1) e he
        rwa [(symbol_read?_spec hsymbol).1, quoteBehind_append htext] at h

/-- The tokens of a text with white space outside of string literals are the tokens before it and the ones
behind it. -/
theorem tokenize_append_blank (h : quoteBehind none u = none) (hc : isAsciiBlank c = true) (v : List Char) :
    tokenize (u ++ c :: v) = tokenize u >>= fun ts => (tokenize v).map (ts ++ ·) := by
  fun_induction tokenize u with
  | case1 =>
      rw [List.nil_append, tokenize_blank hc]
      cases tokenize v <;> rfl
  | case2 d u hd ih =>
      have hu : quoteBehind none u = none := by
        rwa [quoteBehind, if_neg (by simp [isQuote_of_isBlank (isBlank_of_isAsciiBlank hd)])] at h
      rw [List.cons_append, tokenize_blank hd, ih hu]
  | case3 d u hd e hread =>
      have hall := read_append_blank h hc v
      rw [hread] at hall
      rw [List.cons_append, tokenize_of_read_error hd hall]
      rfl
  | case4 d u hd t r hread ih =>
      have hall := read_append_blank h hc v
      rw [hread] at hall
      rw [List.cons_append, tokenize_of_read hd hall, ih (quoteBehind_of_read h hread)]
      cases tokenize r with
      | error e => rfl
      | ok ts => cases tokenize v <;> rfl

end Token
end ClassScribe
