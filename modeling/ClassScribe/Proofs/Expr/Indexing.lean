import ClassScribe.Proofs.Expr.RoundTrip

/-! # Indexes behind points

A number behind a point is an index, as one in brackets is. The reader of lookups takes any number of
them (`read_points`), and so does the whole reader where white space parts each index from the point
behind it. Where nothing parts them, the reader of tokens takes the digits and points as one number
before the reader of lookups sees them (`tokenize_dotted`): one index is read as in brackets, and two or
more are not read at all (`parse_indexes`). -/

namespace ClassScribe

/-! ### Texts with indexes -/

namespace Expr

/-- A name with indexes in brackets behind it. -/
def bracketed (name : String) (keys : List Nat) : List Char :=
  name.toList ++ keys.flatMap fun k => '[' :: (digitsOf k ++ [']'])

/-- A name with indexes behind points. -/
def dotted (name : String) (keys : List Nat) : List Char :=
  name.toList ++ keys.flatMap fun k => '.' :: digitsOf k

/-- A name with indexes behind points, and a space before each point. -/
def spacedOut (name : String) (keys : List Nat) : List Char :=
  name.toList ++ keys.flatMap fun k => ' ' :: '.' :: digitsOf k

/-- The lookups of indexes, one in what the other gives. -/
def indexed (base : Expr) (keys : List Nat) : Expr :=
  keys.foldl (fun e (k : Nat) => .index e (.literal (.number (.int k)))) base

/-- The tokens of indexes behind points. -/
def pointTokens (keys : List Nat) : List Token :=
  keys.flatMap fun k => [.symbol .dot, .int k]

/-- The tokens of indexes in brackets. -/
def bracketTokens (keys : List Nat) : List Token :=
  keys.flatMap fun k => [.symbol .openBracket, .int k, .symbol .closeBracket]

end Expr

/-! ### Tokens -/

namespace Token
open ClassScribe.Expr

theorem endsNumber_flatMap {f : Nat → List Char} {c : Char} {cs : Nat → List Char}
    (hf : ∀ k, f k = c :: cs k) (hc : ∀ s, endsNumber (c :: s) = true) (keys : List Nat) :
    endsNumber (keys.flatMap f) = true := by
  cases keys with
  | nil => rfl
  | cons k keys =>
      rw [List.flatMap_cons, hf]
      exact hc _

theorem endsBefore_name_flatMap {f : Nat → List Char} {c : Char} {cs : Nat → List Char}
    (hf : ∀ k, f k = c :: cs k) (hc : Text.isIdentPart c = false) (name : String) (keys : List Nat) :
    (Token.name name).endsBefore (keys.flatMap f) = true := by
  cases keys with
  | nil => rfl
  | cons k keys =>
      rw [List.flatMap_cons, hf]
      show (!Text.isIdentPart c) = true
      rw [hc]
      rfl

theorem spells_brackets (keys : List Nat) :
    Spells (keys.flatMap fun k => '[' :: (digitsOf k ++ [']'])) (bracketTokens keys) := by
  induction keys with
  | nil => exact .done
  | cons k keys ih =>
      have hclose := Spells.token (t := .symbol .closeBracket) rfl ih
      have hkey := Spells.token (t := .int k) rfl hclose
      have hopen := Spells.token (t := .symbol .openBracket) rfl hkey
      have htext : (k :: keys).flatMap (fun k => '[' :: (digitsOf k ++ [']'])) =
          '[' :: (digitsOf k ++ ']' :: keys.flatMap fun k => '[' :: (digitsOf k ++ [']'])) := by
        simp
      rw [htext]
      exact hopen

theorem spells_spacedOut (keys : List Nat) :
    Spells (keys.flatMap fun k => ' ' :: '.' :: digitsOf k) (pointTokens keys) := by
  induction keys with
  | nil => exact .done
  | cons k keys ih =>
      have hkey := Spells.token (t := .int k)
        (endsNumber_flatMap (fun _ => rfl) (fun _ => rfl) keys) ih
      have hpoint := Spells.token (t := .symbol .dot) rfl hkey
      exact .blank (by decide) hpoint

/-- Digits with a point before each of their groups belong to one number. -/
theorem spanNumber_points (keys : List Nat) :
    spanNumber (keys.flatMap fun k => '.' :: digitsOf k) = (keys.flatMap fun k => '.' :: digitsOf k, []) := by
  induction keys with
  | nil => rfl
  | cons k keys ih =>
      have hdigits := spanNumber_append (fun c => isDigit_of_mem_digitsOf (n := k) (c := c))
        (keys.flatMap fun k => '.' :: digitsOf k)
      rw [ih] at hdigits
      rw [List.flatMap_cons]
      cases hk : digitsOf k with
      | nil => exact absurd hk (digitsOf_ne_nil k)
      | cons c cs =>
          have hc : c.isDigit = true := isDigit_of_mem_digitsOf (n := k) (hk ▸ List.mem_cons_self)
          rw [hk] at hdigits
          show spanNumber ('.' :: c :: (cs ++ _)) = _
          rw [spanNumber, if_pos hc]
          show ('.' :: (spanNumber (c :: cs ++ _)).1, (spanNumber (c :: cs ++ _)).2) = _
          rw [hdigits]
          rfl

theorem tokenize_number {c : Char} {s : List Char} (hc : c.isDigit = true)
    (hs : spanNumber (c :: s) = (c :: s, [])) : tokenize (c :: s) = (ofNumber (c :: s)).map ([·]) := by
  obtain ⟨hq, hq', -, hb⟩ := isDigit_spec hc
  have hread : read c s = (ofNumber (c :: s)).map (·, []) := by
    unfold read
    rw [if_neg (by simp [hq, hq']), if_pos hc, hs]
  have hblank : ¬Text.isAsciiBlank c = true := by simp [hb]
  cases ho : ofNumber (c :: s) with
  | error e =>
      rw [ho] at hread
      rw [tokenize_of_read_error hblank hread]
      rfl
  | ok t =>
      rw [ho] at hread
      rw [tokenize_of_read hblank hread, tokenize]
      rfl

/-- The digits of numbers with points between them. -/
def pointed (keys : List Nat) : List Char := ['.'].intercalate (keys.map digitsOf)

theorem pointed_cons (k : Nat) (keys : List Nat) :
    pointed (k :: keys) = digitsOf k ++ keys.flatMap fun k => '.' :: digitsOf k := by
  induction keys generalizing k with
  | nil => simp [pointed]
  | cons j keys ih =>
      have htail : pointed (k :: j :: keys) = digitsOf k ++ '.' :: pointed (j :: keys) := by
        simp [pointed]
      rw [htail, ih, List.flatMap_cons]
      rfl

theorem splitOn_pointed (k : Nat) (keys : List Nat) :
    (pointed (k :: keys)).splitOn '.' = (k :: keys).map digitsOf := by
  apply List.splitOn_intercalate
  · intro ds hds hdot
    obtain ⟨j, -, rfl⟩ := List.mem_map.mp hds
    exact (isDigit_spec (isDigit_of_mem_digitsOf hdot)).2.2.1 rfl
  · simp

/-- Behind a name and a point, indexes with points between them are one number. -/
theorem tokenize_dotted {name : String} (hname : Text.isIdentifier name.toList = true) (k : Nat)
    (keys : List Nat) :
    tokenize (dotted name (k :: keys)) =
      (ofNumber (pointed (k :: keys))).map fun t => [.name name, .symbol .dot, t] := by
  have hspan : spanNumber (pointed (k :: keys)) = (pointed (k :: keys), []) := by
    rw [pointed_cons, spanNumber_append fun c => isDigit_of_mem_digitsOf (n := k) (c := c),
      spanNumber_points]
  have hnumber : tokenize (pointed (k :: keys)) = (ofNumber (pointed (k :: keys))).map ([·]) := by
    rw [pointed_cons] at hspan ⊢
    cases hk : digitsOf k with
    | nil => exact absurd hk (digitsOf_ne_nil k)
    | cons c cs =>
        rw [hk] at hspan
        exact tokenize_number (isDigit_of_mem_digitsOf (n := k) (hk ▸ List.mem_cons_self)) hspan
  have htext : dotted name (k :: keys) = (Token.name name).spelling ++
      ((Token.symbol .dot).spelling ++ pointed (k :: keys)) := by
    rw [pointed_cons]
    rfl
  have hpoint : (Token.name name).endsBefore ((Token.symbol .dot).spelling ++ pointed (k :: keys)) =
      true := rfl
  rw [htext, tokenize_append (t := .name name) hname hpoint, tokenize_append rfl rfl, hnumber]
  cases ofNumber (pointed (k :: keys)) <;> rfl

end Token

/-! ### Lookups -/

namespace Expr
open Parsed

theorem starts_name {name : String} (hfree : name ∉ reserved) (l : Level) : Starts l (.name name) := by
  have hnot : name ≠ "not" := by
    rintro rfl
    exact hfree (by decide)
  exact ⟨by simp, by simp, fun _ => by simpa using hnot, fun _ => by simp⟩

theorem resume_point (e : Expr) (k : Nat) (s : List Token) :
    Level.lookup.resume e (.symbol .dot :: .int k :: s) =
      Level.lookup.resume (.index e (.literal (.number (.int k)))) s := by
  show (readTail .lookup .primary e (.symbol .dot :: .int k :: s)).outcome = _
  rw [readTail]
  split
  · next ho => exact absurd ho (by simp [operator?])
  · exact outcome_build_id _ _

theorem resume_points (e : Expr) (keys : List Nat) :
    Level.lookup.resume e (pointTokens keys) = .ok (indexed e keys, []) := by
  induction keys generalizing e with
  | nil => exact resume_of_not_continues e rfl
  | cons k keys ih => exact (resume_point e k _).trans (ih _)

/-- A lookup ends the reading where a number with a point of its own stands behind a point. -/
theorem resume_float (e : Expr) (x : Option Binary64) (s : List Token) :
    Level.lookup.resume e (.symbol .dot :: .float x :: s) =
      .error (.expectedAttribute (some (.float x))) := by
  show (readTail .lookup .primary e (.symbol .dot :: .float x :: s)).outcome = _
  rw [readTail]
  split
  · next ho => exact absurd ho (by simp [operator?])
  · rfl

theorem read_name_lookup {name : String} (hfree : name ∉ reserved) {s : List Token}
    (hclear : Clear .lookup s) :
    Level.lookup.read (.name name :: s) = Level.lookup.resume (.var name) s := by
  have hvar : Level.primary.read (.name name :: s) = .ok (.var name, s) :=
    reads_var (by simpa using hfree) s (hclear.mono (Nat.zero_le _))
  exact read_of_tighter (by decide) (starts_name hfree _) hclear hvar

theorem clear_dot (s : List Token) : Clear .lookup (.symbol .dot :: s) := by
  intro k hk
  cases k <;> first | rfl | exact absurd hk (by decide)

theorem read_points {name : String} (hfree : name ∉ reserved) (keys : List Nat) :
    Level.conditional.read (.name name :: pointTokens keys) = .ok (indexed (.var name) keys, []) := by
  have hclear : Clear .lookup (pointTokens keys) := by
    cases keys with
    | nil => exact clear_nil _
    | cons k keys => exact clear_dot _
  have hlookup : Level.lookup.read (.name name :: pointTokens keys) =
      Level.lookup.resume (indexed (.var name) keys) [] := by
    rw [read_name_lookup hfree hclear, resume_points, resume_of_not_continues _ rfl]
  exact read_of_clear (by decide) (starts_name hfree _) (clear_nil _) hlookup

theorem read_float {name : String} (hfree : name ∉ reserved) (x : Option Binary64) :
    Level.conditional.read [.name name, .symbol .dot, .float x] =
      .error (.expectedAttribute (some (.float x))) := by
  have hlookup := (read_name_lookup hfree (clear_dot [.float x])).trans (resume_float _ x [])
  exact read_error_of_le (by decide) (starts_name hfree _) hlookup

/-! ### Brackets -/

theorem tokens_indexed {e : Expr} (he : e.level.rank ≤ Level.lookup.rank) (keys : List Nat) :
    (indexed e keys).tokens = e.tokens ++ bracketTokens keys := by
  induction keys generalizing e with
  | nil => exact (List.append_nil _).symm
  | cons k keys ih =>
      have henclose : enclose .lookup e.level e.tokens = e.tokens := if_neg (by omega)
      have hkey : (Expr.index e (.literal (.number (.int k)))).tokens =
          e.tokens ++ [.symbol .openBracket, .int k, .symbol .closeBracket] := by
        rw [tokens, henclose, tokens]
        simp [literalToken]
      show (indexed (.index e (.literal (.number (.int k)))) keys).tokens = _
      rw [ih (Nat.le_refl _), hkey, List.append_assoc]
      rfl

theorem isWritable_indexed {e : Expr} (he : e.isWritable = true) {keys : List Nat}
    (hkeys : ∀ k ∈ keys, k ≤ 0x7FFFFFFFFFFFFFFF) : (indexed e keys).isWritable = true := by
  induction keys generalizing e with
  | nil => exact he
  | cons k keys ih =>
      obtain ⟨hk, hkeys⟩ := List.forall_mem_cons.mp hkeys
      refine ih ?_ hkeys
      simp only [isWritable, he, Literal.isWritable, Bool.true_and, Bool.and_eq_true, decide_eq_true_eq]
      omega

section
variable {name : String} {keys : List Nat}

theorem parse_bracketed (hname : Text.isIdentifier name.toList = true) (hfree : name ∉ reserved)
    (hkeys : ∀ k ∈ keys, k ≤ 0x7FFFFFFFFFFFFFFF) :
    parse (bracketed name keys) = .ok (indexed (.var name) keys) := by
  have hvar : (Expr.var name).isWritable = true := by
    rw [isWritable, hname]
    simpa using hfree
  have hspells := Token.Spells.token (t := .name name)
    (Token.endsBefore_name_flatMap (fun _ => rfl) (by decide) name keys) (Token.spells_brackets keys)
  apply parse_of_spells (isWritable_indexed hvar hkeys)
  rw [tokens_indexed (Nat.zero_le _)]
  exact hspells

/-- Where a space stands before each point, the indexes are read. -/
theorem parse_spacedOut (hname : Text.isIdentifier name.toList = true) (hfree : name ∉ reserved)
    (hkeys : ∀ k ∈ keys, k ≤ 0x7FFFFFFFFFFFFFFF) :
    parse (spacedOut name keys) = .ok (indexed (.var name) keys) := by
  have hspells := Token.Spells.token (t := .name name)
    (Token.endsBefore_name_flatMap (fun _ => rfl) (by decide) name keys) (Token.spells_spacedOut keys)
  refine parse_of_read (Token.tokenize_of_spells hspells ?_) (read_points hfree keys)
  refine List.forall_mem_cons.mpr ⟨hname, fun t ht => ?_⟩
  obtain ⟨k, hk, ht⟩ := List.mem_flatMap.mp ht
  rcases List.mem_cons.mp ht with rfl | ht
  · rfl
  · rw [List.mem_singleton.mp ht]
    exact decide_eq_true (hkeys k hk)

theorem parse_dotted_one (hname : Text.isIdentifier name.toList = true) (hfree : name ∉ reserved) {k : Nat}
    (hk : k ≤ 0x7FFFFFFFFFFFFFFF) : parse (dotted name [k]) = .ok (indexed (.var name) [k]) := by
  have hint : Token.ofNumber (Token.pointed [k]) = .ok (.int k) := by
    rw [Token.pointed_cons, List.flatMap_nil, List.append_nil, Token.ofNumber_digitsOf hk]
  have htokens := Token.tokenize_dotted hname k []
  rw [hint] at htokens
  exact parse_of_read htokens (read_points hfree [k])

theorem parse_dotted_two (hname : Text.isIdentifier name.toList = true) (hfree : name ∉ reserved) (i j : Nat) :
    parse (dotted name [i, j]) = .error (.expectedAttribute (some (.float
      (Binary64.ofDecimal? false (Token.valueOf (digitsOf i ++ digitsOf j)) (-(digitsOf j).length))))) := by
  have hfloat : Token.ofNumber (Token.pointed [i, j]) = .ok (.float
      (Binary64.ofDecimal? false (Token.valueOf (digitsOf i ++ digitsOf j)) (-(digitsOf j).length))) := by
    unfold Token.ofNumber
    rw [Token.splitOn_pointed]
    rfl
  have htokens := Token.tokenize_dotted hname i [j]
  rw [hfloat] at htokens
  exact parse_of_read_error htokens (read_float hfree _)

/-- Three or more indexes behind points are taken for one number with too many points. -/
theorem parse_dotted_more (hname : Text.isIdentifier name.toList = true) (h : 3 ≤ keys.length) :
    parse (dotted name keys) = .error (.token (.invalidNumber (String.ofList (Token.pointed keys)))) := by
  obtain ⟨i, j, k, rest, rfl⟩ : ∃ i j k rest, keys = i :: j :: k :: rest := by
    match keys, h with
    | i :: j :: k :: rest, _ => exact ⟨i, j, k, rest, rfl⟩
  have hnone : Token.ofNumber (Token.pointed (i :: j :: k :: rest)) =
      .error (.invalidNumber (String.ofList (Token.pointed (i :: j :: k :: rest)))) := by
    unfold Token.ofNumber
    rw [Token.splitOn_pointed]
    rfl
  have htokens := Token.tokenize_dotted hname i (j :: k :: rest)
  rw [hnone] at htokens
  unfold parse
  rw [htokens]
  rfl

end

/-- Indexes in brackets are read as lookups, one in what the other gives, and so are indexes behind points
where a space stands before each point, or where there is one at most. Two of them without a space are
taken for a number with places, which is no attribute, and three or more are no number. So the text with
points is read as the one with brackets just if there are less than two indexes. -/
theorem parse_indexes (name : String) (keys : List Nat) (hname : Text.isIdentifier name.toList = true)
    (hfree : name ∉ reserved) (hkeys : ∀ k ∈ keys, k ≤ 0x7FFFFFFFFFFFFFFF) :
    parse (bracketed name keys) = .ok (indexed (.var name) keys) ∧
    parse (spacedOut name keys) = .ok (indexed (.var name) keys) ∧
    (∀ i j, keys = [i, j] → parse (dotted name keys) = .error (.expectedAttribute (some (.float
      (Binary64.ofDecimal? false (Token.valueOf (digitsOf i ++ digitsOf j)) (-(digitsOf j).length)))))) ∧
    (3 ≤ keys.length →
      parse (dotted name keys) = .error (.token (.invalidNumber (String.ofList (Token.pointed keys))))) ∧
    (parse (dotted name keys) = parse (bracketed name keys) ↔ keys.length < 2) := by
  have hbracketed := parse_bracketed hname hfree hkeys
  refine ⟨hbracketed, parse_spacedOut hname hfree hkeys, ?_, parse_dotted_more hname, ?_⟩
  · rintro i j rfl
    exact parse_dotted_two hname hfree i j
  · rw [hbracketed]
    match keys, hkeys with
    | [], _ =>
        have hnone : parse (dotted name []) = .ok (indexed (.var name) []) := by
          rw [← parse_spacedOut hname hfree (List.forall_mem_nil _)]
          rfl
        exact iff_of_true hnone Nat.two_pos
    | [k], hkeys =>
        exact iff_of_true (parse_dotted_one hname hfree (hkeys k List.mem_cons_self)) Nat.one_lt_two
    | [i, j], _ =>
        rw [parse_dotted_two hname hfree]
        exact iff_of_false (fun h => by cases h) (by simp)
    | i :: j :: k :: rest, _ =>
        rw [parse_dotted_more hname (by simp)]
        exact iff_of_false (fun h => by cases h) (by simp)

/-- Two indexes are read in brackets, and behind points with spaces. -/
theorem parse_indexes_pair :
    Text.isIdentifier "x".toList = true ∧ "x" ∉ reserved ∧ (∀ k ∈ [0, 1], k ≤ 0x7FFFFFFFFFFFFFFF) ∧
      parse (bracketed "x" [0, 1]) = .ok (indexed (.var "x") [0, 1]) ∧
      parse (spacedOut "x" [0, 1]) = .ok (indexed (.var "x") [0, 1]) := by
  have hkeys : ∀ k ∈ [0, 1], k ≤ 0x7FFFFFFFFFFFFFFF := by decide
  obtain ⟨hbracketed, hspaced, -⟩ := parse_indexes "x" [0, 1] (by decide) (by decide) hkeys
  exact ⟨by decide, by decide, hkeys, hbracketed, hspaced⟩

/-- The two indexes behind points alone are not read. -/
theorem parse_dotted_pair :
    parse "x[0][1]".toList = .ok (indexed (.var "x") [0, 1]) ∧
      ∃ x, parse "x.0.1".toList = .error (.expectedAttribute (some (.float x))) := by
  have hname : Text.isIdentifier "x".toList = true := by decide
  have hfree : "x" ∉ reserved := by decide
  have hkeys : ∀ k ∈ [0, 1], k ≤ 0x7FFFFFFFFFFFFFFF := by decide
  exact ⟨parse_bracketed hname hfree hkeys, _, parse_dotted_two hname hfree 0 1⟩

end Expr
end ClassScribe
