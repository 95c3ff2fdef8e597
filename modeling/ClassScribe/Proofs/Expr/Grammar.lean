import Mathlib.Tactic.Common
import ClassScribe.Expr.Source

/-! # Reading by levels

What the readers of expressions do, without the bounds that they carry along. `l.read s` is the
outcome of the reader of a level, and `l.resume e s` its outcome once it has read `e` and sees `s`.
What a level attaches to an expression, and what it starts with, are relations with one case for each
construct; an expression of a tighter level is handed on from level to level as long as nothing on the
way takes it up (`read_of_clear`). -/

namespace ClassScribe.Expr

/-! ### Outcomes -/

namespace Parsed
variable {α β : Type} {n m : Nat}

/-- What a reader returns, without the bound on the rest. -/
def outcome (p : Parsed α n) : Except SyntaxError (α × List Token) :=
  match p with
  | .ok x => .ok x.1
  | .error e => .error e

theorem outcome_done (a : α) (r : List Token) (h : r.length < n) :
    (done a r h).outcome = .ok (a, r) := rfl

theorem outcome_build {p : Parsed α n} {f : α → β} {h : n ≤ m} {a : α} {r : List Token}
    (hp : p.outcome = .ok (a, r)) : (p.build f h).outcome = .ok (f a, r) := by
  match p with
  | .ok ⟨(b, t), ht⟩ =>
      obtain ⟨rfl, rfl⟩ := Prod.mk.inj (Except.ok.inj hp)
      rfl
  | .error e => exact absurd hp (by simp [outcome])

theorem outcome_build_id (p : Parsed α n) (h : n ≤ m) : (p.build id h).outcome = p.outcome := by
  match p with
  | .ok ⟨(a, r), hr⟩ => rfl
  | .error e => rfl

/-- What follows a successful reader is run on its result. -/
theorem outcome_andThen {p : Parsed α n} {k : α → (r : List Token) → r.length < n → Parsed β m}
    {a : α} {r : List Token} {x : Except SyntaxError (β × List Token)}
    (hp : p.outcome = .ok (a, r)) (hk : ∀ h, (k a r h).outcome = x) : (p.andThen k).outcome = x := by
  match p with
  | .ok ⟨(b, t), ht⟩ =>
      obtain ⟨rfl, rfl⟩ := Prod.mk.inj (Except.ok.inj hp)
      exact hk ht
  | .error e => exact absurd hp (by simp [outcome])

theorem outcome_andThen_error {p : Parsed α n} {k : α → (r : List Token) → r.length < n → Parsed β m}
    {e : SyntaxError} (hp : p.outcome = .error e) : (p.andThen k).outcome = .error e := by
  match p with
  | .ok x => exact absurd hp (by simp [outcome])
  | .error e' =>
      obtain rfl := Except.error.inj hp
      rfl

end Parsed
open Parsed

namespace Level

/-- The outcome of the reader of a level. -/
def read (l : Level) (s : List Token) : Except SyntaxError (Expr × List Token) :=
  (readLevel l s).outcome

/-- The outcome of the reader of a level that has read an expression and goes on. The levels whose
operators stand in front of their operands have nothing to go on with, and a conditional ends its
level. -/
def resume (l : Level) (e : Expr) (s : List Token) : Except SyntaxError (Expr × List Token) :=
  match l with
  | .conditional | .not | .unary | .primary => .ok (e, s)
  | l => (readTail l l.tighter e s).outcome

theorem rank_tighter {l : Level} (h : l ≠ .primary) : l.tighter.rank + 1 = l.rank := by
  cases l <;> first | rfl | exact absurd rfl h

theorem rank_injective {l m : Level} (h : l.rank = m.rank) : l = m := by
  cases l <;> cases m <;> first | rfl | exact absurd h (by decide)

theorem rank_le (l : Level) : l.rank ≤ conditional.rank := by cases l <;> decide

end Level

/-! ### Going on with a left operand -/

theorem readSymbol_outcome (x : Symbol) (s : List Token) :
    (readSymbol x (.symbol x :: s)).outcome = .ok ((), s) := by
  rw [readSymbol, if_pos rfl, outcome_done]

/-- What a level attaches to an expression in front of tokens, and the tokens behind that. -/
inductive Attaches : Level → Expr → List Token → Expr → List Token → Prop
  | operator {l : Level} {s r r' : List Token} {op : BinaryOp} {left right : Expr} :
      operator? l s = some (op, r) → l.tighter.read r = .ok (right, r') →
      Attaches l left s (.binary op left right) r'
  | test {s r : List Token} {e : Expr} {p : Property} {negated : Bool} :
      (readProperty s).outcome = .ok ((p, negated), r) →
      Attaches .comparison e (.name "is" :: s) (.test e p negated) r
  | attr (e : Expr) (n : String) (s : List Token) :
      Attaches .lookup e (.symbol .dot :: .name n :: s) (.attr e n) s
  | index {s r : List Token} {e key : Expr} :
      Level.conditional.read s = .ok (key, .symbol .closeBracket :: r) →
      Attaches .lookup e (.symbol .openBracket :: s) (.index e key) r
  | filter {s r : List Token} {e : Expr} {n : String} {args : List Expr} :
      (readFilterArguments s).outcome = .ok (args, r) →
      Attaches .filtered e (.symbol .pipe :: .name n :: s) (.filter e n args) r

theorem readTail_of_attaches {l : Level} {e e' : Expr} {s r : List Token} (h : Attaches l e s e' r) :
    (readTail l l.tighter e s).outcome = (readTail l l.tighter e' r).outcome := by
  rw [readTail]
  cases h with
  | operator ho hr =>
      split
      · rename_i ho'
        rw [ho] at ho'
        obtain ⟨rfl, rfl⟩ := Prod.mk.inj (Option.some.inj ho')
        exact outcome_andThen hr fun _ => outcome_build_id _ _
      · rename_i ho'
        rw [ho] at ho'
        exact absurd ho' (by simp)
  | @test s _ _ _ _ hp =>
      split
      · rename_i ho
        cases s with
        | nil => exact absurd ho (by simp [operator?])
        | cons t s => cases t <;> exact absurd ho (by simp [operator?])
      · dsimp only
        rw [if_pos rfl]
        exact outcome_andThen hp fun _ => outcome_build_id _ _
  | attr =>
      split
      · rename_i ho
        exact absurd ho (by simp [operator?])
      · exact outcome_build_id _ _
  | index hk =>
      split
      · rename_i ho
        exact absurd ho (by simp [operator?])
      · exact outcome_andThen hk fun _ =>
          outcome_andThen (readSymbol_outcome _ _) fun _ => outcome_build_id _ _
  | filter ha =>
      split
      · rename_i ho
        exact absurd ho (by simp [operator?])
      · exact outcome_andThen rfl fun _ => outcome_andThen ha fun _ => outcome_build_id _ _

theorem resume_of_attaches {l : Level} {e e' : Expr} {s r : List Token} (h : Attaches l e s e' r) :
    l.resume e s = l.resume e' r := by
  have htail := readTail_of_attaches h
  cases h with
  | @operator l _ _ _ _ _ _ ho _ =>
      cases l with
      | or | and | comparison | additive => exact htail
      | _ => exact absurd ho (by simp [operator?])
  | _ => exact htail

/-! ### Operators in front, brackets and conditionals -/

/-- A construct that a level starts with, the expression that it makes, and the tokens behind it. -/
inductive Opens : Level → List Token → Expr → List Token → Prop
  | not {s r : List Token} {e : Expr} :
      Level.not.read s = .ok (e, r) → Opens .not (.name "not" :: s) (.not e) r
  | neg {s r : List Token} {e : Expr} :
      Level.unary.read s = .ok (e, r) → Opens .unary (.symbol .minus :: s) (.neg e) r
  | paren {s r : List Token} {e : Expr} :
      Level.conditional.read s = .ok (e, .symbol .closeParen :: r) →
      Opens .primary (.symbol .openParen :: s) e r
  | list {s r : List Token} {items : List Expr} :
      (readArguments .closeBracket s).outcome = .ok (items, r) →
      Opens .primary (.symbol .openBracket :: s) (.list items) r
  | conditional {s s₁ s₂ r : List Token} {yes condition no : Expr} :
      Level.or.read s = .ok (yes, .name "if" :: s₁) →
      Level.or.read s₁ = .ok (condition, .name "else" :: s₂) →
      Level.conditional.read s₂ = .ok (no, r) →
      Opens .conditional s (.conditional yes condition no) r

theorem read_of_opens {l : Level} {s r : List Token} {e : Expr} (h : Opens l s e r) :
    l.read s = .ok (e, r) := by
  unfold Level.read
  cases h with
  | not h =>
      rw [readLevel, if_pos rfl]
      exact outcome_build h
  | neg h =>
      rw [readLevel]
      exact outcome_build h
  | paren h =>
      rw [readLevel]
      exact outcome_andThen h fun _ => outcome_build (readSymbol_outcome _ _)
  | list h =>
      rw [readLevel]
      exact outcome_build h
  | conditional hy hc hn =>
      rw [readLevel]
      refine outcome_andThen hy fun _ => ?_
      rw [readCondition, if_pos rfl]
      refine outcome_andThen hc fun _ => ?_
      dsimp only
      rw [if_pos rfl]
      exact outcome_build hn

/-! ### What carries an expression on -/

/-- Whether tokens carry on an expression of a level that stands before them. A round bracket counts as
what follows a lookup, since it would be taken for the arguments of a filter. -/
def continues (l : Level) (s : List Token) : Bool :=
  (operator? l s).isSome ||
    match l, s with
    | .conditional, .name n :: _ => n == "if"
    | .comparison, .name n :: _ => n == "is"
    | .filtered, .symbol .pipe :: _ => true
    | .lookup, .symbol x :: _ => x == .dot || x == .openBracket || x == .openParen
    | _, _ => false

/-- Tokens that a tighter level does not take up; those behind a conditional no level takes up. -/
def Clear (l : Level) (s : List Token) : Prop :=
  ∀ k : Level, k.rank < l.rank ∨ l = .conditional → continues k s = false

theorem Clear.mono {l m : Level} {s : List Token} (h : Clear l s) (hm : m.rank ≤ l.rank) :
    Clear m s := by
  intro k hk
  rcases hk with hk | rfl
  · exact h k (Or.inl (by omega))
  · have hl := Level.rank_le l
    exact h k (Or.inr (Level.rank_injective (by omega)))

theorem resume_of_not_continues {l : Level} {s : List Token} (e : Expr)
    (h : continues l s = false) : l.resume e s = .ok (e, s) := by
  have htail : (readTail l l.tighter e s).outcome = .ok (e, s) := by
    unfold continues at h
    rw [Bool.or_eq_false_iff] at h
    rw [readTail]
    split
    · rename_i ho
      rw [ho] at h
      exact absurd h.1 (by simp)
    · split <;> simp_all [outcome_done]
  cases l <;> first | rfl | exact htail

/-! ### From level to level -/

/-- What a token at the start of an expression of a level is not: a closing bracket, nor an operator
in front of an operand, unless the level is loose enough. -/
structure Starts (l : Level) (t : Token) : Prop where
  paren : t ≠ .symbol .closeParen
  bracket : t ≠ .symbol .closeBracket
  not : l.rank < Level.not.rank → t ≠ .name "not"
  minus : l.rank < Level.unary.rank → t ≠ .symbol .minus

theorem Starts.mono {l m : Level} {t : Token} (h : Starts m t) (hm : m.rank ≤ l.rank) :
    Starts l t :=
  ⟨h.paren, h.bracket, fun hl => h.not (Nat.lt_of_le_of_lt hm hl),
    fun hl => h.minus (Nat.lt_of_le_of_lt hm hl)⟩

theorem readLevel_not_of_ne {t : Token} {s : List Token} (ht : t ≠ .name "not") :
    readLevel .not (t :: s) = readLevel .comparison (t :: s) := by
  cases t with
  | name n =>
      rw [readLevel]
      exact if_neg fun hn => ht (by rw [hn])
  | _ =>
      rw [readLevel]
      intro m more h
      exact absurd (List.cons.inj h).1 (by simp)

theorem readLevel_unary_of_ne {t : Token} {s : List Token} (ht : t ≠ .symbol .minus) :
    readLevel .unary (t :: s) = readLevel .filtered (t :: s) := by
  rw [readLevel]
  intro more h
  exact ht (List.cons.inj h).1

theorem readOperands_of_outcome {l next : Level} {s r : List Token} {e : Expr}
    (hl : next.rank < l.rank) (h : (readLevel next s).outcome = .ok (e, r)) :
    (readOperands l next s hl).outcome = (readTail l next e r).outcome := by
  rw [readOperands]
  exact outcome_andThen h fun _ => outcome_build_id _ _

/-- The reader of a level goes on with what the reader of the next tighter level has read. -/
theorem read_of_tighter {l : Level} {t : Token} {s r : List Token} {e : Expr}
    (hl : l ≠ .primary) (ht : Starts l.tighter t) (hc : Clear l r)
    (h : l.tighter.read (t :: s) = .ok (e, r)) : l.read (t :: s) = l.resume e r := by
  cases l with
  | conditional =>
      have hif := hc .conditional (Or.inr rfl)
      unfold continues at hif
      unfold Level.read
      rw [readLevel]
      refine outcome_andThen h fun _ => ?_
      rw [readCondition.eq_def]
      split
      · rw [if_neg (by simpa [operator?] using hif)]
        rfl
      · rfl
  | not =>
      unfold Level.read
      rw [readLevel_not_of_ne (ht.not (by decide))]
      exact h
  | unary =>
      unfold Level.read
      rw [readLevel_unary_of_ne (ht.minus (by decide))]
      exact h
  | primary => exact absurd rfl hl
  | _ =>
      unfold Level.read
      rw [readLevel]
      exact readOperands_of_outcome _ h

/-- What the reader of one level goes on with the reader of a looser level goes on with, too, as
nothing in between takes it up. -/
theorem read_of_clear {l m : Level} {t : Token} {s r : List Token} {e : Expr}
    (hm : m.rank ≤ l.rank) (ht : Starts m t) (hc : Clear l r)
    (h : m.read (t :: s) = m.resume e r) : l.read (t :: s) = l.resume e r := by
  -- on the number of levels between the two
  induction hd : l.rank - m.rank generalizing l with
  | zero =>
      obtain rfl : l = m := Level.rank_injective (by omega)
      exact h
  | succ d ih =>
      have hl : l ≠ .primary := by
        rintro rfl
        simp [Level.rank] at hd
      have hrank := Level.rank_tighter hl
      have hct : Clear l.tighter r := hc.mono (by omega)
      have hk : continues l.tighter r = false := hc l.tighter (Or.inl (by omega))
      have hlow := ih (by omega) hct (by omega)
      rw [resume_of_not_continues e hk] at hlow
      exact read_of_tighter hl (ht.mono (by omega)) hc hlow

/-- The reader of a level fails as the reader of the next tighter level does. -/
theorem read_error_of_tighter {l : Level} {t : Token} {s : List Token} {e : SyntaxError}
    (hl : l ≠ .primary) (ht : Starts l.tighter t) (h : l.tighter.read (t :: s) = .error e) :
    l.read (t :: s) = .error e := by
  cases l with
  | conditional =>
      unfold Level.read
      rw [readLevel]
      exact outcome_andThen_error h
  | not =>
      unfold Level.read
      rw [readLevel_not_of_ne (ht.not (by decide))]
      exact h
  | unary =>
      unfold Level.read
      rw [readLevel_unary_of_ne (ht.minus (by decide))]
      exact h
  | primary => exact absurd rfl hl
  | _ =>
      unfold Level.read
      rw [readLevel, readOperands]
      exact outcome_andThen_error h

/-- The reader of a level fails as the reader of a tighter level does. -/
theorem read_error_of_le {l m : Level} {t : Token} {s : List Token} {e : SyntaxError}
    (hm : m.rank ≤ l.rank) (ht : Starts m t) (h : m.read (t :: s) = .error e) :
    l.read (t :: s) = .error e := by
  -- on the number of levels between the two
  induction hd : l.rank - m.rank generalizing l with
  | zero =>
      obtain rfl : l = m := Level.rank_injective (by omega)
      exact h
  | succ d ih =>
      have hl : l ≠ .primary := by
        rintro rfl
        simp [Level.rank] at hd
      have hrank := Level.rank_tighter hl
      exact read_error_of_tighter hl (ht.mono (by omega)) (ih (by omega) (by omega))

end ClassScribe.Expr
