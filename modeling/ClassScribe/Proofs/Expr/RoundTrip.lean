import Mathlib.Tactic.Common
import ClassScribe.Proofs.Expr.Grammar
import ClassScribe.Proofs.Expr.Spelling

/-! # Reading what has been written

Reading the tokens of an expression gives the expression back. `Reads e` says so for an expression in
front of any tokens that a tighter level does not take up; it is preserved by every constructor, the
operators that group to the left included, as the reader of a level resumes with its left operand.
With `tokenize_of_spells` every text that spells the tokens is read as the expression. -/

namespace ClassScribe.Expr
open Parsed

/-! ### First tokens -/

/-- Tokens whose first one can start an expression of a level. -/
def StartsAt (l : Level) (ts : List Token) : Prop := ∃ t r, ts = t :: r ∧ Starts l t

theorem StartsAt.append {l : Level} {ts : List Token} (h : StartsAt l ts) (us : List Token) :
    StartsAt l (ts ++ us) := by
  obtain ⟨t, r, rfl, ht⟩ := h
  exact ⟨t, r ++ us, rfl, ht⟩

theorem starts_openParen (l : Level) : Starts l (.symbol .openParen) :=
  ⟨by decide, by decide, fun _ => by decide, fun _ => by decide⟩

theorem StartsAt.enclose {l m : Level} {ts : List Token} (h : StartsAt m ts) :
    StartsAt l (enclose l m ts) := by
  unfold Expr.enclose
  split
  · exact ⟨_, _, rfl, starts_openParen l⟩
  · obtain ⟨t, r, rfl, ht⟩ := h
    exact ⟨t, r, rfl, ht.mono (by omega)⟩

theorem starts_literalToken (l : Level) (x : Literal) : Starts l (literalToken x) := by
  match x with
  | .none | .bool true | .bool false | .number (.int _) | .number (.float _) | .text _ =>
      refine ⟨?_, ?_, fun _ => ?_, fun _ => ?_⟩ <;> simp [literalToken]

theorem startsAt_tokens : ∀ {e : Expr}, e.isWritable = true → StartsAt e.level e.tokens
  | .literal x, _ => ⟨_, _, rfl, starts_literalToken _ x⟩
  | .list _, _ => ⟨_, _, rfl, by decide, by decide, fun _ => by decide, fun _ => by decide⟩
  | .var name, h => by
      have hn : name ≠ "not" := by
        rintro rfl
        exact absurd h (by decide)
      exact ⟨_, _, rfl, by simp, by simp, fun _ => by simpa using hn, fun _ => by simp⟩
  | .attr base _, h => by
      simp only [isWritable, Bool.and_eq_true] at h
      exact (startsAt_tokens h.1).enclose.append _
  | .index base key, h => by
      simp only [isWritable, Bool.and_eq_true] at h
      rw [tokens, List.append_assoc]
      exact (startsAt_tokens h.1).enclose.append _
  | .filter input _ _, h => by
      simp only [isWritable, Bool.and_eq_true] at h
      exact (startsAt_tokens h.1.1).enclose.append _
  | .test input _ _, h => (startsAt_tokens (e := input) h).enclose.append _
  | .not _, _ => ⟨_, _, rfl, by decide, by decide, fun h => by simp [level] at h, fun _ => by decide⟩
  | .neg _, _ => ⟨_, _, rfl, by decide, by decide, fun _ => by decide, fun h => by simp [level] at h⟩
  | .binary op left _, h => by
      simp only [isWritable, Bool.and_eq_true] at h
      exact ((startsAt_tokens h.1).enclose.append _).append _
  | .conditional yes _ _, h => by
      simp only [isWritable, Bool.and_eq_true] at h
      obtain ⟨t, r, he, ht⟩ : StartsAt .or (enclose .or yes.level yes.tokens) :=
        (startsAt_tokens h.1.1).enclose
      refine ⟨t, _, by rw [tokens, he]; rfl, ht.mono ?_⟩
      exact Level.rank_le _

/-! ### Expressions that are read back -/

/-- The reader of an expression's level reads the expression off its tokens and goes on with it. -/
def Reads (e : Expr) : Prop :=
  ∀ rest, Clear e.level rest → e.level.read (e.tokens ++ rest) = e.level.resume e rest

theorem clear_nil (l : Level) : Clear l [] := by
  intro k _
  cases k <;> rfl

theorem clear_closeParen (l : Level) (s : List Token) : Clear l (.symbol .closeParen :: s) := by
  intro k _
  cases k <;> rfl

theorem clear_closeBracket (l : Level) (s : List Token) : Clear l (.symbol .closeBracket :: s) := by
  intro k _
  cases k <;> rfl

theorem clear_comma (l : Level) (s : List Token) : Clear l (.symbol .comma :: s) := by
  intro k _
  cases k <;> rfl

/-- Where an expression of another level stands, its tokens are read back with or without brackets
around them. -/
theorem Reads.tokensAt {e : Expr} (h : Reads e) (hs : StartsAt e.level e.tokens) {l : Level}
    {rest : List Token} (hc : Clear l rest) : l.read (e.tokensAt l ++ rest) = l.resume e rest := by
  obtain ⟨t, r, he, ht⟩ := hs
  unfold Expr.tokensAt enclose
  split
  · have hin : Level.conditional.read (e.tokens ++ .symbol .closeParen :: rest) =
        .ok (e, .symbol .closeParen :: rest) := by
      have hout := h _ (clear_closeParen _ rest)
      rw [he] at hout ⊢
      exact read_of_clear (Level.rank_le _) ht (clear_closeParen _ _) hout
    simp only [List.cons_append, List.append_assoc, List.nil_append]
    exact read_of_clear (m := .primary) (Nat.zero_le _) (starts_openParen _) hc (read_of_opens (.paren hin))
  · have hle : e.level.rank ≤ l.rank := by omega
    have hout := h rest (hc.mono hle)
    rw [he] at hout ⊢
    exact read_of_clear hle ht hc hout

theorem Reads.tokens {e : Expr} (h : Reads e) (hs : StartsAt e.level e.tokens)
    {rest : List Token} (hc : Clear .conditional rest) :
    Level.conditional.read (e.tokens ++ rest) = .ok (e, rest) := by
  obtain ⟨t, r, he, ht⟩ := hs
  have hout := h rest (hc.mono (Level.rank_le _))
  rw [he] at hout ⊢
  exact read_of_clear (Level.rank_le _) ht hc hout

/-! ### Lists of expressions -/

theorem readMore_itemTokens {close : Symbol} (hc : ∀ l s, Clear l (.symbol close :: s))
    (hcomma : close ≠ .comma) (rest : List Token) : ∀ {items : List Expr}, items ≠ [] →
    (∀ e ∈ items, Reads e ∧ StartsAt e.level e.tokens) →
    (readMore close (itemTokens items ++ .symbol close :: rest)).outcome = .ok (items, rest)
  | [], hne, _ => absurd rfl hne
  | [e], _, h => by
      have he := h e List.mem_cons_self
      rw [readMore]
      refine outcome_andThen (he.1.tokens he.2 (hc _ rest)) fun _ => ?_
      split
      · rename_i heq _
        exact absurd (by simpa using (List.cons.inj heq).1) hcomma
      · exact outcome_build (readSymbol_outcome _ _)
  | e :: f :: items, _, h => by
      have he := h e List.mem_cons_self
      have ih := readMore_itemTokens hc hcomma rest (List.cons_ne_nil f items)
        fun x hx => h x (List.mem_cons_of_mem e hx)
      rw [itemTokens, List.append_assoc, List.cons_append, readMore]
      exact outcome_andThen (he.1.tokens he.2 (clear_comma _ _)) fun _ => outcome_build ih

theorem startsAt_itemTokens {items : List Expr} (hne : items ≠ [])
    (h : ∀ e ∈ items, StartsAt e.level e.tokens) :
    ∃ t r, itemTokens items = t :: r ∧ t ≠ .symbol .closeParen ∧ t ≠ .symbol .closeBracket := by
  match items with
  | [] => exact absurd rfl hne
  | [e] =>
      obtain ⟨t, r, he, ht⟩ := h e List.mem_cons_self
      exact ⟨t, r, he, ht.paren, ht.bracket⟩
  | e :: f :: items =>
      obtain ⟨t, r, he, ht⟩ := h e List.mem_cons_self
      exact ⟨t, _, by rw [itemTokens, he]; rfl, ht.paren, ht.bracket⟩

theorem readArguments_of_ne {close : Symbol} {t : Token} {s : List Token}
    (ht : t ≠ .symbol close) : readArguments close (t :: s) = readMore close (t :: s) := by
  cases t with
  | symbol x =>
      rw [readArguments]
      exact if_neg fun hx => ht (by rw [hx])
  | _ =>
      rw [readArguments]
      intro x r h
      exact absurd (List.cons.inj h).1 (by simp)

theorem readArguments_itemTokens {close : Symbol} (hc : close = .closeParen ∨ close = .closeBracket)
    (rest : List Token) {items : List Expr}
    (h : ∀ e ∈ items, Reads e ∧ StartsAt e.level e.tokens) :
    (readArguments close (itemTokens items ++ .symbol close :: rest)).outcome =
      .ok (items, rest) := by
  by_cases hne : items = []
  · subst hne
    rw [itemTokens, List.nil_append, readArguments, if_pos rfl, outcome_done]
  · have hclear : ∀ l s, Clear l (.symbol close :: s) := by
      rcases hc with rfl | rfl
      · exact clear_closeParen
      · exact clear_closeBracket
    have hmore := readMore_itemTokens hclear (by rcases hc with rfl | rfl <;> decide) rest hne h
    obtain ⟨t, r, he, hp, hb⟩ := startsAt_itemTokens hne fun e hm => (h e hm).2
    rw [he, List.cons_append] at hmore ⊢
    rw [readArguments_of_ne]
    · exact hmore
    · rcases hc with rfl | rfl
      · exact hp
      · exact hb

theorem readFilterArguments_tokens {args : List Expr} {rest : List Token}
    (hc : Clear .filtered rest) (h : ∀ e ∈ args, Reads e ∧ StartsAt e.level e.tokens) :
    (readFilterArguments ((if args.isEmpty then []
      else .symbol .openParen :: itemTokens args ++ [.symbol .closeParen]) ++ rest)).outcome =
      .ok (args, rest) := by
  by_cases he : args = []
  · subst he
    have hl := hc .lookup (Or.inl (by decide))
    rw [List.isEmpty_nil, if_pos rfl, List.nil_append, readFilterArguments.eq_def]
    split
    · exact absurd hl (by simp [continues])
    · rfl
  · rw [if_neg (by simpa using he)]
    rw [List.cons_append, List.cons_append, List.append_assoc, List.singleton_append,
      readFilterArguments, outcome_build_id]
    exact readArguments_itemTokens (Or.inl rfl) rest h

/-! ### Every expression that can be written -/

theorem reads_literal {x : Literal} (hx : Literal.isWritable x = true) : Reads (.literal x) := by
  intro rest _
  show Level.primary.read (literalToken x :: rest) = .ok (.literal x, rest)
  unfold Level.read
  match x with
  | .none | .bool true | .bool false | .text _ =>
      rw [literalToken, readLevel]
      rfl
  | .number (.int i) =>
      have hi : (i.toNat : Int) = i := by
        simp [Literal.isWritable] at hx
        omega
      rw [literalToken, readLevel, outcome_done, hi]
  | .number (.float _) => exact absurd hx (by simp [Literal.isWritable])

theorem reads_var {n : String} (hn : reserved.contains n = false) : Reads (.var n) := by
  intro rest _
  show Level.primary.read (.name n :: rest) = .ok (.var n, rest)
  have h : ofName n = .var n := by
    simp only [reserved, List.contains_eq_mem, List.mem_cons, List.not_mem_nil, or_false,
      decide_eq_false_iff_not, not_or] at hn
    simp [ofName, hn]
  unfold Level.read
  rw [readLevel, outcome_done, h]

theorem readProperty_testTokens (p : Property) (negated : Bool) (rest : List Token) :
    (readProperty ((if negated then [.name "not"] else []) ++ [.name p.name] ++ rest)).outcome =
      .ok ((p, negated), rest) := by
  cases p <;> cases negated <;> rfl

theorem operator?_comparison_name {n : String} (hin : n ≠ "in") (hnot : n ≠ "not")
    (s : List Token) : operator? .comparison (.name n :: s) = none := by
  simp only [operator?, if_neg hin]
  split
  · rw [if_neg fun h => hnot h.1]
  · rfl

theorem clear_operatorTokens (op : BinaryOp) (s : List Token) :
    Clear (operatorLevel op) (operatorTokens op ++ s) := by
  intro k hk
  cases op <;> cases k <;>
    first
    | rfl
    | exact absurd hk (by decide)
    | simp [continues, operatorTokens, operator?_comparison_name]

theorem operator?_operatorTokens (op : BinaryOp) (s : List Token) :
    operator? (operatorLevel op) (operatorTokens op ++ s) = some (op, s) := by
  cases op <;> simp [operatorLevel, operatorTokens, operator?]

theorem clear_name {l : Level} {n : String} (hl : l.rank ≤ Level.or.rank)
    (hn : n ∉ ["or", "and", "in", "not", "is"]) (s : List Token) : Clear l (.name n :: s) := by
  simp only [List.mem_cons, List.not_mem_nil, or_false, not_or] at hn
  obtain ⟨hor, hand, hin, hnot, his⟩ := hn
  intro k hk
  cases k with
  | conditional =>
      rcases hk with hk | rfl
      · exact absurd (Nat.lt_of_lt_of_le hk hl) (by decide)
      · exact absurd hl (by decide)
  | comparison => simp [continues, operator?_comparison_name hin hnot, his]
  | or => simp [continues, operator?, hor]
  | and => simp [continues, operator?, hand]
  | _ => rfl

theorem clear_is (s : List Token) : Clear .comparison (.name "is" :: s) := by
  intro k hk
  cases k <;> first | rfl | exact absurd hk (by decide)

theorem reads_binary {op : BinaryOp} {left right : Expr} (hl : Reads left) (hr : Reads right)
    (hls : StartsAt left.level left.tokens) (hrs : StartsAt right.level right.tokens) :
    Reads (.binary op left right) := by
  intro rest hc
  have hc : Clear (operatorLevel op) rest := hc
  have hrank : (operatorLevel op).tighter.rank + 1 = (operatorLevel op).rank :=
    Level.rank_tighter (by cases op <;> decide)
  have hright : (operatorLevel op).tighter.read (right.tokensAt (operatorLevel op).tighter ++ rest) =
      .ok (right, rest) := by
    rw [hr.tokensAt hrs (hc.mono (by omega)), resume_of_not_continues]
    exact hc _ (Or.inl (by omega))
  show (operatorLevel op).read (left.tokensAt _ ++ operatorTokens op ++ right.tokensAt _ ++ rest) = _
  rw [List.append_assoc, List.append_assoc, hl.tokensAt hls (clear_operatorTokens op _)]
  exact resume_of_attaches (.operator (operator?_operatorTokens op _) hright)

theorem reads_conditional {yes condition no : Expr} (hy : Reads yes) (hc : Reads condition)
    (hn : Reads no) (hys : StartsAt yes.level yes.tokens)
    (hcs : StartsAt condition.level condition.tokens) (hns : StartsAt no.level no.tokens) :
    Reads (.conditional yes condition no) := by
  intro rest hrest
  have hout : ∀ {e : Expr} {n : String} {s : List Token}, Reads e → StartsAt e.level e.tokens →
      n ∉ ["or", "and", "in", "not", "is"] →
      Level.or.read (e.tokensAt .or ++ .name n :: s) = .ok (e, .name n :: s) := by
    intro e n s he hes hname
    have hor : n ≠ "or" := fun h => hname (by simp [h])
    rw [he.tokensAt hes (clear_name (by decide) hname s), resume_of_not_continues]
    simp [continues, operator?, hor]
  have hno : Level.conditional.read (no.tokens ++ rest) = .ok (no, rest) := hn.tokens hns hrest
  have hread := read_of_opens (.conditional (hout hy hys (by decide)) (hout hc hcs (by decide)) hno)
  show Level.conditional.read (yes.tokensAt .or ++ .name "if" ::
    condition.tokensAt .or ++ .name "else" :: no.tokens ++ rest) = _
  simp only [List.append_assoc, List.cons_append]
  exact hread

mutual
/-- Every expression that can be written is read back. -/
theorem reads : ∀ {e : Expr}, e.isWritable = true → Reads e
  | .literal _, h => reads_literal h
  | .list items, h => by
      intro rest _
      have hitems := reads_items (show areWritable items = true from h)
      show Level.primary.read (.symbol .openBracket :: itemTokens items ++ [.symbol .closeBracket] ++
        rest) = .ok (.list items, rest)
      rw [List.cons_append, List.cons_append, List.append_assoc, List.singleton_append]
      exact read_of_opens (.list (readArguments_itemTokens (Or.inr rfl) rest hitems))
  | .var n, h => by
      simp only [isWritable, Bool.and_eq_true, Bool.not_eq_true'] at h
      exact reads_var h.2
  | .attr base n, h => by
      simp only [isWritable, Bool.and_eq_true] at h
      intro rest _
      have hc : Clear .lookup (.symbol .dot :: .name n :: rest) := by
        intro k hk
        cases k <;> first | rfl | exact absurd hk (by decide)
      show Level.lookup.read (base.tokensAt .lookup ++ [.symbol .dot, .name n] ++ rest) = _
      rw [List.append_assoc]
      exact ((reads h.1).tokensAt (startsAt_tokens h.1) hc).trans (resume_of_attaches (.attr base n rest))
  | .index base key, h => by
      simp only [isWritable, Bool.and_eq_true] at h
      intro rest _
      have hc : Clear .lookup (.symbol .openBracket :: (key.tokens ++ .symbol .closeBracket :: rest)) := by
        intro k hk
        cases k <;> first | rfl | exact absurd hk (by decide)
      have hkey := (reads h.2).tokens (startsAt_tokens h.2) (clear_closeBracket _ rest)
      show Level.lookup.read (base.tokensAt .lookup ++
        .symbol .openBracket :: key.tokens ++ [.symbol .closeBracket] ++ rest) = _
      simp only [List.append_assoc, List.cons_append, List.nil_append]
      exact ((reads h.1).tokensAt (startsAt_tokens h.1) hc).trans (resume_of_attaches (.index hkey))
  | .filter input n args, h => by
      simp only [isWritable, Bool.and_eq_true] at h
      intro rest hrest
      have hargs := readFilterArguments_tokens hrest (reads_items h.2)
      have hc : ∀ s, Clear .filtered (.symbol .pipe :: s) := by
        intro s k hk
        cases k <;> first | rfl | exact absurd hk (by decide)
      show Level.filtered.read (input.tokensAt .filtered ++ .symbol .pipe :: .name n ::
        (if args.isEmpty then [] else .symbol .openParen :: itemTokens args ++
          [.symbol .closeParen]) ++ rest) = _
      rw [List.append_assoc, List.cons_append, List.cons_append]
      exact ((reads h.1.1).tokensAt (startsAt_tokens h.1.1) (hc _)).trans (resume_of_attaches (.filter hargs))
  | .test input p negated, h => by
      intro rest _
      show Level.comparison.read (input.tokensAt .comparison ++ testTokens p negated ++ rest) = _
      rw [List.append_assoc]
      exact ((reads (e := input) h).tokensAt (startsAt_tokens h) (clear_is _)).trans
        (resume_of_attaches (.test (readProperty_testTokens p negated rest)))
  | .not operand, h => by
      intro rest hc
      exact read_of_opens (.not ((reads (e := operand) h).tokensAt (startsAt_tokens h) hc))
  | .neg operand, h => by
      intro rest hc
      exact read_of_opens (.neg ((reads (e := operand) h).tokensAt (startsAt_tokens h) hc))
  | .binary _ left right, h => by
      simp only [isWritable, Bool.and_eq_true] at h
      exact reads_binary (reads h.1) (reads h.2) (startsAt_tokens h.1) (startsAt_tokens h.2)
  | .conditional yes condition no, h => by
      simp only [isWritable, Bool.and_eq_true] at h
      exact reads_conditional (reads h.1.1) (reads h.1.2) (reads h.2) (startsAt_tokens h.1.1)
        (startsAt_tokens h.1.2) (startsAt_tokens h.2)
theorem reads_items : ∀ {items : List Expr}, areWritable items = true →
    ∀ e ∈ items, Reads e ∧ StartsAt e.level e.tokens
  | [], _ => by simp
  | f :: items, h => by
      simp only [areWritable, Bool.and_eq_true] at h
      intro e he
      rcases List.mem_cons.1 he with he | he
      · rw [he]
        exact ⟨reads h.1, startsAt_tokens h.1⟩
      · exact reads_items h.2 e he
end

/-! ### Tokens of expressions -/

/-- Tokens that all have a spelling. -/
def AllWritable (ts : List Token) : Prop := ∀ t ∈ ts, t.isWritable = true

theorem allWritable_cons {t : Token} {ts : List Token} :
    AllWritable (t :: ts) ↔ t.isWritable = true ∧ AllWritable ts := List.forall_mem_cons

theorem allWritable_append {ts us : List Token} :
    AllWritable (ts ++ us) ↔ AllWritable ts ∧ AllWritable us := List.forall_mem_append

theorem allWritable_nil : AllWritable [] := List.forall_mem_nil _

theorem allWritable_enclose {outer inner : Level} {ts : List Token} (h : AllWritable ts) :
    AllWritable (enclose outer inner ts) := by
  unfold enclose
  split
  · simp only [List.cons_append, allWritable_cons, allWritable_append]
    exact ⟨rfl, h, rfl, allWritable_nil⟩
  · exact h

theorem isWritable_literalToken {x : Literal} (h : Literal.isWritable x = true) :
    (literalToken x).isWritable = true := by
  match x with
  | .none | .bool true | .bool false => decide
  | .number (.int i) =>
      simp [Literal.isWritable] at h
      simp [literalToken, Token.isWritable]
      omega
  | .number (.float _) => exact absurd h (by simp [Literal.isWritable])
  | .text _ => rfl

theorem allWritable_operatorTokens (op : BinaryOp) : AllWritable (operatorTokens op) := by
  unfold AllWritable
  cases op <;> decide

theorem allWritable_testTokens (p : Property) (negated : Bool) :
    AllWritable (testTokens p negated) := by
  unfold AllWritable
  cases p <;> cases negated <;> decide

mutual
theorem allWritable_tokens : ∀ {e : Expr}, e.isWritable = true → AllWritable e.tokens
  | .literal _, h => allWritable_cons.2 ⟨isWritable_literalToken h, allWritable_nil⟩
  | .list items, h => by
      simp only [tokens, List.cons_append, allWritable_cons, allWritable_append]
      exact ⟨rfl, allWritable_itemTokens (show areWritable items = true from h), rfl, allWritable_nil⟩
  | .var n, h => by
      simp only [isWritable, Bool.and_eq_true] at h
      exact allWritable_cons.2 ⟨h.1, allWritable_nil⟩
  | .attr base n, h => by
      simp only [isWritable, Bool.and_eq_true] at h
      simp only [tokens, allWritable_append, allWritable_cons]
      exact ⟨allWritable_enclose (allWritable_tokens h.1), rfl, h.2, allWritable_nil⟩
  | .index base key, h => by
      simp only [isWritable, Bool.and_eq_true] at h
      simp only [tokens, allWritable_append, allWritable_cons]
      exact ⟨⟨allWritable_enclose (allWritable_tokens h.1), rfl, allWritable_tokens h.2⟩, rfl,
        allWritable_nil⟩
  | .filter input n args, h => by
      simp only [isWritable, Bool.and_eq_true] at h
      have hargs := allWritable_itemTokens h.2
      simp only [tokens, allWritable_append, allWritable_cons]
      refine ⟨allWritable_enclose (allWritable_tokens h.1.1), rfl, h.1.2, ?_⟩
      split
      · exact allWritable_nil
      · simp only [List.cons_append, allWritable_cons, allWritable_append]
        exact ⟨rfl, hargs, rfl, allWritable_nil⟩
  | .test input p negated, h => by
      simp only [tokens, allWritable_append]
      exact ⟨allWritable_enclose (allWritable_tokens (e := input) h), allWritable_testTokens p negated⟩
  | .not operand, h =>
      allWritable_cons.2 ⟨rfl, allWritable_enclose (allWritable_tokens (e := operand) h)⟩
  | .neg operand, h =>
      allWritable_cons.2 ⟨rfl, allWritable_enclose (allWritable_tokens (e := operand) h)⟩
  | .binary op left right, h => by
      simp only [isWritable, Bool.and_eq_true] at h
      simp only [tokens, allWritable_append]
      exact ⟨⟨allWritable_enclose (allWritable_tokens h.1), allWritable_operatorTokens op⟩,
        allWritable_enclose (allWritable_tokens h.2)⟩
  | .conditional yes condition no, h => by
      simp only [isWritable, Bool.and_eq_true] at h
      simp only [tokens, allWritable_append, allWritable_cons]
      exact ⟨⟨allWritable_enclose (allWritable_tokens h.1.1), by decide,
        allWritable_enclose (allWritable_tokens h.1.2)⟩, by decide, allWritable_tokens h.2⟩
theorem allWritable_itemTokens : ∀ {items : List Expr}, areWritable items = true →
    AllWritable (itemTokens items)
  | [], _ => allWritable_nil
  | [e], h => by
      simp only [areWritable, Bool.and_eq_true] at h
      exact allWritable_tokens h.1
  | e :: f :: items, h => by
      rw [areWritable, Bool.and_eq_true] at h
      simp only [itemTokens, allWritable_append, allWritable_cons]
      exact ⟨allWritable_tokens h.1, rfl, allWritable_itemTokens h.2⟩
end

/-! ### Texts of expressions -/

theorem parse_of_read {e : Expr} {s : List Char} {ts : List Token} (hs : Token.tokenize s = .ok ts)
    (hread : Level.conditional.read ts = .ok (e, [])) : parse s = .ok e := by
  unfold Level.read outcome at hread
  unfold parse
  rw [hs]
  dsimp only
  split
  · rename_i heq
    rw [heq] at hread
    exact absurd hread (by simp)
  · rename_i heq
    rw [heq] at hread
    obtain ⟨rfl, _⟩ := Prod.mk.inj (Except.ok.inj hread)
    rfl
  · rename_i heq
    rw [heq] at hread
    exact absurd (Prod.mk.inj (Except.ok.inj hread)).2 (by simp)

theorem parse_of_read_error {s : List Char} {ts : List Token} {err : SyntaxError}
    (hs : Token.tokenize s = .ok ts) (hread : Level.conditional.read ts = .error err) :
    parse s = .error err := by
  unfold Level.read outcome at hread
  unfold parse
  rw [hs]
  dsimp only
  split
  · rename_i heq
    rw [heq] at hread
    exact congrArg Except.error (Except.error.inj hread)
  · rename_i heq
    rw [heq] at hread
    cases hread
  · rename_i heq
    rw [heq] at hread
    cases hread

theorem parse_of_tokenize {e : Expr} {s : List Char} (he : e.isWritable = true)
    (hs : Token.tokenize s = .ok e.tokens) : parse s = .ok e := by
  have hread : Level.conditional.read e.tokens = .ok (e, []) := by
    have h := (reads he).tokens (startsAt_tokens he) (clear_nil .conditional)
    rwa [List.append_nil] at h
  exact parse_of_read hs hread

theorem parse_of_spells {e : Expr} {s : List Char} (he : e.isWritable = true)
    (hs : Token.Spells s e.tokens) : parse s = .ok e :=
  parse_of_tokenize he (Token.tokenize_of_spells hs (allWritable_tokens he))

/-- An expression that can be written is what each of its texts is read as: the one with a space
behind every token, and every other one that spells its tokens. -/
theorem parse_source {e : Expr} (he : e.isWritable = true) :
    parse e.source = .ok e ∧ ∀ s, Token.Spells s e.tokens → parse s = .ok e :=
  ⟨parse_of_spells he (Token.spells_spaced _), fun _ hs => parse_of_spells he hs⟩

/-- A conditional whose parts need brackets, signs in a row and an escaped quote. -/
theorem parse_source_conditional :
    let e : Expr := .conditional
      (.binary .notIn (.not (.var "a")) (.list [.literal (.number (.int 1)), .literal (.text "\"")]))
      (.test (.filter (.neg (.var "b")) "f" [.conditional (.var "c") (.var "d") (.var "or")])
        .none true)
      (.binary .sub (.var "x") (.binary .sub (.neg (.neg (.var "y"))) (.attr (.var "z") "not")))
    e.isWritable = true ∧
      parse ("( not a ) not in [ 1 , \"\\\"\" ] if ( - b ) | f ( c if d else or ) is not none " ++
        "else x - ( - - y - z . not ) ").toList = .ok e := by
  intro e
  have he : e.isWritable = true := by decide
  exact ⟨he, (parse_source he).1⟩

end ClassScribe.Expr
