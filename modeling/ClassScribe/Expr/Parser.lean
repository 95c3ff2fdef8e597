import ClassScribe.Expr.Basic
import ClassScribe.Expr.Token

/-! # Reading expressions

From the loosest to the tightest: the inline conditional, `or`, `and`, `not`, comparisons with
`in` and `is`, sums, the minus sign, filters, lookups, and what stands alone or in brackets. The
operators between two expressions group to the left; the conditional nests in its last part.

Every reader returns what follows the expression with a bound on its length, which is what the
recursion ends by. -/

namespace ClassScribe.Expr

/-! ### Errors -/

/-- Why a text is no expression. A missing token is the end of the expression. -/
inductive SyntaxError
  | token (cause : Token.Error)
  | expectedSymbol (symbol : Symbol) (found : Option Token)
  | expectedName (found : Option Token)
  | expectedAttribute (found : Option Token)
  | unexpected (found : Option Token)
  | unknownProperty (name : String)
  | missingElse
  | trailing (found : Token) (source : String)
  deriving DecidableEq, Repr

/-- How a message refers to a token or to the end. -/
def describeFound : Option Token → String
  | some t => t.describe
  | none => "end of expression"

/-- The text of the failure. -/
def SyntaxError.message : SyntaxError → String
  | .token cause => cause.message
  | .expectedSymbol s found => "expected `" ++ s.text ++ "`, found " ++ describeFound found
  | .expectedName found => "expected a name, found " ++ describeFound found
  | .expectedAttribute found => "expected attribute, found " ++ describeFound found
  | .unexpected found => "unexpected " ++ describeFound found
  | .unknownProperty name => "unknown test `" ++ name ++ "`"
  | .missingElse => "inline `if` requires an `else` branch"
  | .trailing found source => "unexpected " ++ found.describe ++ " in `" ++ source ++ "`"

/-! ### Levels -/

/-- The levels of binding. -/
inductive Level
  | conditional
  | or
  | and
  | not
  | comparison
  | additive
  | unary
  | filtered
  | lookup
  | primary
  deriving DecidableEq, Repr

/-- The number of levels that bind tighter. -/
def Level.rank : Level → Nat
  | .conditional => 9
  | .or => 8
  | .and => 7
  | .not => 6
  | .comparison => 5
  | .additive => 4
  | .unary => 3
  | .filtered => 2
  | .lookup => 1
  | .primary => 0

/-- The result of a reader that leaves fewer than `n` tokens. -/
def Parsed (α : Type) (n : Nat) := Except SyntaxError { p : α × List Token // p.2.length < n }

namespace Parsed

variable {α β : Type} {n m : Nat}

/-- What has been read, and the tokens behind it. -/
def done (a : α) (r : List Token) (h : r.length < n) : Parsed α n := .ok ⟨(a, r), h⟩

/-- No such tokens. -/
def fail (e : SyntaxError) : Parsed α n := .error e

/-- Goes on behind what has been read. -/
def andThen (p : Parsed α n) (k : α → (r : List Token) → r.length < n → Parsed β m) : Parsed β m :=
  match p with
  | .ok ⟨(a, r), h⟩ => k a r h
  | .error e => .error e

/-- Builds something from what has been read, under a weaker bound. -/
def build (p : Parsed α n) (f : α → β) (h : n ≤ m) : Parsed β m :=
  p.andThen fun a r hr => done (f a) r (Nat.lt_of_lt_of_le hr h)

end Parsed

/-- The operator between two expressions of the next level that the tokens start with. -/
def operator? : Level → List Token → Option (BinaryOp × List Token)
  | .or, .name n :: rest => if n = "or" then some (.or, rest) else none
  | .and, .name n :: rest => if n = "and" then some (.and, rest) else none
  | .comparison, .symbol s :: rest =>
    match s with
    | .eq => some (.eq, rest)
    | .ne => some (.ne, rest)
    | .lt => some (.lt, rest)
    | .le => some (.le, rest)
    | .gt => some (.gt, rest)
    | .ge => some (.ge, rest)
    | _ => none
  | .comparison, .name n :: rest =>
    if n = "in" then some (.isIn, rest)
    else
      match rest with
      | .name m :: more => if n = "not" ∧ m = "in" then some (.notIn, more) else none
      | _ => none
  | .additive, .symbol s :: rest =>
    match s with
    | .plus => some (.add, rest)
    | .minus => some (.sub, rest)
    | .tilde => some (.concat, rest)
    | _ => none
  | _, _ => none

theorem operator?_length {l : Level} {s r : List Token} {op : BinaryOp}
    (h : operator? l s = some (op, r)) : r.length < s.length := by
  unfold operator? at h
  split at h
  all_goals (try split at h)
  all_goals (try split at h)
  all_goals (try split at h)
  all_goals simp at h
  all_goals (obtain ⟨_, rfl⟩ := h; simp only [List.length_cons]; omega)

/-- The expression of a name: a constant if it names one. -/
def ofName (name : String) : Expr :=
  if name = "true" ∨ name = "True" then .literal (.bool true)
  else if name = "false" ∨ name = "False" then .literal (.bool false)
  else if name = "none" ∨ name = "None" then .literal .none
  else .var name

/-- The constant of a number with a point; one that is too large has no value. -/
def ofFloat : Option Binary64 → Literal
  | some x => .number (.float x)
  | none => .none

/-- A symbol. -/
def readSymbol (x : Symbol) : (s : List Token) → Parsed Unit s.length
  | .symbol y :: r =>
    if x = y then .done () r (by simp) else .fail (.expectedSymbol x (some (.symbol y)))
  | s => .fail (.expectedSymbol x s.head?)

/-- A name. -/
def readName : (s : List Token) → Parsed String s.length
  | .name n :: r => .done n r (by simp)
  | s => .fail (.expectedName s.head?)

/-- The property of a name. -/
def checkProperty (name : String) (negated : Bool) (r : List Token) {n : Nat} (h : r.length < n) :
    Parsed (Property × Bool) n :=
  match Property.ofName? name with
  | some p => .done (p, negated) r h
  | none => .fail (.unknownProperty name)

/-- The property that a test asks for, behind an optional `not`. -/
def readProperty : (s : List Token) → Parsed (Property × Bool) s.length
  | .name n :: r =>
    if n = "not" then
      (readName r).andThen fun name r1 h => checkProperty name true r1 (by simp; omega)
    else checkProperty n false r (by simp)
  | s => .fail (.expectedName s.head?)

/-! ### The grammar -/

mutual
/-- The expression of a level at the start of the tokens. -/
def readLevel (l : Level) (s : List Token) : Parsed Expr s.length :=
  match l with
  | .conditional => (readLevel .or s).andThen fun yes r h => readCondition yes r h
  | .or => readOperands .or .and s (by decide)
  | .and => readOperands .and .not s (by decide)
  | .not =>
    match s with
    | .name n :: r =>
      if n = "not" then (readLevel .not r).build .not (by simp)
      else readLevel .comparison (.name n :: r)
    | s => readLevel .comparison s
  | .comparison => readOperands .comparison .additive s (by decide)
  | .additive => readOperands .additive .unary s (by decide)
  | .unary =>
    match s with
    | .symbol .minus :: r => (readLevel .unary r).build .neg (by simp)
    | s => readLevel .filtered s
  | .filtered => readOperands .filtered .lookup s (by decide)
  | .lookup => readOperands .lookup .primary s (by decide)
  | .primary =>
    match s with
    | .text t :: r => .done (.literal (.text t)) r (by simp)
    | .int i :: r => .done (.literal (.number (.int i))) r (by simp)
    | .float x :: r => .done (.literal (ofFloat x)) r (by simp)
    | .name n :: r => .done (ofName n) r (by simp)
    | .symbol .openParen :: r =>
      (readLevel .conditional r).andThen fun e r1 h1 =>
        (readSymbol .closeParen r1).build (fun _ => e) (by simp; omega)
    | .symbol .openBracket :: r => (readArguments .closeBracket r).build .list (by simp)
    | s => .fail (.unexpected s.head?)
termination_by (s.length, 2 * l.rank)
decreasing_by all_goals (simp_all [Prod.lex_def, Level.rank]; try omega)

/-- The rest of an inline conditional, if the tokens behind an expression start with one. -/
def readCondition (yes : Expr) {n : Nat} (s : List Token) (h : s.length < n) : Parsed Expr n :=
  match s, h with
  | .name word :: r, h =>
    if word = "if" then
      (readLevel .or r).andThen fun condition r1 h1 =>
        match r1, h1 with
        | .name word :: r2, h2 =>
          if word = "else" then
            (readLevel .conditional r2).build (.conditional yes condition) (by simp at *; omega)
          else .fail .missingElse
        | _, _ => .fail .missingElse
    else .done yes (.name word :: r) h
  | s, h => .done yes s h
termination_by (s.length, 23)
decreasing_by all_goals (simp_all [Prod.lex_def, Level.rank]; try omega)

/-- An expression of the next level and what is attached to it on this level. -/
def readOperands (l next : Level) (s : List Token) (_hl : next.rank < l.rank) :
    Parsed Expr s.length :=
  (readLevel next s).andThen fun left r h => (readTail l next left r).build id h
termination_by (s.length, 2 * l.rank - 1)
decreasing_by
  · simp [Prod.lex_def]; omega
  · simp [Prod.lex_def]; omega

/-- Attaches what follows on a level to the expression on its left. -/
def readTail (l next : Level) (left : Expr) (s : List Token) : Parsed Expr (s.length + 1) :=
  match _ho : operator? l s with
  | some (op, r) =>
    (readLevel next r).andThen fun right r1 h1 =>
      (readTail l next (.binary op left right) r1).build id
        (by have := operator?_length _ho; omega)
  | none =>
    match l, s with
    | .comparison, .name n :: r =>
      if n = "is" then
        (readProperty r).andThen fun p r1 h1 =>
          (readTail .comparison next (.test left p.1 p.2) r1).build id (by simp; omega)
      else .done left (.name n :: r) (by simp)
    | .filtered, .symbol .pipe :: r =>
      (readName r).andThen fun name r1 h1 =>
        (readFilterArguments r1).andThen fun args r2 h2 =>
          (readTail .filtered next (.filter left name args) r2).build id (by simp; omega)
    | .lookup, .symbol .dot :: r =>
      match r with
      | .name n :: r1 => (readTail .lookup next (.attr left n) r1).build id (by simp)
      | .int i :: r1 =>
        (readTail .lookup next (.index left (.literal (.number (.int i)))) r1).build id
          (by simp)
      | r => .fail (.expectedAttribute r.head?)
    | .lookup, .symbol .openBracket :: r =>
      (readLevel .conditional r).andThen fun key r1 h1 =>
        (readSymbol .closeBracket r1).andThen fun _ r2 h2 =>
          (readTail .lookup next (.index left key) r2).build id (by simp; omega)
    | _, s => .done left s (by simp)
termination_by (s.length, 20)
decreasing_by
  all_goals (try have := operator?_length _ho)
  all_goals (simp_all [Prod.lex_def, Level.rank]; try omega)

/-- The arguments of a filter, which may have none. -/
def readFilterArguments (s : List Token) : Parsed (List Expr) (s.length + 1) :=
  match s with
  | .symbol .openParen :: r => (readArguments .closeParen r).build id (by simp; omega)
  | s => .done [] s (by simp)
termination_by (s.length, 0)
decreasing_by simp [Prod.lex_def]

/-- Expressions with commas between them, up to the closing symbol. -/
def readArguments (close : Symbol) (s : List Token) : Parsed (List Expr) s.length :=
  match s with
  | .symbol x :: r =>
    if x = close then .done [] r (by simp) else readMore close (.symbol x :: r)
  | s => readMore close s
termination_by (s.length, 22)
decreasing_by all_goals simp [Prod.lex_def]

/-- At least one expression, and the others behind commas, up to the closing symbol. -/
def readMore (close : Symbol) (s : List Token) : Parsed (List Expr) s.length :=
  (readLevel .conditional s).andThen fun e r h =>
    match r, h with
    | .symbol .comma :: r1, h => (readMore close r1).build (e :: ·) (by simp at h; omega)
    | r, h => (readSymbol close r).build (fun _ => [e]) (by omega)
termination_by (s.length, 21)
decreasing_by all_goals (simp_all [Prod.lex_def, Level.rank]; try omega)
end

/-! ### Whole texts -/

/-- The expression that all of the text is. -/
def parse (source : List Char) : Except SyntaxError Expr :=
  match Token.tokenize source with
  | .error e => .error (.token e)
  | .ok tokens =>
    match readLevel .conditional tokens with
    | .error e => .error e
    | .ok ⟨(e, []), _⟩ => .ok e
    | .ok ⟨(_, t :: _), _⟩ => .error (.trailing t (String.ofList (Text.trim source)))

end ClassScribe.Expr
