import ClassScribe.Expr.Parser

/-! # Writing expressions

The tokens that an expression is written with, brackets only where the levels of binding ask for
them, and the texts that spell tokens: any white space may stand between two tokens, and some has to
where they would run together. -/

namespace ClassScribe
namespace Expr

/-! ### Levels -/

/-- The level that the operands of a level are read at. -/
def Level.tighter : Level → Level
  | .conditional => .or
  | .or => .and
  | .and => .not
  | .not => .comparison
  | .comparison => .additive
  | .additive => .unary
  | .unary => .filtered
  | .filtered => .lookup
  | .lookup => .primary
  | .primary => .primary

/-- The level of an operator. -/
def operatorLevel : BinaryOp → Level
  | .or => .or
  | .and => .and
  | .eq | .ne | .lt | .le | .gt | .ge | .isIn | .notIn => .comparison
  | .add | .sub | .concat => .additive

/-- The level that an expression is read at without brackets around it. -/
def level : Expr → Level
  | .literal _ | .list _ | .var _ => .primary
  | .attr _ _ | .index _ _ => .lookup
  | .filter _ _ _ => .filtered
  | .test _ _ _ => .comparison
  | .not _ => .not
  | .neg _ => .unary
  | .binary op _ _ => operatorLevel op
  | .conditional _ _ _ => .conditional

/-! ### Tokens -/

/-- The token of a constant. -/
def literalToken : Literal → Token
  | .none => .name "none"
  | .bool true => .name "true"
  | .bool false => .name "false"
  | .number (.int i) => .int i.toNat
  | .number (.float x) => .float (some x)
  | .text s => .text s

/-- The tokens of an operator. -/
def operatorTokens : BinaryOp → List Token
  | .or => [.name "or"]
  | .and => [.name "and"]
  | .eq => [.symbol .eq]
  | .ne => [.symbol .ne]
  | .lt => [.symbol .lt]
  | .le => [.symbol .le]
  | .gt => [.symbol .gt]
  | .ge => [.symbol .ge]
  | .isIn => [.name "in"]
  | .notIn => [.name "not", .name "in"]
  | .add => [.symbol .plus]
  | .sub => [.symbol .minus]
  | .concat => [.symbol .tilde]

/-- The tokens of a test behind its operand. -/
def testTokens (property : Property) (negated : Bool) : List Token :=
  .name "is" :: (if negated then [.name "not"] else []) ++ [.name property.name]

/-- The tokens of an expression of the level `inner` where one of the level `outer` stands: in
brackets if it binds looser. -/
def enclose (outer inner : Level) (tokens : List Token) : List Token :=
  if outer.rank < inner.rank then .symbol .openParen :: tokens ++ [.symbol .closeParen] else tokens

mutual
/-- The tokens of an expression. -/
def tokens : Expr → List Token
  | .literal l => [literalToken l]
  | .list items => .symbol .openBracket :: itemTokens items ++ [.symbol .closeBracket]
  | .var name => [.name name]
  | .attr base name => enclose .lookup base.level (tokens base) ++ [.symbol .dot, .name name]
  | .index base key =>
    enclose .lookup base.level (tokens base) ++
      .symbol .openBracket :: tokens key ++ [.symbol .closeBracket]
  | .filter input name args =>
    enclose .filtered input.level (tokens input) ++ .symbol .pipe :: .name name ::
      (if args.isEmpty then []
        else .symbol .openParen :: itemTokens args ++ [.symbol .closeParen])
  | .test input property negated =>
    enclose .comparison input.level (tokens input) ++ testTokens property negated
  | .not operand => .name "not" :: enclose .not operand.level (tokens operand)
  | .neg operand => .symbol .minus :: enclose .unary operand.level (tokens operand)
  | .binary op left right =>
    enclose (operatorLevel op) left.level (tokens left) ++ operatorTokens op ++
      enclose (operatorLevel op).tighter right.level (tokens right)
  | .conditional yes condition no =>
    enclose .or yes.level (tokens yes) ++ .name "if" ::
      enclose .or condition.level (tokens condition) ++ .name "else" :: tokens no
/-- The tokens of expressions with commas between them. -/
def itemTokens : List Expr → List Token
  | [] => []
  | [e] => tokens e
  | e :: f :: rest => tokens e ++ .symbol .comma :: itemTokens (f :: rest)
end

/-- The tokens of an expression where one of the level `l` stands. -/
def tokensAt (l : Level) (e : Expr) : List Token := enclose l e.level e.tokens

/-! ### Expressions that can be written -/

/-- The words that do not name a variable: the constants, and `not`, which an operand may start with.
The other words with a meaning stand behind an operand only. -/
def reserved : List String := ["true", "True", "false", "False", "none", "None", "not"]

/-- Whether a constant has a token: an integer has to be a signed word without a sign. -/
def Literal.isWritable : Literal → Bool
  | .number (.int i) => 0 ≤ i && i ≤ 0x7FFFFFFFFFFFFFFF
  | .number (.float _) => false
  | .none | .bool _ | .text _ => true

mutual
/-- Whether an expression can be written: its names are identifiers, its variables are not reserved,
and its constants have tokens. -/
def isWritable : Expr → Bool
  | .literal l => Literal.isWritable l
  | .list items => areWritable items
  | .var name => Text.isIdentifier name.toList && !reserved.contains name
  | .attr base name => isWritable base && Text.isIdentifier name.toList
  | .index base key => isWritable base && isWritable key
  | .filter input name args =>
    isWritable input && Text.isIdentifier name.toList && areWritable args
  | .test input _ _ => isWritable input
  | .not operand => isWritable operand
  | .neg operand => isWritable operand
  | .binary _ left right => isWritable left && isWritable right
  | .conditional yes condition no => isWritable yes && isWritable condition && isWritable no
/-- Whether all expressions of a list can be written. -/
def areWritable : List Expr → Bool
  | [] => true
  | e :: rest => isWritable e && areWritable rest
end

end Expr

/-! ### Texts of tokens -/

namespace Token

/-- A character of a string between double quotes. -/
def escape (c : Char) : List Char := if c = '"' ∨ c = '\\' then ['\\', c] else [c]

/-- How a token is written. -/
def spelling : Token → List Char
  | .name n => n.toList
  | .text s => '"' :: s.toList.flatMap escape ++ ['"']
  | .int i => digitsOf i
  | .float (some x) => x.plainText
  | .float none => []
  | .symbol s => s.text.toList

/-- Whether a text does not carry on a number: it starts with no digit, and with no point before
one. -/
def endsNumber : List Char → Bool
  | '.' :: d :: _ => !d.isDigit
  | c :: _ => !c.isDigit
  | [] => true

/-- Whether a token ends where a text starts: the text does not carry on a name, a number or a
comparison sign. -/
def endsBefore : Token → List Char → Bool
  | .name _, c :: _ => !Text.isIdentPart c
  | .int _, s => endsNumber s
  | .symbol .lt, c :: _ | .symbol .gt, c :: _ => c != '='
  | _, _ => true

/-- The texts that tokens can be written as: each token in its spelling, with white space anywhere
before, between and behind them, and no token running into the next one. -/
inductive Spells : List Char → List Token → Prop
  | done : Spells [] []
  | blank {c : Char} {s : List Char} {ts : List Token} :
      Text.isAsciiBlank c = true → Spells s ts → Spells (c :: s) ts
  | token {t : Token} {s : List Char} {ts : List Token} :
      t.endsBefore s = true → Spells s ts → Spells (t.spelling ++ s) (t :: ts)

/-- The tokens with a space behind each. -/
def spaced (ts : List Token) : List Char := ts.flatMap fun t => t.spelling ++ [' ']

end Token

/-- The text of an expression with a space behind every token. -/
def Expr.source (e : Expr) : List Char := Token.spaced e.tokens

end ClassScribe
