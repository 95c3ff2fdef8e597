import ClassScribe.Expr.Basic
import ClassScribe.Expr.Filter

/-! # Evaluating expressions

A scope gives values to names. A lookup may miss its target; only where a value is needed is that
an error, so that `is defined` and `default` can ask about what is not there. Where an operation
stops the program, evaluation halts. -/

namespace ClassScribe

/-- The variables that an expression can see. -/
abbrev Lookup := String → Option Value

namespace Expr

/-! ### Errors -/

/-- What is wrong with the operands of an operator. -/
inductive TypeFault
  | negate (kind : Kind)
  | compare (left right : Kind)
  | searchText (kind : Kind)
  | searchIn (kind : Kind)
  | overflow
  | add (left right : Kind)
  | subtract (left right : Kind)
  | print (kind : Kind)
  deriving DecidableEq, Repr

/-- The text of a fault. -/
def TypeFault.message : TypeFault → String
  | .negate kind => "cannot negate " ++ kind.name
  | .compare left right => "cannot compare " ++ left.name ++ " with " ++ right.name
  | .searchText kind => "cannot search a string for " ++ kind.name
  | .searchIn kind => "cannot search in " ++ kind.name
  | .overflow => "integer overflow"
  | .add left right => "cannot add " ++ left.name ++ " and " ++ right.name
  | .subtract left right => "cannot subtract " ++ right.name ++ " from " ++ left.name
  | .print kind => "cannot print " ++ kind.name

/-- Why an expression has no value, with the expression to blame as messages show it. -/
inductive EvalError
  | undefined (subject : String)
  | filter (subject : String) (cause : Filter.Error)
  | type (subject : String) (cause : TypeFault)
  deriving DecidableEq, Repr

/-- The expression to blame. -/
def EvalError.subject : EvalError → String
  | .undefined v => v
  | .filter v _ => v
  | .type v _ => v

/-- The text of the failure. -/
def EvalError.message : EvalError → String
  | .undefined _ => "undefined variable"
  | .filter _ cause => cause.message
  | .type _ cause => cause.message

/-! ### Operators -/

/-- Equality in expressions: two numbers are compared as binary numbers; numbers inside sequences and
mappings must also be of one kind. -/
def valuesEqual : Value → Value → Bool
  | .number a, .number b =>
    match a.toBinary64?, b.toBinary64? with
    | some x, some y => x.beq y
    | none, none => true
    | _, _ => false
  | a, b => a.same b

/-- The order of two numbers or two texts. -/
def order? : Value → Value → Option Ordering
  | .number a, .number b => do pure ((← a.toBinary64?).compare (← b.toBinary64?))
  | .text a, .text b => some (compare a b)
  | _, _ => none

/-- The outcome of a comparison. -/
def BinaryOp.holds : BinaryOp → Ordering → Bool
  | .lt, o => o.isLT
  | .le, o => o.isLE
  | .gt, o => o.isGT
  | .ge, o => o.isGE
  | _, _ => false

/-- A comparison by order. -/
def compareBy (op : BinaryOp) (left right : Value) : Except TypeFault Value :=
  match order? left right with
  | some o => .ok (.bool (BinaryOp.holds op o))
  | none => .error (.compare left.kind right.kind)

/-- Whether a value occurs in a text, in a sequence, or as a key of a mapping. -/
def contains (needle haystack : Value) : Except TypeFault Bool :=
  match haystack with
  | .text s =>
    match needle with
    | .text t => .ok (Text.occursIn t.toList s.toList)
    | v => .error (.searchText v.kind)
  | .sequence items => .ok (items.any (valuesEqual · needle))
  | .mapping fields =>
    match needle with
    | .text key => .ok (Value.field? fields key).isSome
    | _ => .ok false
  | v => .error (.searchIn v.kind)

/-- An integer result, if a signed word holds it. -/
def signedResult (i : Int) : Except TypeFault Value :=
  if Number.InSignedRange i then .ok (.int i) else .error .overflow

/-- The sum or difference of two numbers: exact for signed words, rounded for all others. -/
def arithmetic (onInt : Int → Int → Int) (onFloat : Binary64 → Binary64 → Option Binary64)
    (a b : Number) : Except TypeFault Value :=
  match a.signed?, b.signed? with
  | some i, some j => signedResult (onInt i j)
  | _, _ =>
    .ok (.ofFloat (onFloat (a.toBinary64?.getD default) (b.toBinary64?.getD default)))

/-- The value of an operator other than `or` and `and`. -/
def applyBinary (op : BinaryOp) (left right : Value) : Except TypeFault Value :=
  match op with
  | .eq => .ok (.bool (valuesEqual left right))
  | .ne => .ok (.bool (!valuesEqual left right))
  | .lt | .le | .gt | .ge => compareBy op left right
  | .isIn => (contains left right).map .bool
  | .notIn => (contains left right).map fun b => .bool !b
  | .add =>
    match left, right with
    | .number a, .number b => arithmetic (· + ·) Binary64.add? a b
    | .text a, .text b => .ok (.text (a ++ b))
    | .sequence xs, .sequence ys => .ok (.sequence (xs ++ ys))
    | _, _ => .error (.add left.kind right.kind)
  | .sub =>
    match left, right with
    | .number a, .number b => arithmetic (· - ·) Binary64.sub? a b
    | _, _ => .error (.subtract left.kind right.kind)
  | .concat =>
    match left.display?, right.display? with
    | some a, some b => .ok (.text (a ++ b))
    | none, _ => .error (.print left.kind)
    | _, none => .error (.print right.kind)
  | .or | .and => .ok right

/-- The negative of a number: exact for signed words, but the least of them has none. -/
def negate (n : Number) : Except Halt Value :=
  match n.signed? with
  | some i => if Number.InSignedRange (-i) then .ok (.int (-i)) else .error .negation
  | none => .ok (.ofFloat (n.toBinary64?.map Binary64.neg))

/-- The item of a sequence at an index, which counts from the end if it is negative. -/
def item? (items : List Value) (i : Int) : Option Value :=
  let i := if i < 0 then items.length + i else i
  if i < 0 then none else items[i.toNat]?

/-- The part of a value that a key selects. -/
def select? (container key : Value) : Option Value :=
  match container, key with
  | .sequence items, .number n => n.signed?.bind (item? items)
  | .mapping fields, .text k => Value.field? fields k
  | _, _ => none

/-- Whether a value, if there is one, has a property. -/
def Property.holds : Property → Option Value → Bool
  | .defined, v => v.isSome
  | .undefined, v => v.isNone
  | .none, v => v.any (·.kind == .none)
  | .string, v => v.any (·.kind == .string)
  | .number, v => v.any (·.kind == .number)
  | .sequence, v => v.any (·.kind == .sequence)
  | .mapping, v => v.any (·.kind == .mapping)

/-! ### Evaluation -/

/-- A value where one is needed. -/
def require (e : Expr) (v : Option Value) : Except (Stop EvalError) Value :=
  match v with
  | some v => .ok v
  | none => .error (.error (.undefined e.describe))

mutual
/-- The value of an expression, or nothing where a lookup misses its target. -/
def find (scope : Lookup) : Expr → Except (Stop EvalError) (Option Value)
  | .literal l => .ok (some l.value)
  | .list items => do return some (.sequence (← evalItems scope items))
  | .var name => .ok (scope name)
  | .attr base name => do
    match ← find scope base with
    | some (.mapping fields) => return Value.field? fields name
    | _ => return none
  | .index base key => do
    match ← find scope base with
    | none => return none
    | some container => return select? container (← require key (← find scope key))
  | .filter input name args => do
    let value ← find scope input
    let value ← if name = "default" then pure (value.getD .none) else require input value
    let args ← evalItems scope args
    match Filter.applyName name value args with
    | .ok v => return some v
    | .error stop => throw (stop.map (.filter input.describe))
  | .test input property negated => do
    return some (.bool (Property.holds property (← find scope input) != negated))
  | .not operand => do
    return some (.bool !(← require operand (← find scope operand)).truthy)
  | .neg operand => do
    match ← require operand (← find scope operand) with
    | .number n =>
      match negate n with
      | .ok v => return some v
      | .error halt => throw (.halt halt)
    | v => throw (.error (.type operand.describe (.negate v.kind)))
  | .binary op left right => do
    let l ← require left (← find scope left)
    match op, l.truthy with
    | .or, true => return some l
    | .and, false => return some l
    | _, _ =>
      let r ← require right (← find scope right)
      match applyBinary op l r with
      | .ok v => return some v
      | .error fault => throw (.error (.type left.describe fault))
  | .conditional yes condition no => do
    if (← require condition (← find scope condition)).truthy then
      return some (← require yes (← find scope yes))
    else return some (← require no (← find scope no))
/-- The values of a list of expressions. -/
def evalItems (scope : Lookup) : List Expr → Except (Stop EvalError) (List Value)
  | [] => .ok []
  | e :: rest => do
    let v ← require e (← find scope e)
    return v :: (← evalItems scope rest)
end

/-- The value of an expression. -/
def eval (scope : Lookup) (e : Expr) : Except (Stop EvalError) Value := do
  require e (← find scope e)

end Expr
end ClassScribe
