import ClassScribe.Expr.Eval

/-! # Where an evaluation stops

The parts of an expression, and why a part has no value although the parts of it have theirs. -/

namespace ClassScribe.Expr

mutual
/-- The expressions that an expression is made of, beginning with itself. -/
def parts : Expr → List Expr
  | .literal l => [.literal l]
  | .list items => .list items :: partsOf items
  | .var name => [.var name]
  | .attr base name => .attr base name :: parts base
  | .index base key => .index base key :: (parts base ++ parts key)
  | .filter input name args => .filter input name args :: (parts input ++ partsOf args)
  | .test input property negated => .test input property negated :: parts input
  | .not operand => .not operand :: parts operand
  | .neg operand => .neg operand :: parts operand
  | .binary op left right => .binary op left right :: (parts left ++ parts right)
  | .conditional yes condition no =>
    .conditional yes condition no :: (parts yes ++ parts condition ++ parts no)
/-- The expressions that a list of expressions is made of. -/
def partsOf : List Expr → List Expr
  | [] => []
  | e :: rest => parts e ++ partsOf rest
end

theorem self_mem_parts (e : Expr) : e ∈ e.parts := by
  cases e <;> exact List.mem_cons_self

/-- Why an expression has no value although its operands have theirs. -/
inductive Stops (scope : Lookup) : Expr → Stop EvalError → Prop
  /-- A lookup misses its target. -/
  | missing {e : Expr} : e.find scope = .ok none → Stops scope e (.error (.undefined e.describe))
  /-- A filter has no result. A missing input is an error but for the filter `default`. -/
  | filter {input : Expr} {name : String} {args : List Expr} {v : Value} {vs : List Value}
      {stop : Stop Filter.Error} :
      (name ≠ "default" → input.eval scope = .ok v) → evalItems scope args = .ok vs →
      Filter.applyName name v vs = .error stop →
      Stops scope (.filter input name args) (stop.map (.filter input.describe))
  /-- A number has no negative. -/
  | negative {operand : Expr} {n : Number} {halt : Halt} :
      operand.eval scope = .ok (.number n) → negate n = .error halt →
      Stops scope (.neg operand) (.halt halt)
  /-- What is to be negated is no number. -/
  | negation {operand : Expr} {v : Value} :
      operand.eval scope = .ok v → Stops scope (.neg operand) (.error (.type operand.describe (.negate v.kind)))
  /-- An operator does not go with its operands. -/
  | operator {op : BinaryOp} {left right : Expr} {l r : Value} {fault : TypeFault} :
      left.eval scope = .ok l → right.eval scope = .ok r → applyBinary op l r = .error fault →
      Stops scope (.binary op left right) (.error (.type left.describe fault))

/-- The operations at which the program stops: padding by a number of spaces that no memory holds, and
the negative of the least signed word. -/
inductive Overflows (scope : Lookup) : Expr → Halt → Prop
  | capacity {input : Expr} {args : List Expr} {text : String} {n : Number} {width : Nat}
      {more : List Value} :
      input.eval scope = .ok (.text text) → evalItems scope args = .ok (.number n :: more) →
      n.unsigned? = some width → Filter.capacity ≤ width →
      Overflows scope (.filter input "indent" args) .capacity
  | negation {operand : Expr} {n : Number} :
      operand.eval scope = .ok (.number n) → n.signed? = some (-0x8000000000000000) →
      Overflows scope (.neg operand) .negation

end ClassScribe.Expr
