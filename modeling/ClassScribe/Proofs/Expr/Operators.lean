import ClassScribe.Proofs.Expr.Evaluation
import ClassScribe.Proofs.Outcome

/-! # Operators on values

What an operator comes to depends on the values of its operands alone, and not on the expressions that have
these values (`gives_iff`). -/

namespace ClassScribe.Expr

variable {op : BinaryOp} {x y : Value} {outcome : Except TypeFault Value}

/-- What an operator comes to on two values, whatever expressions have these values. A fault is blamed on the
left expression. -/
def Gives (op : BinaryOp) (x y : Value) (outcome : Except TypeFault Value) : Prop :=
  ∀ (scope : Lookup) (a b : Expr), a.eval scope = .ok x → b.eval scope = .ok y →
    (binary op a b).eval scope = outcome.mapError fun fault => .error (.type a.describe fault)

theorem gives_iff (hop : op ≠ .or ∧ op ≠ .and) : Gives op x y outcome ↔ applyBinary op x y = outcome := by
  constructor
  · intro h
    have hscope := h (fun name => if name = "x" then some x else some y) (.var "x") (.var "y")
      (eval_var rfl) (eval_var rfl)
    rw [eval_binary hop (eval_var rfl) (eval_var rfl)] at hscope
    refine (mapError_inj fun d e h => ?_).mp hscope
    cases h
    rfl
  · rintro rfl scope a b ha hb
    exact eval_binary hop ha hb

end ClassScribe.Expr
