import Mathlib.Tactic.Common
import ClassScribe.Expr.Eval

/-! # Evaluating expressions piece by piece

How the value of an expression comes from the values of its parts, for the expressions that have
one. -/

namespace ClassScribe.Expr

section
variable {lookup : Lookup} {e : Expr} {v : Value}

theorem find_of_eval (h : e.eval lookup = .ok v) : e.find lookup = .ok (some v) := by
  unfold eval at h
  cases hf : e.find lookup with
  | error cause =>
      rw [hf] at h
      cases h
  | ok found =>
      rw [hf] at h
      cases found with
      | none => cases h
      | some u =>
          cases h
          rfl

theorem eval_of_find (h : e.find lookup = .ok (some v)) : e.eval lookup = .ok v := by
  unfold eval
  rw [h]
  rfl

theorem eval_literal (l : Literal) : (literal l).eval lookup = .ok l.value := rfl

theorem eval_var {name : String} (h : lookup name = some v) : (var name).eval lookup = .ok v := by
  refine eval_of_find ?_
  show Except.ok (lookup name) = _
  rw [h]

theorem eval_attr {base : Expr} {name : String} {fields : List (String × Value)}
    (hb : base.eval lookup = .ok (.mapping fields)) (hf : Value.field? fields name = some v) :
    (attr base name).eval lookup = .ok v := by
  refine eval_of_find ?_
  show (find lookup base >>= _) = _
  rw [find_of_eval hb]
  show Except.ok (Value.field? fields name) = _
  rw [hf]

theorem eval_not (h : e.eval lookup = .ok v) : (not e).eval lookup = .ok (.bool !v.truthy) := by
  refine eval_of_find ?_
  show (find lookup e >>= _) = _
  rw [find_of_eval h]
  rfl

theorem evalItems_nil : evalItems lookup [] = .ok [] := rfl

theorem evalItems_cons {rest : List Expr} {vs : List Value} (he : e.eval lookup = .ok v)
    (hr : evalItems lookup rest = .ok vs) : evalItems lookup (e :: rest) = .ok (v :: vs) := by
  show (find lookup e >>= _) = _
  rw [find_of_eval he]
  show (evalItems lookup rest >>= _) = _
  rw [hr]
  rfl

theorem eval_filter {name : String} {args : List Expr} {u : Value} {us : List Value}
    (he : e.eval lookup = .ok u) (ha : evalItems lookup args = .ok us) (hn : name ≠ "default")
    (hf : Filter.applyName name u us = .ok v) : (filter e name args).eval lookup = .ok v := by
  refine eval_of_find ?_
  show (find lookup e >>= _) = _
  rw [find_of_eval he]
  dsimp only [bind, Except.bind]
  rw [if_neg hn]
  dsimp only [require]
  rw [ha]
  dsimp only
  rw [hf]
  rfl

/-- An operator other than `or` and `and` is applied to the values of its operands. -/
theorem find_binary {op : BinaryOp} {f : Expr} {w : Value} (hop : op ≠ .or ∧ op ≠ .and)
    (he : e.eval lookup = .ok v) (hf : f.eval lookup = .ok w) :
    (binary op e f).find lookup =
      ((applyBinary op v w).map some).mapError fun fault => .error (.type e.describe fault) := by
  show (find lookup e >>= _) = _
  rw [find_of_eval he]
  cases op with
  | or => exact absurd rfl hop.1
  | and => exact absurd rfl hop.2
  | _ =>
      show (find lookup f >>= _) = _
      rw [find_of_eval hf]
      dsimp only [bind, Except.bind, require]
      cases applyBinary _ v w <;> rfl

theorem eval_binary {op : BinaryOp} {f : Expr} {w : Value} (hop : op ≠ .or ∧ op ≠ .and)
    (he : e.eval lookup = .ok v) (hf : f.eval lookup = .ok w) :
    (binary op e f).eval lookup =
      (applyBinary op v w).mapError fun fault => .error (.type e.describe fault) := by
  unfold eval
  rw [find_binary hop he hf]
  cases applyBinary op v w <;> rfl

theorem arithmetic_of_signed {onInt : Int → Int → Int} {onFloat : Binary64 → Binary64 → Option Binary64}
    {i j : Int} (hi : Number.InSignedRange i) (hj : Number.InSignedRange j) :
    arithmetic onInt onFloat (.int i) (.int j) = signedResult (onInt i j) := by
  have hsi : (Number.int i).signed? = some i := if_pos hi
  have hsj : (Number.int j).signed? = some j := if_pos hj
  unfold arithmetic
  rw [hsi, hsj]

theorem eval_add {f : Expr} {i j : Int} (he : e.eval lookup = .ok (.int i))
    (hf : f.eval lookup = .ok (.int j)) (hi : Number.InSignedRange i) (hj : Number.InSignedRange j)
    (hij : Number.InSignedRange (i + j)) : (binary .add e f).eval lookup = .ok (.int (i + j)) := by
  have hsum : applyBinary .add (.int i) (.int j) = .ok (.int (i + j)) :=
    (arithmetic_of_signed hi hj).trans (if_pos hij)
  rw [eval_binary ⟨by decide, by decide⟩ he hf, hsum]
  rfl

theorem applyName_format_eq (input : Value) (args : List Value) :
    Filter.applyName "format" input args = Filter.apply .format input args := by
  have hn : Filter.ofName? "format" = some .format := by decide +kernel
  unfold Filter.applyName
  rw [hn]

theorem applyName_format {pattern : String} {args : List Value} {s : List Char}
    (h : Filter.substitute pattern.toList args = .ok s) :
    Filter.applyName "format" (.text pattern) args = .ok (.text (String.ofList s)) := by
  rw [applyName_format_eq]
  dsimp only [Filter.apply, Filter.formatText]
  rw [h]

theorem applyName_indent {width : Nat} (hw : width < Filter.capacity) (s : String) :
    Filter.applyName "indent" (.text s) [.int width, .bool true] =
      .ok (.text (String.ofList (Text.indent (List.replicate width ' ') true s.toList))) := by
  have hn : Filter.ofName? "indent" = some .indent := by decide +kernel
  have hp : Filter.padding (some (.int width)) = .ok (List.replicate width ' ') := by
    have hu : (Number.int width).unsigned? = some width := by
      show (if 0 ≤ (width : Int) then some (Int.toNat width) else none) = _
      rw [if_pos (Int.natCast_nonneg width), Int.toNat_natCast]
    unfold Filter.padding
    dsimp only [Value.int]
    rw [hu]
    exact if_pos hw
  unfold Filter.applyName
  rw [hn]
  dsimp only [Filter.apply, Filter.indentText]
  rw [List.head?_cons, hp]
  rfl

end
end ClassScribe.Expr
