import ClassScribe.Proofs.Expr.Equality
import ClassScribe.Proofs.Number.Nearest

/-! # Integers in expressions

Integers are compared, and searched in sequences, by the binary numbers next to them (`ComparedAs`), so that
all comparisons of two integers are right just if these numbers differ (`ComparedAs.relates_iff`). Sums and
differences are exact for signed words, and rounded for others (`integers_rounded`). -/

namespace ClassScribe.Expr

open Binary64

variable {op : BinaryOp} {i j : Int} {x y : Binary64}

/-! ### Comparisons -/

/-- What a comparison says of two integers. -/
def BinaryOp.relates : BinaryOp → Int → Int → Bool
  | .eq, i, j => i == j
  | .ne, i, j => i != j
  | .lt, i, j => i < j
  | .le, i, j => i ≤ j
  | .gt, i, j => j < i
  | .ge, i, j => j ≤ i
  | _, _, _ => false

/-- The operators that compare. -/
def BinaryOp.comparisons : List BinaryOp := [.eq, .ne, .lt, .le, .gt, .ge]

theorem holds_compare (hop : op ∈ [BinaryOp.lt, .le, .gt, .ge]) (s t : Int) :
    BinaryOp.holds op (Ord.compare s t) = BinaryOp.relates op s t := by
  rw [Bool.eq_iff_iff]
  cases op with
  | lt | le | gt | ge =>
      simp [BinaryOp.holds, BinaryOp.relates, Int.compare_eq_lt, Int.compare_eq_gt, Int.isLE_compare,
        Int.isGE_compare]
  | _ => exact absurd hop (by decide)

theorem ne_of_mem_comparisons (hop : op ∈ BinaryOp.comparisons) : op ≠ .or ∧ op ≠ .and := by
  constructor
  · rintro rfl
    exact absurd hop (by decide)
  · rintro rfl
    exact absurd hop (by decide)

theorem valuesEqual_int (hi : ofInt? i = some x) (hj : ofInt? j = some y) :
    valuesEqual (.int i) (.int j) = (x.steps == y.steps) := by
  have hnumbers := valuesEqual_number (.int i) (.int j)
  rw [show (Number.int i).toBinary64? = some x from hi,
    show (Number.int j).toBinary64? = some y from hj, Option.rel_some_some] at hnumbers
  exact Bool.eq_iff_iff.mpr hnumbers

theorem applyBinary_comparison (hop : op ∈ BinaryOp.comparisons) (hi : ofInt? i = some x)
    (hj : ofInt? j = some y) :
    applyBinary op (.int i) (.int j) = .ok (.bool (BinaryOp.relates op x.steps y.steps)) := by
  have horder (op : BinaryOp) : compareBy op (.int i) (.int j) =
      .ok (.bool (BinaryOp.holds op (Ord.compare x.steps y.steps))) := by
    have hsome : order? (.int i) (.int j) = some (Ord.compare x.steps y.steps) := by
      show (do pure ((← ofInt? i).compare (← ofInt? j))) = _
      rw [hi, hj]
      rfl
    rw [compareBy, hsome]
  cases op with
  | eq =>
      show Except.ok (Value.bool (valuesEqual (.int i) (.int j))) = _
      rw [valuesEqual_int hi hj]
      rfl
  | ne =>
      show Except.ok (Value.bool (!valuesEqual (.int i) (.int j))) = _
      rw [valuesEqual_int hi hj]
      rfl
  | lt | le | gt | ge =>
      rw [← holds_compare (by decide)]
      exact horder _
  | _ => exact absurd hop (by decide)

theorem applyBinary_isIn (hi : ofInt? i = some x) (hj : ofInt? j = some y) :
    applyBinary .isIn (.int i) (.sequence [.int j]) = .ok (.bool (x.steps == y.steps)) := by
  have happly : applyBinary .isIn (.int i) (.sequence [.int j]) =
      .ok (.bool (valuesEqual (.int j) (.int i) || false)) := rfl
  rw [happly, valuesEqual_comm, valuesEqual_int hi hj, Bool.or_false]

/-- Two integers are compared, and searched in a sequence, as two numbers next to them. -/
structure ComparedAs (i j : Int) (x y : Binary64) : Prop where
  left_eq : ofInt? i = some x
  right_eq : ofInt? j = some y
  left : x.IsNearest (i * stepsToOne)
  right : y.IsNearest (j * stepsToOne)
  compares : ∀ op ∈ BinaryOp.comparisons,
    Gives op (.int i) (.int j) (.ok (.bool (BinaryOp.relates op x.steps y.steps)))
  isIn : Gives .isIn (.int i) (.sequence [.int j]) (.ok (.bool (x.steps == y.steps)))

theorem exists_comparedAs (hi : i.natAbs ≤ 2 ^ 64) (hj : j.natAbs ≤ 2 ^ 64) :
    ∃ x y, ComparedAs i j x y := by
  obtain ⟨x, hx, hleft⟩ := exists_ofInt? hi
  obtain ⟨y, hy, hright⟩ := exists_ofInt? hj
  have hcompares (op : BinaryOp) (hop : op ∈ BinaryOp.comparisons) :=
    (gives_iff (ne_of_mem_comparisons hop)).mpr (applyBinary_comparison hop hx hy)
  have hisIn := (gives_iff ⟨by decide, by decide⟩).mpr (applyBinary_isIn hx hy)
  exact ⟨x, y, hx, hy, hleft, hright, hcompares, hisIn⟩

/-- The order of integers is the order of the numbers next to them, unless these are the same. -/
theorem ComparedAs.relates_iff (h : ComparedAs i j x y) :
    (∀ op ∈ BinaryOp.comparisons, BinaryOp.relates op x.steps y.steps = BinaryOp.relates op i j) ↔
      (x.steps = y.steps → i = j) := by
  constructor
  · intro hall heq
    have hequal := hall .eq (by decide)
    simpa [BinaryOp.relates, heq] using hequal.symm
  · intro hexact op hop
    have horder : (x.steps < y.steps ↔ i < j) ∧ (y.steps < x.steps ↔ j < i) := by
      rcases Int.lt_trichotomy i j with hlt | rfl | hlt
      · have hle := h.left.le h.right (Int.mul_lt_mul_of_pos_right hlt stepsToOne_pos)
        omega
      · obtain rfl := Option.some.inj (h.left_eq.symm.trans h.right_eq)
        omega
      · have hle := h.right.le h.left (Int.mul_lt_mul_of_pos_right hlt stepsToOne_pos)
        omega
    rw [Bool.eq_iff_iff]
    cases op with
    | eq | ne | lt | le | gt | ge =>
        simp only [BinaryOp.relates, beq_iff_eq, bne_iff_ne, decide_eq_true_eq]
        omega
    | _ => exact absurd hop (by decide)

/-- Small integers and integers that are far from each other have different numbers next to them. -/
theorem ComparedAs.eq_of_steps_eq (h : ComparedAs i j x y) (hi : i.natAbs < 2 ^ 64)
    (hj : j.natAbs < 2 ^ 64)
    (hij : i.natAbs ≤ 2 ^ 53 ∧ j.natAbs ≤ 2 ^ 53 ∨ 2 ^ 11 < (i - j).natAbs)
    (heq : x.steps = y.steps) : i = j := by
  have hone := stepsToOne_pos
  rcases hij with ⟨hi', hj'⟩ | hfar
  · rw [h.left.eq_of_le hi', h.right.eq_of_le hj'] at heq
    exact Int.eq_of_mul_eq_mul_right hone.ne' heq
  · exfalso
    have hleft := h.left.near hi
    have hright := h.right.near hj
    have hsub : (i - j) * stepsToOne = i * stepsToOne - j * stepsToOne := Int.sub_mul ..
    have hnear : ((i - j) * stepsToOne).natAbs ≤ 2 ^ 11 * stepsToOne.natAbs := by omega
    rw [Int.natAbs_mul] at hnear
    exact absurd (Nat.le_of_mul_le_mul_right hnear (Int.natAbs_pos.mpr hone.ne')) (by omega)

/-! ### Sums and differences -/

theorem arithmetic_of_not_signed {onInt : Int → Int → Int} {onFloat : Binary64 → Binary64 → Option Binary64}
    (h : ¬(Number.InSignedRange i ∧ Number.InSignedRange j)) (hi : ofInt? i = some x)
    (hj : ofInt? j = some y) :
    arithmetic onInt onFloat (.int i) (.int j) = .ok (.ofFloat (onFloat x y)) := by
  have hx : (Number.int i).toBinary64? = some x := hi
  have hy : (Number.int j).toBinary64? = some y := hj
  unfold arithmetic
  rw [hx, hy]
  by_cases hsigned : Number.InSignedRange i
  · have hsome : (Number.int i).signed? = some i := if_pos hsigned
    have hnone : (Number.int j).signed? = none := if_neg fun hj => h ⟨hsigned, hj⟩
    rw [hsome, hnone]
    rfl
  · have hnone : (Number.int i).signed? = none := if_neg hsigned
    rw [hnone]
    rfl

/-- Other words are added and subtracted as the numbers next to them, with a result that is rounded again. -/
theorem ComparedAs.exists_arithmetic (h : ComparedAs i j x y)
    (hsigned : ¬(Number.InSignedRange i ∧ Number.InSignedRange j)) (hi : i.natAbs ≤ 2 ^ 64)
    (hj : j.natAbs ≤ 2 ^ 64) :
    ∃ z w : Binary64, z.IsNearest (x.steps + y.steps) ∧ w.IsNearest (x.steps - y.steps) ∧
      Gives .add (.int i) (.int j) (.ok (.number (.float z))) ∧
      Gives .sub (.int i) (.int j) (.ok (.number (.float w))) := by
  obtain ⟨z, hz, hsum⟩ := h.left.exists_add? h.right hi hj
  obtain ⟨w, hw, hdifference⟩ := h.left.exists_sub? h.right hi hj
  refine ⟨z, w, hsum, hdifference, ?_, ?_⟩
  · rw [gives_iff ⟨by decide, by decide⟩]
    show arithmetic (· + ·) Binary64.add? (.int i) (.int j) = _
    rw [arithmetic_of_not_signed hsigned h.left_eq h.right_eq, hz]
    rfl
  · rw [gives_iff ⟨by decide, by decide⟩]
    show arithmetic (· - ·) Binary64.sub? (.int i) (.int j) = _
    rw [arithmetic_of_not_signed hsigned h.left_eq h.right_eq, hw]
    rfl

/-- Two integers of a word are compared, and searched in a sequence, as numbers next to them. So all comparisons
are right just if different integers have different numbers next to them, as integers up to `2 ^ 53` have,
and integers that are more than `2 ^ 11` apart. Sums and differences of signed words are exact, or an
overflow; those of other words are floating-point numbers, next to what the numbers next to them come to. -/
theorem integers_rounded (hi : Number.InRange i) (hj : Number.InRange j) :
    ∃ x y : Binary64, ComparedAs i j x y ∧
      ((∀ op ∈ BinaryOp.comparisons,
          Gives op (.int i) (.int j) (.ok (.bool (BinaryOp.relates op i j)))) ↔
        (x.steps = y.steps → i = j)) ∧
      (i.natAbs ≤ 2 ^ 53 ∧ j.natAbs ≤ 2 ^ 53 ∨ 2 ^ 11 < (i - j).natAbs → x.steps = y.steps → i = j) ∧
      (Number.InSignedRange i → Number.InSignedRange j →
        Gives .add (.int i) (.int j)
          (if Number.InSignedRange (i + j) then .ok (.int (i + j)) else .error .overflow) ∧
        Gives .sub (.int i) (.int j)
          (if Number.InSignedRange (i - j) then .ok (.int (i - j)) else .error .overflow)) ∧
      (¬(Number.InSignedRange i ∧ Number.InSignedRange j) →
        ∃ z w : Binary64, z.IsNearest (x.steps + y.steps) ∧ w.IsNearest (x.steps - y.steps) ∧
          Gives .add (.int i) (.int j) (.ok (.number (.float z))) ∧
          Gives .sub (.int i) (.int j) (.ok (.number (.float w)))) := by
  unfold Number.InRange at hi hj
  have hi' : i.natAbs < 2 ^ 64 := by omega
  have hj' : j.natAbs < 2 ^ 64 := by omega
  obtain ⟨x, y, h⟩ := exists_comparedAs hi'.le hj'.le
  refine ⟨x, y, h, ?_, h.eq_of_steps_eq hi' hj', ?_, fun hs => h.exists_arithmetic hs hi'.le hj'.le⟩
  · rw [← h.relates_iff]
    refine forall₂_congr fun op hop => ?_
    rw [gives_iff (ne_of_mem_comparisons hop), applyBinary_comparison hop h.left_eq h.right_eq]
    simp
  · intro hsi hsj
    rw [gives_iff ⟨by decide, by decide⟩, gives_iff ⟨by decide, by decide⟩]
    exact ⟨arithmetic_of_signed hsi hsj, arithmetic_of_signed hsi hsj⟩

/-- At the end of the signed words. -/
theorem integers_rounded_limit : Number.InRange 0x7FFFFFFFFFFFFFFF ∧ Number.InRange 1 ∧
    Gives .gt (.int 0x7FFFFFFFFFFFFFFF) (.int 1) (.ok (.bool true)) ∧
    Gives .add (.int 0x7FFFFFFFFFFFFFFF) (.int 1) (.error .overflow) ∧
    Gives .sub (.int 0x7FFFFFFFFFFFFFFF) (.int 1) (.ok (.int 0x7FFFFFFFFFFFFFFE)) := by
  have hi : Number.InRange 0x7FFFFFFFFFFFFFFF := by decide
  have hj : Number.InRange 1 := by decide
  obtain ⟨x, y, -, hexact, hfar, hsigned, -⟩ := integers_rounded hi hj
  have hcompares := hexact.mpr (hfar (.inr (by decide)))
  obtain ⟨hadd, hsub⟩ := hsigned (by decide) (by decide)
  exact ⟨hi, hj, hcompares .gt (by decide), hadd, hsub⟩

/-- Two integers that differ by one are equal, and a sum beyond the signed words is a floating-point number. -/
theorem integers_lose_units :
    Gives .eq (.int 9007199254740993) (.int 9007199254740992) (.ok (.bool true)) ∧
    Gives .lt (.int 9007199254740992) (.int 9007199254740993) (.ok (.bool false)) ∧
    Gives .isIn (.int 9007199254740993) (.sequence [.int 9007199254740992]) (.ok (.bool true)) ∧
    Gives .add (.int 0x8000000000000000) (.int 1)
      (.ok (.number (.float ⟨false, 1 <<< 52, 11, by decide⟩))) := by
  have hleft : ofInt? 9007199254740993 = some ⟨false, 1 <<< 52, 1, by decide⟩ := by decide +kernel
  have hright : ofInt? 9007199254740992 = some ⟨false, 1 <<< 52, 1, by decide⟩ := by decide +kernel
  have hlarge : ofInt? 0x8000000000000000 = some ⟨false, 1 <<< 52, 11, by decide⟩ := by decide +kernel
  have hone : ofInt? 1 = some ⟨false, 1 <<< 52, -52, by decide⟩ := by decide +kernel
  have hsum : add? ⟨false, 1 <<< 52, 11, by decide⟩ ⟨false, 1 <<< 52, -52, by decide⟩ =
      some ⟨false, 1 <<< 52, 11, by decide⟩ := by decide +kernel
  refine ⟨(gives_iff ⟨by decide, by decide⟩).mpr ?_, (gives_iff ⟨by decide, by decide⟩).mpr ?_,
    (gives_iff ⟨by decide, by decide⟩).mpr ?_, (gives_iff ⟨by decide, by decide⟩).mpr ?_⟩
  · rw [applyBinary_comparison (by decide) hleft hright, BinaryOp.relates, beq_self_eq_true]
  · rw [applyBinary_comparison (by decide) hright hleft, BinaryOp.relates]
    simp
  · rw [applyBinary_isIn hleft hright, beq_self_eq_true]
  · show arithmetic (· + ·) Binary64.add? (.int 0x8000000000000000) (.int 1) = _
    rw [arithmetic_of_not_signed (by decide) hlarge hone, hsum]
    rfl

end ClassScribe.Expr
