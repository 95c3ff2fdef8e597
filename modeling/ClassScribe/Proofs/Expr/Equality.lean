import ClassScribe.Proofs.Expr.Operators
import ClassScribe.Proofs.Lookup

/-! # Equality

Inside sequences and mappings values are compared by `same`, which tells integers from floating-point
numbers; elsewhere numbers are equal if the binary numbers next to them are (`same_iff`). So sequences and
mappings are equal if they are equal item by item and no numbers of different kinds meet (`equal_congr`),
while a sequence holds each value that is equal to an item (`isIn_iff`). -/

namespace ClassScribe

theorem Binary64.beq_comm (a b : Binary64) : a.beq b = b.beq a := BEq.comm

theorem Number.same_comm (a b : Number) : a.same b = b.same a := by
  cases a with
  | int i =>
      cases b with
      | int j => exact BEq.comm
      | float y => rfl
  | float x =>
      cases b with
      | int j => rfl
      | float y => exact Binary64.beq_comm x y

namespace Value

variable {x y : Value} {xs ys : List Value} {fs gs : List (String × Value)} {key : String}

/-! ### Sequences and mappings -/

mutual
theorem same_comm (x y : Value) : x.same y = y.same x := by
  cases x with
  | none => cases y <;> rfl
  | bool a =>
      cases y with
      | bool b => exact BEq.comm
      | _ => rfl
  | number a =>
      cases y with
      | number b => exact Number.same_comm a b
      | _ => rfl
  | text a =>
      cases y with
      | text b => exact BEq.comm
      | _ => rfl
  | sequence xs =>
      cases y with
      | sequence ys => exact sameItems_comm xs ys
      | _ => rfl
  | mapping fs =>
      cases y with
      | mapping gs => exact sameFields_comm fs gs
      | _ => rfl
theorem sameItems_comm (xs ys : List Value) : sameItems xs ys = sameItems ys xs := by
  cases xs with
  | nil => cases ys <;> rfl
  | cons x xs =>
      cases ys with
      | nil => rfl
      | cons y ys => exact congrArg₂ and (same_comm x y) (sameItems_comm xs ys)
theorem sameFields_comm (fs gs : List (String × Value)) : sameFields fs gs = sameFields gs fs := by
  cases fs with
  | nil => cases gs <;> rfl
  | cons f fs =>
      cases gs with
      | nil => rfl
      | cons g gs =>
          obtain ⟨k, x⟩ := f
          obtain ⟨l, y⟩ := g
          exact congrArg₂ and (congrArg₂ and BEq.comm (same_comm x y)) (sameFields_comm fs gs)
end

theorem sameItems_iff : sameItems xs ys = true ↔ List.Forall₂ (fun x y => x.same y = true) xs ys := by
  induction xs generalizing ys with
  | nil => cases ys <;> simp [sameItems]
  | cons x xs ih => cases ys <;> simp [sameItems, ih]

/-- Fields in the order of their keys, each key once. -/
def Ordered (fields : List (String × Value)) : Prop := fields.Pairwise (fun f g => f.1 < g.1)

theorem field?_cons_self (key : String) (x : Value) (fields : List (String × Value)) :
    field? ((key, x) :: fields) key = some x := by
  unfold field?
  simp

theorem field?_cons_of_ne {k : String} (h : key ≠ k) (x : Value) (fields : List (String × Value)) :
    field? ((k, x) :: fields) key = field? fields key := by
  unfold field?
  rw [lookup_cons_of_ne h]

theorem field?_eq_none (h : ∀ f ∈ fs, key < f.1) : field? fs key = Option.none := by
  unfold field?
  exact lookup_eq_none_of_lt h

/-- The first keys are the same, as the smaller one of two would be missing on the other side. -/
theorem eq_of_sameFields {k l : String} {r : Value → Value → Prop} (hfs : Ordered ((k, x) :: fs))
    (hgs : Ordered ((l, y) :: gs))
    (h : ∀ key, Option.Rel r (field? ((k, x) :: fs) key) (field? ((l, y) :: gs) key)) : k = l := by
  have hk : ¬k < l := by
    intro hlt
    have hrel := h k
    rw [field?_cons_self, field?_eq_none] at hrel
    · cases hrel
    · refine List.forall_mem_cons.mpr ⟨hlt, fun g hg => ?_⟩
      exact String.lt_trans hlt ((List.pairwise_cons.mp hgs).1 g hg)
  have hl : ¬l < k := by
    intro hlt
    have hrel := h l
    rw [field?_cons_self, field?_eq_none] at hrel
    · cases hrel
    · refine List.forall_mem_cons.mpr ⟨hlt, fun f hf => ?_⟩
      exact String.lt_trans hlt ((List.pairwise_cons.mp hfs).1 f hf)
  exact String.le_antisymm (String.not_lt.mp hl) (String.not_lt.mp hk)

/-- Mappings are compared key by key. -/
theorem sameFields_iff (hfs : Ordered fs) (hgs : Ordered gs) : sameFields fs gs = true ↔
    ∀ key, Option.Rel (fun x y => x.same y = true) (field? fs key) (field? gs key) := by
  induction fs generalizing gs with
  | nil =>
      cases gs with
      | nil => exact ⟨fun _ _ => .none, fun _ => rfl⟩
      | cons g gs =>
          refine ⟨fun h => absurd h Bool.false_ne_true, fun h => ?_⟩
          have hrel := h g.1
          rw [field?_cons_self] at hrel
          cases hrel
  | cons f fs ih =>
      obtain ⟨k, x⟩ := f
      cases gs with
      | nil =>
          refine ⟨fun h => absurd h Bool.false_ne_true, fun h => ?_⟩
          have hrel := h k
          rw [field?_cons_self] at hrel
          cases hrel
      | cons g gs =>
          obtain ⟨l, y⟩ := g
          have hrest := ih (List.pairwise_cons.mp hfs).2 (List.pairwise_cons.mp hgs).2
          rw [sameFields, Bool.and_eq_true, Bool.and_eq_true, beq_iff_eq, hrest]
          constructor
          · rintro ⟨⟨rfl, hxy⟩, h⟩ key
            by_cases hkey : key = k
            · subst hkey
              rw [field?_cons_self, field?_cons_self]
              exact .some hxy
            · rw [field?_cons_of_ne hkey, field?_cons_of_ne hkey]
              exact h key
          · intro h
            obtain rfl := eq_of_sameFields hfs hgs h
            have hxy := h k
            rw [field?_cons_self, field?_cons_self] at hxy
            obtain hxy | _ := hxy
            refine ⟨⟨rfl, hxy⟩, fun key => ?_⟩
            by_cases hkey : key = k
            · subst hkey
              rw [field?_eq_none (List.pairwise_cons.mp hfs).1, field?_eq_none (List.pairwise_cons.mp hgs).1]
              exact .none
            · have hrel := h key
              rwa [field?_cons_of_ne hkey, field?_cons_of_ne hkey] at hrel

end Value

namespace Expr

variable {x y : Value} {xs ys : List Value}

/-! ### Equality and sameness -/

/-- `x == y` is true. -/
def Equal (x y : Value) : Prop := Gives .eq x y (.ok (.bool true))

/-- If both values are numbers, these are of one kind and equal. -/
def SameNumbers (x y : Value) : Prop :=
  ∀ m n : Number, x = .number m → y = .number n → m.same n = true

theorem equal_iff : Equal x y ↔ valuesEqual x y = true := by
  rw [Equal, gives_iff ⟨by decide, by decide⟩]
  show Except.ok (Value.bool (valuesEqual x y)) = _ ↔ _
  simp

theorem valuesEqual_eq_same (h : ∀ m n, x = .number m → y ≠ .number n) :
    valuesEqual x y = x.same y := by
  cases x with
  | number m =>
      cases y with
      | number n => exact absurd rfl (h m n rfl)
      | _ => rfl
  | _ => rfl

theorem valuesEqual_number (m n : Number) : valuesEqual (.number m) (.number n) = true ↔
    Option.Rel (fun a b => Binary64.beq a b = true) m.toBinary64? n.toBinary64? := by
  rw [valuesEqual]
  cases m.toBinary64? <;> cases n.toBinary64? <;> simp

theorem valuesEqual_comm (x y : Value) : valuesEqual x y = valuesEqual y x := by
  by_cases h : ∃ m n, x = .number m ∧ y = .number n
  · obtain ⟨m, n, rfl, rfl⟩ := h
    rw [Bool.eq_iff_iff, valuesEqual_number, valuesEqual_number]
    cases m.toBinary64? <;> cases n.toBinary64? <;> simp [Binary64.beq_comm]
  · rw [valuesEqual_eq_same fun m n hx hy => h ⟨m, n, hx, hy⟩,
      valuesEqual_eq_same fun m n hy hx => h ⟨n, m, hx, hy⟩, Value.same_comm]

theorem valuesEqual_of_same {m n : Number} (h : m.same n = true) :
    valuesEqual (.number m) (.number n) = true := by
  rw [valuesEqual_number]
  cases m with
  | int i =>
      cases n with
      | int j =>
          obtain rfl : i = j := by simpa [Number.same] using h
          cases (Number.int i).toBinary64? <;> simp [Binary64.beq]
      | float b => cases h
  | float a =>
      cases n with
      | int j => cases h
      | float b => exact .some h

/-- Equal values are the same, unless they are numbers. -/
theorem same_iff : x.same y = true ↔ Equal x y ∧ SameNumbers x y := by
  rw [equal_iff]
  by_cases h : ∃ m n, x = .number m ∧ y = .number n
  · obtain ⟨m, n, rfl, rfl⟩ := h
    constructor
    · intro hsame
      refine ⟨valuesEqual_of_same hsame, fun m' n' hm hn => ?_⟩
      cases hm
      cases hn
      exact hsame
    · rintro ⟨-, hsame⟩
      exact hsame m n rfl rfl
  · have hnumbers : SameNumbers x y := fun m n hx hy => absurd ⟨m, n, hx, hy⟩ h
    rw [valuesEqual_eq_same fun m n hx hy => h ⟨m, n, hx, hy⟩, and_iff_left hnumbers]

/-! ### Sequences and mappings -/

/-- A sequence that a value is searched in. -/
theorem isIn_iff (v : Value) (xs : List Value) :
    Gives .isIn v (.sequence xs) (.ok (.bool true)) ↔ ∃ x ∈ xs, Equal v x := by
  have happly : applyBinary .isIn v (.sequence xs) = .ok (.bool (xs.any (valuesEqual · v))) := rfl
  rw [gives_iff ⟨by decide, by decide⟩, happly]
  simp [equal_iff, valuesEqual_comm v]

/-- Two sequences are equal if they have the same length and equal items at each place, and two mappings if
they have the same keys and equal values at each key, where numbers also have to be of one kind and equal;
and a value is in a sequence if it is equal to one of the items. -/
theorem equal_congr {fs gs : List (String × Value)} (hfs : Value.Ordered fs) (hgs : Value.Ordered gs)
    (xs ys : List Value) (v : Value) :
    (Equal (.sequence xs) (.sequence ys) ↔
      List.Forall₂ (fun x y => Equal x y ∧ SameNumbers x y) xs ys) ∧
    (Equal (.mapping fs) (.mapping gs) ↔ ∀ key, Option.Rel (fun x y => Equal x y ∧ SameNumbers x y)
      (Value.field? fs key) (Value.field? gs key)) ∧
    (Gives .isIn v (.sequence xs) (.ok (.bool true)) ↔ ∃ x ∈ xs, Equal v x) := by
  have hsame : (fun x y : Value => x.same y = true) = fun x y => Equal x y ∧ SameNumbers x y := by
    funext x y
    exact propext same_iff
  refine ⟨?_, ?_, isIn_iff v xs⟩
  · rw [← hsame, ← Value.sameItems_iff, equal_iff]
    rfl
  · rw [← hsame, ← Value.sameFields_iff hfs hgs, equal_iff]
    rfl

/-- Values that hold the same. -/
theorem equal_congr_rows : Value.Ordered [("a", .int 1)] ∧
    Equal (.sequence [.text "x", .int 2]) (.sequence [.text "x", .int 2]) ∧
    Equal (.mapping [("a", .int 1)]) (.mapping [("a", .int 1)]) ∧
    Gives .isIn (.int 2) (.sequence [.text "x", .int 2]) (.ok (.bool true)) := by
  have hordered : Value.Ordered [("a", .int 1)] := List.pairwise_singleton _ _
  have htext : Equal (.text "x") (.text "x") ∧ SameNumbers (.text "x") (.text "x") := same_iff.mp rfl
  have hnumber : Equal (.int 2) (.int 2) ∧ SameNumbers (.int 2) (.int 2) := same_iff.mp rfl
  obtain ⟨hsequence, hmapping, hisIn⟩ := equal_congr hordered hordered [.text "x", .int 2]
    [.text "x", .int 2] (.int 2)
  refine ⟨hordered, hsequence.mpr (.cons htext (.cons hnumber .nil)), hmapping.mpr fun key => ?_,
    hisIn.mpr ⟨.int 2, by simp, hnumber.1⟩⟩
  by_cases hkey : key = "a"
  · subst hkey
    rw [Value.field?_cons_self]
    exact .some (same_iff.mp rfl)
  · rw [Value.field?_cons_of_ne hkey]
    exact .none

/-- Equal numbers of different kinds make different sequences. -/
theorem equal_items_differ :
    Equal (.int 1) (.number (.float ⟨false, 1 <<< 52, -52, by decide⟩)) ∧
    ¬Equal (.sequence [.int 1]) (.sequence [.number (.float ⟨false, 1 <<< 52, -52, by decide⟩)]) ∧
    Gives .isIn (.int 1) (.sequence [.number (.float ⟨false, 1 <<< 52, -52, by decide⟩)])
      (.ok (.bool true)) := by
  have hequal : Equal (.int 1) (.number (.float ⟨false, 1 <<< 52, -52, by decide⟩)) :=
    equal_iff.mpr (by decide +kernel)
  refine ⟨hequal, fun h => ?_, (isIn_iff _ _).mpr ⟨_, List.mem_singleton_self _, hequal⟩⟩
  have hfalse := equal_iff.mp h
  revert hfalse
  decide

end Expr
end ClassScribe
