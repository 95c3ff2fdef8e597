import ClassScribe.Number.Layout

/-! # Numbers

The numbers of schemas, contexts and templates: integers, which are kept exactly, and binary
fractions. A reader makes only integers from `-2 ^ 63` to `2 ^ 64 - 1`. -/

namespace ClassScribe

/-- An integer or a binary floating-point number. -/
inductive Number
  | int (value : Int)
  | float (value : Binary64)
  deriving DecidableEq, Repr

namespace Number

instance : Inhabited Number := ⟨.int 0⟩

/-- The integers that a 64-bit word holds, with or without a sign. -/
def InRange (i : Int) : Prop := -0x8000000000000000 ≤ i ∧ i ≤ 0xFFFFFFFFFFFFFFFF

/-- The integers that a 64-bit word with a sign holds. -/
def InSignedRange (i : Int) : Prop := -0x8000000000000000 ≤ i ∧ i ≤ 0x7FFFFFFFFFFFFFFF

instance (i : Int) : Decidable (InRange i) := by unfold InRange; infer_instance
instance (i : Int) : Decidable (InSignedRange i) := by unfold InSignedRange; infer_instance

/-- The number as a signed word. -/
def signed? : Number → Option Int
  | .int i => if InSignedRange i then some i else none
  | .float _ => none

/-- The number as a word without a sign. -/
def unsigned? : Number → Option Nat
  | .int i => if 0 ≤ i then some i.toNat else none
  | .float _ => none

/-- The nearest binary number. -/
def toBinary64? : Number → Option Binary64
  | .int i => Binary64.ofInt? i
  | .float x => some x

/-- Whether two numbers are of one kind and equal. -/
def same : Number → Number → Bool
  | .int i, .int j => i == j
  | .float x, .float y => x.beq y
  | _, _ => false

/-- The text of a number in JSON. -/
def text : Number → List Char
  | .int i => intText i
  | .float x => x.jsonText

/-- The text of a number in a class source: a whole number below `10 ^ 21` has neither point nor
exponent, and zero has no sign. -/
def literalText : Number → List Char
  | .int i => intText i
  | .float x =>
    match x.whole? with
    | some 0 => ['0']
    | some n => if n < Nat.pow 10 21 then x.signText ++ digitsOf n else x.jsonText
    | none => x.jsonText

end Number
end ClassScribe
