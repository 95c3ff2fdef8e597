/-! # Halts

Two operations on values have neither a result nor an error for some of them: the program stops
there. A halt is no error. It is not reported with a place, and nothing goes on behind it. -/

namespace ClassScribe

/-- An operation at which the program stops. -/
inductive Halt
  /-- A text that is longer than any memory. -/
  | capacity
  /-- The negative of the least signed word, where arithmetic is checked for overflow. -/
  | negation
  deriving DecidableEq, Repr

/-- What the program says when it stops. -/
def Halt.message : Halt → String
  | .capacity => "capacity overflow"
  | .negation => "attempt to negate with overflow"

/-- Why there is no result: an error that is handed on, or a halt. -/
inductive Stop (ε : Type)
  | error (cause : ε)
  | halt (cause : Halt)
  deriving DecidableEq, Repr

/-- An error in other words. A halt stays what it is. -/
def Stop.map {ε δ : Type} (f : ε → δ) : Stop ε → Stop δ
  | .error cause => .error (f cause)
  | .halt cause => .halt cause

end ClassScribe
