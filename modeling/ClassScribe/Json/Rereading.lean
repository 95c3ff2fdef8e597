import ClassScribe.Json.Codec
import ClassScribe.Json.Parser
import ClassScribe.Json.Text

/-! # Numbers that are read again

Compact texts, and the numbers that their digits are read as. -/

namespace ClassScribe

/-- The number that the JSON text of a number is read as. -/
def Number.reread? (n : Number) : Option Number :=
  (Json.readNumber n.text).bind fun (l, _) => l.toNumber?

/-- The codec of compact texts. -/
def Json.codec : Codec := ⟨fun v => String.ofList (valueText v), fun s => parse? s.toList⟩

end ClassScribe
