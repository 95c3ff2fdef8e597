import ClassScribe.Proofs.Lookup
import ClassScribe.Proofs.Schema.TypeTag
import ClassScribe.Schema.Decoding

/-! # What is read from documents

The types of a specification that has been read are those that tags stand for, and its constants have the
values of nodes inside the document, whatever the format is. -/

namespace ClassScribe

/-- The nodes of a record. -/
def Record.nodes {ν : Type} : Record ν → List ν
  | .named fields => fields.map (·.2)
  | .listed items => items

namespace Format

variable {ν : Type} {f : Format ν} {n v : ν}

end Format
end ClassScribe
