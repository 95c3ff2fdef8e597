import ClassScribe.Schema.ClassSpec

/-! # Tables of enumerations

The entries of an enumeration by the texts of their values. Of several entries with one text the
first one is found. -/

namespace ClassScribe

/-- The keys of an enumeration with the texts of their values, as they are declared. -/
structure EnumTable where
  entries : List (String × String)
  deriving DecidableEq, Repr

namespace EnumTable

/-- The table of parameter constants. -/
def ofParams (params : List Param) : EnumTable :=
  ⟨params.map fun p => (p.key, p.value.lookupText)⟩

/-- The keys. -/
def keys (t : EnumTable) : List String := t.entries.map (·.1)

/-- The key of the first entry with a text. -/
def keyFor? (t : EnumTable) (text : String) : Option String :=
  (t.entries.find? (·.2 == text)).map (·.1)

/-- The entries that are not found because an earlier one has the same text. -/
def duplicates (t : EnumTable) : List (String × String) :=
  (t.entries.zipIdx.filter fun (e, i) => (t.entries.take i).any (·.2 == e.2)).map (·.1)

end EnumTable
end ClassScribe
