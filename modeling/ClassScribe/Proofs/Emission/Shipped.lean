import ClassScribe.Emission.Emitter
import ClassScribe.Emission.Outlines
import ClassScribe.Proofs.Template.Lineage
import ClassScribe.Proofs.Template.Reading

/-! # What the shipped templates say

Each shipped source says what its outline does. The check runs over characters, and the strings of
the source are turned into lists of characters beforehand (`Spelled`), which evaluation does not have
to do then. -/

namespace ClassScribe.Shipped
open Template

/-! ### Sources as characters -/

/-- Strings and their characters. -/
inductive Spelled : List String → List (List Char) → Prop
  | nil : Spelled [] []
  | cons {s : String} {cs : List Char} {lines : List String} {ls : List (List Char)} :
      s = String.ofList cs → Spelled lines ls → Spelled (s :: lines) (cs :: ls)

theorem toList_source {lines : List String} {ls : List (List Char)} (h : Spelled lines ls) :
    (source lines).toList = ls.flatMap (· ++ ['\n']) := by
  unfold source
  rw [String.toList_join]
  induction h with
  | nil => rfl
  | cons hs _ ih =>
      rw [List.map_cons, List.flatMap_cons, List.flatMap_cons, ih, hs, String.toList_append,
        String.toList_ofList]
      rfl

/-- A shipped source that says what an outline does is parsed as the template of that. -/
theorem parse_source_of_says {lines : List String} {ls : List (List Char)} {parent : Option String}
    {nodes : List Node} (name : String) (h : Spelled lines ls)
    (hs : saysOutline .standard parent nodes 200 (ls.flatMap (· ++ ['\n'])) = true) :
    parse .standard name (source lines) = .ok (ofOutline name parent nodes) := by
  rw [← toList_source h] at hs
  exact parse_of_saysOutline hs

theorem parse_base : parse .standard "base_template" (source base) =
    .ok (ofOutline "base_template" none baseNodes) := by
  apply parse_source_of_says
  · unfold base
    repeat first | exact .nil | apply Spelled.cons rfl
  · decide +kernel

theorem parse_struct : parse .standard "struct_template" (source struct) =
    .ok (ofOutline "struct_template" (some "base_struct_function") structNodes) := by
  apply parse_source_of_says
  · unfold struct
    repeat first | exact .nil | apply Spelled.cons rfl
  · decide +kernel

theorem parse_accessors : parse .standard "base_struct_function" (source accessors) =
    .ok (ofOutline "base_struct_function" (some "base_template") accessorsNodes) := by
  apply parse_source_of_says
  · unfold accessors
    repeat first | exact .nil | apply Spelled.cons rfl
  · decide +kernel

theorem parse_function : parse .standard "function_template" (source function) =
    .ok (ofOutline "function_template" (some "base_struct_function") functionNodes) := by
  apply parse_source_of_says
  · unfold function
    repeat first | exact .nil | apply Spelled.cons rfl
  · decide +kernel

theorem parse_enumeration : parse .standard "enum_template" (source enumeration) =
    .ok (ofOutline "enum_template" (some "base_template") enumerationNodes) := by
  apply parse_source_of_says
  · unfold enumeration
    repeat first | exact .nil | apply Spelled.cons rfl
  · decide +kernel

/-! ### The library -/

theorem library_standard : ∃ l, library .standard = .ok l ∧ l.templates = templates := by
  unfold library all
  simp only [Library.addAll, Library.add, parse_base, parse_accessors, parse_struct, parse_function,
    parse_enumeration]
  exact ⟨_, rfl, rfl⟩

/-! ### Chains -/

section
variable {l : Library} (h : l.templates = templates)
include h

theorem get?_eq (name : String) : l.get? name = templates.find? (·.name == name) := by
  rw [Library.get?, h]

theorem get?_base : l.get? "base_template" = some (ofOutline "base_template" none baseNodes) := by
  rw [get?_eq h]
  rfl

theorem get?_accessors : l.get? "base_struct_function" =
    some (ofOutline "base_struct_function" (some "base_template") accessorsNodes) := by
  rw [get?_eq h]
  rfl

/-- The chain of a leaf that extends the layout of structures and functions. -/
theorem chainFor_of_find? {leaf : String} (nodes : List Node)
    (hl : templates.find? (·.name == leaf) =
      some (ofOutline leaf (some "base_struct_function") nodes))
    (ha : [leaf].contains "base_struct_function" = false)
    (hb : ["base_struct_function", leaf].contains "base_template" = false) :
    l.chainFor leaf = .ok ⟨"base_template", ["base_struct_function", leaf]⟩ := by
  unfold Library.chainFor
  rw [get?_eq h, hl]
  dsimp only
  rw [Library.walk_of_parent rfl ha (get?_accessors h), Library.walk_of_parent rfl hb (get?_base h), Library.walk_of_root rfl]
  rfl

theorem chainFor_struct : l.chainFor "struct_template" =
    .ok ⟨"base_template", ["base_struct_function", "struct_template"]⟩ :=
  chainFor_of_find? h structNodes rfl (by decide) (by decide)

theorem chainFor_function : l.chainFor "function_template" =
    .ok ⟨"base_template", ["base_struct_function", "function_template"]⟩ :=
  chainFor_of_find? h functionNodes rfl (by decide) (by decide)

theorem chainFor_enum : l.chainFor "enum_template" = .ok ⟨"base_template", ["enum_template"]⟩ := by
  have ht : l.get? "enum_template" =
      some (ofOutline "enum_template" (some "base_template") enumerationNodes) := by
    rw [get?_eq h]
    rfl
  unfold Library.chainFor
  rw [ht]
  dsimp only
  rw [Library.walk_of_parent rfl (by decide) (get?_base h), Library.walk_of_root rfl]
  rfl

/-! ### Composed templates -/

theorem resolve_struct :
    l.resolve ⟨"base_template", ["base_struct_function", "struct_template"]⟩ =
      .ok (composedAccessors "struct_template" structConstructor) := by
  unfold Library.resolve
  rw [show l.get? = fun name => templates.find? (·.name == name) from funext (get?_eq h)]
  rfl

theorem resolve_function :
    l.resolve ⟨"base_template", ["base_struct_function", "function_template"]⟩ =
      .ok (composedAccessors "function_template" functionConstructor) := by
  unfold Library.resolve
  rw [show l.get? = fun name => templates.find? (·.name == name) from funext (get?_eq h)]
  rfl

theorem resolve_enum :
    l.resolve ⟨"base_template", ["enum_template"]⟩ = .ok composedEnumeration := by
  unfold Library.resolve
  rw [show l.get? = fun name => templates.find? (·.name == name) from funext (get?_eq h)]
  rfl

end

theorem shipped_standard : ∃ e, Emitter.shipped = .ok e ∧ e.library.templates = templates ∧
    e.names = .standard := by
  obtain ⟨l, hl, ht⟩ := library_standard
  refine ⟨⟨l, .standard⟩, ?_, ht, rfl⟩
  rw [Emitter.shipped, hl]
  rfl

end ClassScribe.Shipped
