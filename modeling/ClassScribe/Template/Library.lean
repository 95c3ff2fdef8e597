import ClassScribe.Template.Composition
import ClassScribe.Template.Parser

/-! # Libraries of templates

Templates by name, in the order of their names. A later template replaces an earlier one of the
same name. -/

namespace ClassScribe.Template

/-- Templates in the order of their names, no two with the same one. -/
structure Library where
  templates : List Template
  sorted : templates.Pairwise (fun s t => s.name < t.name)

namespace Library

/-- No templates. -/
def empty : Library := ⟨[], List.Pairwise.nil⟩

instance : Inhabited Library := ⟨empty⟩

/-- Puts a template in its place in a sorted list. -/
def insertInto (t : Template) : List Template → List Template
  | [] => [t]
  | s :: rest =>
    if t.name = s.name then t :: rest
    else if t.name < s.name then t :: s :: rest
    else s :: insertInto t rest

theorem mem_insertInto {t s : Template} {l : List Template} (h : s ∈ insertInto t l) :
    s = t ∨ s ∈ l := by
  induction l with
  | nil => simpa [insertInto] using h
  | cons a l ih =>
    simp only [insertInto] at h
    split at h
    · rcases List.mem_cons.1 h with h | h <;> simp [h]
    · split at h
      · rcases List.mem_cons.1 h with h | h
        · simp [h]
        · exact Or.inr h
      · simp only [List.mem_cons] at h ⊢
        rcases h with h | h
        · simp [h]
        · rcases ih h with h | h <;> simp [h]

theorem sorted_insertInto {t : Template} {l : List Template}
    (h : l.Pairwise (fun s t => s.name < t.name)) :
    (insertInto t l).Pairwise (fun s t => s.name < t.name) := by
  induction l with
  | nil => simp [insertInto]
  | cons a l ih =>
    rw [List.pairwise_cons] at h
    simp only [insertInto]
    split
    · rename_i he
      rw [List.pairwise_cons]
      exact ⟨fun b hb => he ▸ h.1 b hb, h.2⟩
    · split
      · rename_i hlt
        rw [List.pairwise_cons]
        refine ⟨fun b hb => ?_, List.pairwise_cons.2 h⟩
        rcases List.mem_cons.1 hb with rfl | hb
        · exact hlt
        · exact String.lt_trans hlt (h.1 b hb)
      · rename_i hne hnlt
        rw [List.pairwise_cons]
        refine ⟨fun b hb => ?_, ih h.2⟩
        rcases mem_insertInto hb with rfl | hb
        · exact Decidable.by_contra fun hc =>
            hne (String.le_antisymm (String.not_lt.1 hc) (String.not_lt.1 hnlt))
        · exact h.1 b hb

/-- Adds a template, or replaces the one of its name. -/
def insert (l : Library) (t : Template) : Library :=
  ⟨insertInto t l.templates, sorted_insertInto l.sorted⟩

/-- The template of a name. -/
def get? (l : Library) (name : String) : Option Template := l.templates.find? (·.name == name)

/-- The names of the templates in their order. -/
def names (l : Library) : List String := l.templates.map (·.name)

/-- Parses a template and adds it. -/
def add (l : Library) (options : Spacing) (name content : String) : Except Error Library := do
  let t ← parse options name content
  pure (l.insert t)

/-- Adds named sources in a row. -/
def addAll (l : Library) (options : Spacing) : List (String × String) → Except Error Library
  | [] => .ok l
  | (name, content) :: rest => do
    let l ← l.add options name content
    addAll l options rest

/-- Adds a named source, or leaves the library as it is if the source is wrong. -/
def addParsed (l : Library) (options : Spacing) (source : String × String) : Library :=
  match l.add options source.1 source.2 with
  | .ok l => l
  | .error _ => l

/-- The library of named sources that are added in a row; the wrong ones leave nothing behind. -/
def gather (options : Spacing) (sources : List (String × String)) : Library :=
  sources.foldl (fun l source => l.addParsed options source) empty

/-- A library whose templates have all been parsed. -/
inductive Loaded : Library → Prop
  | empty : Loaded empty
  | add {l l' : Library} {options : Spacing} {name content : String} :
      Loaded l → l.add options name content = .ok l' → Loaded l'

/-! ### Chains -/

/-- The templates whose names are not in a list. -/
def unvisited (l : Library) (seen : List String) : List Template :=
  l.templates.filter fun t => !seen.contains t.name

theorem unvisited_cons_lt {l : Library} {seen : List String} {name : String} {t : Template}
    (ht : l.get? name = some t) (hn : seen.contains name = false) :
    (l.unvisited (name :: seen)).length < (l.unvisited seen).length := by
  obtain rfl : t.name = name := by simpa using List.find?_some ht
  exact length_filter_cons_lt (List.mem_of_find?_eq_some ht) hn

/-- Follows the parents from a template to a root. `path` holds the names on the way, the last one
first. -/
def walk (l : Library) (leaf : String) (path : List String) (current : Template) :
    Except Error (List String) :=
  match current.parent with
  | none => .ok path
  | some parent =>
    if _hn : path.contains parent = true then
      .error (.resolution leaf none (.cycle (parent :: path)))
    else
      match _ht : l.get? parent with
      | none => .error (.resolution current.name none (.unknownParent parent))
      | some t => walk l leaf (parent :: path) t
termination_by (l.unvisited path).length
decreasing_by exact unvisited_cons_lt _ht (by simpa using _hn)

/-- The chain that ends at a template. -/
def chainFor (l : Library) (leaf : String) : Except Error Chain :=
  match l.get? leaf with
  | none => .error (.resolution leaf none .unknownTemplate)
  | some t => do
    match ← l.walk leaf [leaf] t with
    | [] => pure ⟨leaf, []⟩
    | base :: overrides => pure ⟨base, overrides⟩

/-- The composed template of a chain. -/
def resolve (l : Library) (chain : Chain) : Except Error Resolved := compose l.get? chain

/-- The templates that no template extends. -/
def leaves (l : Library) : List String :=
  l.names.filter fun name => !l.templates.any (·.parent == some name)

end Library
end ClassScribe.Template
