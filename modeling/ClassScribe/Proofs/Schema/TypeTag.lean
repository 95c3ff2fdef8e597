import ClassScribe.Proofs.Schema.TagGrammar

/-! # Type tags of types that have been read

The types that tags stand for are the scalars, arrays of such types, and names that are not taken by a
scalar (`isParsed_iff`). The tag of such a type is read as the type again (`ofTag_tag`), whatever the tag
was that it has been read from: white space around it and the other words for scalars and arrays are gone
(`ofTag_canonical`). -/

namespace ClassScribe.ValueType

/-- Arrays of any depth over scalars and names. -/
def IsReadable : ValueType → Prop
  | .scalar _ => True
  | .array element => element.IsReadable
  | .named name => IsTypeName name

/-- A type that a tag stands for. -/
def IsParsed (t : ValueType) : Prop := ∃ tag, ofTag tag = .ok t

/-! ### Tags -/

theorem scalarTag_mem_wordsFor (kind : Scalar) : scalarTag kind ∈ wordsFor kind := by
  cases kind <;> decide

theorem array_mem_arrayOpenings : "Array<" ∈ arrayOpenings := by decide

theorem trim_tag {t : ValueType} (h : t.IsReadable) : Text.trim t.tag.toList = t.tag.toList := by
  refine Text.trim_of_trimmed ?_
  cases t with
  | scalar kind =>
      have hall : ∀ kind, ∀ c ∈ (scalarTag kind).toList, isNamePart c = true := by
        intro kind
        refine List.all_eq_true.mp ?_
        cases kind <;> decide +kernel
      exact Text.trimmed_of_noBlank fun c hc => (isNamePart_spec (hall kind c hc)).1
  | named name => exact Text.trimmed_of_noBlank fun c hc => (isNamePart_spec (h.parts c hc)).1
  | array element =>
      have htag : (ValueType.array element).tag.toList =
          'A' :: ("rray<".toList ++ element.tag.toList ++ ['>']) := by
        rw [tag, String.toList_append, String.toList_append]
        rfl
      rw [htag]
      refine ⟨?_, ?_⟩
      · intro c hc
        obtain rfl := Option.some.inj hc
        decide
      · intro c hc
        rw [← List.cons_append, List.getLast?_concat] at hc
        obtain rfl := Option.some.inj hc
        decide

/-- The tag of a type stands for the type. -/
theorem denotes_tag {t : ValueType} (h : t.IsReadable) : Denotes t.tag.toList t := by
  induction t with
  | scalar kind => exact .scalar (scalarTag_mem_wordsFor kind) (trim_tag h)
  | named name => exact .named h (trim_tag h)
  | array element ih =>
      refine .array array_mem_arrayOpenings ?_ (ih h)
      rw [trim_tag h, tag, String.toList_append, String.toList_append, List.append_assoc]
      rfl

theorem Denotes.isReadable {s : List Char} {t : ValueType} (h : Denotes s t) : t.IsReadable := by
  induction h with
  | scalar => trivial
  | named hname => exact hname
  | array _ _ _ ih => exact ih

/-- The types that tags stand for are arrays over scalars and free names. -/
theorem isParsed_iff {t : ValueType} : t.IsParsed ↔ t.IsReadable :=
  ⟨fun ⟨_, h⟩ => (ofTag_eq_ok_iff.mp h).isReadable, fun h => ⟨t.tag, ofTag_eq_ok_iff.mpr (denotes_tag h)⟩⟩

theorem ofTag_tag {t : ValueType} (h : t.IsParsed) : ofTag t.tag = .ok t :=
  ofTag_eq_ok_iff.mpr (denotes_tag (isParsed_iff.mp h))

/-- Tags are read and written in one form: what has been read from a text is read from its own tag again; every array of
any depth over scalars and free names is read from its tag; and a text is read just if it stands for a type. -/
theorem ofTag_canonical :
    (∀ text t, ofTag text = .ok t → ofTag t.tag = .ok t) ∧
    (∀ t : ValueType, t.IsReadable → ofTag t.tag = .ok t) ∧
    ∀ text t, ofTag text = .ok t ↔ Denotes text.toList t :=
  ⟨fun text _ h => ofTag_tag ⟨text, h⟩, fun _ h => ofTag_tag (isParsed_iff.mpr h), fun _ _ => ofTag_eq_ok_iff⟩

/-- A tag with another word for arrays, and with white space in it. -/
theorem ofTag_canonical_rows :
    ofTag "\tList< Array<Image.Name > >" = .ok (.array (.array (.named "Image.Name"))) ∧
    (ValueType.array (.array (.named "Image.Name"))).tag = "Array<Array<Image.Name>>" ∧
    ofTag "Array<Array<Image.Name>>" = .ok (.array (.array (.named "Image.Name"))) ∧
    IsReadable (.array (.array (.scalar .number))) ∧
    ofTag "Array<Array<Number>>" = .ok (.array (.array (.scalar .number))) := by
  have hname : IsTypeName "Image.Name" :=
    ⟨by decide, List.all_eq_true.mp (by decide +kernel), by decide⟩
  have hword : Denotes "Image.Name ".toList (.named "Image.Name") := .named hname (by decide +kernel)
  have hrow : Denotes " Array<Image.Name > ".toList (.array (.named "Image.Name")) :=
    .array array_mem_arrayOpenings (by decide +kernel) hword
  have hlist : "List<" ∈ arrayOpenings := by decide
  have hrows : Denotes "\tList< Array<Image.Name > >".toList (.array (.array (.named "Image.Name"))) :=
    .array hlist (by decide +kernel) hrow
  obtain ⟨hagain, htag, hread⟩ := ofTag_canonical
  have h := (hread "\tList< Array<Image.Name > >" _).mpr hrows
  exact ⟨h, by decide, hagain _ _ h, trivial, htag (.array (.array (.scalar .number))) trivial⟩

end ClassScribe.ValueType
