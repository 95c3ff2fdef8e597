import ClassScribe.Files.Change
import ClassScribe.Proofs.Lookup

/-! # What is at a place

Something is put into a directory that is there. What is at places below is what has been put there
(`get?_put_append`), and at every other place there is the same file as before, or still a directory
(`file?_put_of_not_prefix`, `HasDirectory.put`). -/

namespace ClassScribe.FileTree

variable {t new : FileTree} {here place more : List String} {name n : String}
  {entries : List (String × FileTree)}

/-! ### Entries -/

theorem lookup_setEntry_self (name : String) (t : FileTree) (entries : List (String × FileTree)) :
    (setEntry name t entries).lookup name = some t := by
  induction entries with
  | nil => simp [setEntry]
  | cons entry rest ih =>
      obtain ⟨n, old⟩ := entry
      rw [setEntry]
      split
      · simp
      · next hn =>
          rw [lookup_cons_of_ne (Ne.symm hn)]
          exact ih

theorem lookup_setEntry_of_ne (h : n ≠ name) (t : FileTree) (entries : List (String × FileTree)) :
    (setEntry name t entries).lookup n = entries.lookup n := by
  induction entries with
  | nil => exact lookup_cons_of_ne h t []
  | cons entry rest ih =>
      obtain ⟨m, old⟩ := entry
      rw [setEntry]
      split
      · next hm =>
          obtain rfl := hm
          rw [lookup_cons_of_ne h, lookup_cons_of_ne h]
      · rw [List.lookup_cons, List.lookup_cons, ih]

/-! ### Places -/

theorem get?_append (t : FileTree) (here more : List String) :
    t.get? (here ++ more) = (t.get? here).bind (·.get? more) := by
  induction here generalizing t with
  | nil => rfl
  | cons name rest ih =>
      rw [List.cons_append, get?, get?, Option.bind_assoc]
      exact Option.bind_congr fun u _ => ih u

theorem get?_directory_cons (entries : List (String × FileTree)) (name : String) (more : List String) :
    (directory entries).get? (name :: more) = (entries.lookup name).bind (·.get? more) := rfl

theorem get?_of_file? {content : Option String} (h : t.file? place = some content) :
    t.get? place = some (.file content) := by
  unfold file? at h
  cases hplace : t.get? place with
  | none =>
      rw [hplace] at h
      cases h
  | some u =>
      rw [hplace] at h
      cases u with
      | directory entries => cases h
      | file found =>
          cases h
          rfl

theorem file?_append_of_file {content : Option String} (h : t.get? here = some (.file content))
    (hmore : more ≠ []) : t.file? (here ++ more) = none := by
  obtain ⟨name, rest, rfl⟩ := List.exists_cons_of_ne_nil hmore
  unfold file?
  rw [get?_append, h]
  rfl

theorem file?_append_of_none (h : t.get? here = none) (more : List String) :
    t.file? (here ++ more) = none := by
  unfold file?
  rw [get?_append, h]
  rfl

theorem HasDirectory.file?_eq (h : t.HasDirectory place) : t.file? place = none := by
  obtain ⟨entries, h⟩ := h
  unfold file?
  rw [h]

theorem HasDirectory.of_append (h : t.HasDirectory (here ++ more)) : t.HasDirectory here := by
  obtain ⟨entries, h⟩ := h
  rw [get?_append] at h
  cases hhere : t.get? here with
  | none =>
      rw [hhere] at h
      cases h
  | some u =>
      cases u with
      | directory inner => exact ⟨inner, hhere⟩
      | file content =>
          rw [hhere] at h
          cases more with
          | nil => cases h
          | cons name rest => cases h

theorem HasDirectory.dropLast (h : t.HasDirectory here) : t.HasDirectory here.dropLast := by
  rcases List.eq_nil_or_concat here with rfl | ⟨upper, name, rfl⟩
  · exact h
  · rw [List.concat_eq_append] at h ⊢
    rw [List.dropLast_concat]
    exact h.of_append

theorem HasDirectory.exists_lookup (h : t.HasDirectory (name :: here)) :
    ∃ entries u, t = .directory entries ∧ entries.lookup name = some u ∧ u.HasDirectory here := by
  obtain ⟨inner, h⟩ := h
  cases t with
  | file content => cases h
  | directory entries =>
      rw [get?_directory_cons] at h
      obtain ⟨u, hu, h⟩ := Option.bind_eq_some_iff.mp h
      exact ⟨entries, u, rfl, hu, inner, h⟩

/-! ### Putting something at a place

The induction is on the place of the directory. -/

theorem put_cons {u : FileTree} (hu : entries.lookup n = some u) (new : FileTree) (here : List String) :
    (directory entries).put (n :: here) new = .directory (setEntry n (u.put here new) entries) := by
  rw [put, hu]
  rfl

theorem get?_put_append (h : t.HasDirectory here) (new : FileTree) (name : String) (more : List String) :
    (t.put (here ++ [name]) new).get? (here ++ name :: more) = new.get? more := by
  induction here generalizing t with
  | nil =>
      obtain ⟨entries, h⟩ := h
      cases h
      rw [List.nil_append, List.nil_append, put, put, get?_directory_cons, lookup_setEntry_self]
      rfl
  | cons n rest ih =>
      obtain ⟨entries, u, rfl, hu, hrest⟩ := h.exists_lookup
      rw [List.cons_append, List.cons_append, put_cons hu, get?_directory_cons, lookup_setEntry_self]
      exact ih hrest

/-- At a place that is not below, there is what was there, or a directory as before. -/
theorem get?_put_of_not_prefix (h : t.HasDirectory here) (new : FileTree)
    (hplace : ¬here ++ [name] <+: place) :
    (t.put (here ++ [name]) new).get? place = t.get? place ∨
      (t.put (here ++ [name]) new).HasDirectory place ∧ t.HasDirectory place := by
  induction here generalizing t place with
  | nil =>
      obtain ⟨entries, h⟩ := h
      cases h
      rw [List.nil_append, put, put]
      cases place with
      | nil => exact .inr ⟨⟨_, rfl⟩, ⟨_, rfl⟩⟩
      | cons m more =>
          have hm : m ≠ name := by
            rintro rfl
            exact hplace ⟨more, rfl⟩
          rw [get?_directory_cons, get?_directory_cons, lookup_setEntry_of_ne hm]
          exact .inl rfl
  | cons n rest ih =>
      obtain ⟨entries, u, rfl, hu, hrest⟩ := h.exists_lookup
      rw [List.cons_append, put_cons hu]
      cases place with
      | nil => exact .inr ⟨⟨_, rfl⟩, ⟨_, rfl⟩⟩
      | cons m more =>
          rw [get?_directory_cons, get?_directory_cons]
          by_cases hm : m = n
          · obtain rfl := hm
            have hmore : ¬rest ++ [name] <+: more := fun hprefix =>
              hplace (by rwa [List.cons_append, List.cons_prefix_cons, eq_self, true_and])
            unfold HasDirectory
            rw [get?_directory_cons, get?_directory_cons, lookup_setEntry_self, hu]
            exact ih hrest hmore
          · rw [lookup_setEntry_of_ne hm]
            exact .inl rfl

theorem file?_put_append (h : t.HasDirectory here) (new : FileTree) (name : String) (more : List String) :
    (t.put (here ++ [name]) new).file? (here ++ name :: more) = new.file? more := by
  unfold file?
  rw [get?_put_append h]

theorem file?_put_of_not_prefix (h : t.HasDirectory here) (new : FileTree)
    (hplace : ¬here ++ [name] <+: place) :
    (t.put (here ++ [name]) new).file? place = t.file? place := by
  rcases get?_put_of_not_prefix h new hplace with heq | ⟨hafter, hbefore⟩
  · unfold file?
    rw [heq]
  · rw [hafter.file?_eq, hbefore.file?_eq]

/-- Where nothing, or a file, is replaced, all directories stay. -/
theorem HasDirectory.put (h : t.HasDirectory here) (new : FileTree)
    (hname : ¬t.HasDirectory (here ++ [name])) (hplace : t.HasDirectory place) :
    (t.put (here ++ [name]) new).HasDirectory place := by
  have hnot : ¬here ++ [name] <+: place := by
    rintro ⟨more, rfl⟩
    exact hname hplace.of_append
  rcases get?_put_of_not_prefix h new hnot with heq | ⟨hafter, -⟩
  · unfold HasDirectory
    rw [heq]
    exact hplace
  · exact hafter

end ClassScribe.FileTree
