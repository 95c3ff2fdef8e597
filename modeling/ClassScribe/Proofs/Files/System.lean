import ClassScribe.Proofs.Files.Tree

/-! # Writing files

Making directories changes no file (`makeDirectories?_sameFiles`), and writing a text to a path changes just
the file that the path leads to then (`write?_written`). -/

namespace ClassScribe

namespace FileTree

variable {t t' t'' : FileTree} {here place : List String}

theorem Extends.refl (t : FileTree) : t.Extends t := ⟨fun _ => rfl, fun _ h => h⟩

theorem Extends.trans (h : t.Extends t') (h' : t'.Extends t'') : t.Extends t'' :=
  ⟨fun place => (h'.file?_eq place).trans (h.file?_eq place),
    fun place hplace => h'.hasDirectory place (h.hasDirectory place hplace)⟩

theorem extends_put_empty {name : String} (hhere : t.HasDirectory here)
    (hnone : t.get? (here ++ [name]) = none) : t.Extends (t.put (here ++ [name]) empty) := by
  have hname : ¬t.HasDirectory (here ++ [name]) := by
    rintro ⟨entries, h⟩
    rw [hnone] at h
    cases h
  refine ⟨fun place => ?_, fun place hplace => hhere.put empty hname hplace⟩
  by_cases hplace : here ++ [name] <+: place
  · obtain ⟨more, rfl⟩ := hplace
    rw [file?_append_of_none hnone, List.append_assoc, List.singleton_append, file?_put_append hhere]
    cases more with
    | nil => rfl
    | cons n rest => rfl
  · exact file?_put_of_not_prefix hhere empty hplace

end FileTree

namespace FileSystem

variable {s after : FileSystem} {t t' : FileTree} {here place : List String} {p : Path} {text : String}
  {content : Option String}

/-! ### Following paths -/

theorem any_isDirectory_iff : (t.get? here).any (·.isDirectory) = true ↔ t.HasDirectory here := by
  constructor
  · intro h
    cases hhere : t.get? here with
    | none =>
        rw [hhere] at h
        cases h
    | some u =>
        cases u with
        | directory entries => exact ⟨entries, hhere⟩
        | file content =>
            rw [hhere] at h
            cases h
  · rintro ⟨entries, h⟩
    rw [h]
    rfl

theorem cases_of_follow? {step : Step} (h : follow? t here step = some place) :
    t.HasDirectory here ∧ (t.HasDirectory place ∨ ∃ name, place = here ++ [name]) := by
  unfold follow? at h
  split at h
  · next hhere =>
      rw [any_isDirectory_iff] at hhere
      refine ⟨hhere, ?_⟩
      cases step with
      | stay =>
          cases h
          exact .inl hhere
      | up =>
          cases h
          exact .inl hhere.dropLast
      | down name =>
          cases h
          exact .inr ⟨name, rfl⟩
  · cases h

theorem follow?_of_hasDirectory {step : Step} (h : follow? t here step = some place)
    (hhere : t'.HasDirectory here) : follow? t' here step = some place := by
  unfold follow? at h ⊢
  split at h
  · rwa [if_pos (any_isDirectory_iff.mpr hhere)]
  · cases h

/-- Where all directories are still there, paths lead to the same places. -/
theorem foldlM_follow?_of_keeps (hkeeps : ∀ q, t.HasDirectory q → t'.HasDirectory q) {steps : List Step}
    (h : steps.foldlM (follow? t) here = some place) : steps.foldlM (follow? t') here = some place := by
  induction steps generalizing here with
  | nil => exact h
  | cons step rest ih =>
      rw [List.foldlM_cons] at h ⊢
      obtain ⟨next, hnext, hrest⟩ := Option.bind_eq_some_iff.mp h
      have hnext' := follow?_of_hasDirectory hnext (hkeeps _ (cases_of_follow? hnext).1)
      exact Option.bind_eq_some_iff.mpr ⟨next, hnext', ih hrest⟩

theorem cases_of_foldlM_follow? {steps : List Step} (hsteps : steps ≠ [])
    (h : steps.foldlM (follow? t) here = some place) :
    t.HasDirectory place ∨ ∃ upper name, place = upper ++ [name] ∧ t.HasDirectory upper := by
  induction steps generalizing here with
  | nil => exact absurd rfl hsteps
  | cons step rest ih =>
      rw [List.foldlM_cons] at h
      obtain ⟨next, hnext, hrest⟩ := Option.bind_eq_some_iff.mp h
      by_cases hne : rest = []
      · subst hne
        cases hrest
        obtain ⟨hhere, hplace | ⟨name, rfl⟩⟩ := cases_of_follow? hnext
        · exact .inl hplace
        · exact .inr ⟨here, name, rfl, hhere⟩
      · exact ih hne hrest

theorem steps_ne_nil (p : Path) : p.steps ≠ [] := by
  unfold Path.steps Path.parts
  simp [List.splitOn_ne_nil]

/-- What a path leads to is a directory, or has a name in one. -/
theorem cases_of_place? (h : s.place? p = some place) :
    s.root.HasDirectory place ∨ ∃ upper name, place = upper ++ [name] ∧ s.root.HasDirectory upper := by
  obtain ⟨start, -, h⟩ := Option.bind_eq_some_iff.mp h
  exact cases_of_foldlM_follow? (steps_ne_nil p) h

theorem place?_of_keeps (hworking : after.working = s.working)
    (hkeeps : ∀ q, s.root.HasDirectory q → after.root.HasDirectory q) (h : s.place? p = some place) :
    after.place? p = some place := by
  obtain ⟨start, hstart, h⟩ := Option.bind_eq_some_iff.mp h
  have hstart' : after.start? p = some start := by
    unfold start? at hstart ⊢
    rwa [hworking]
  exact Option.bind_eq_some_iff.mpr ⟨start, hstart', foldlM_follow?_of_keeps hkeeps h⟩

/-! ### Making directories -/

theorem enter?_extends {step : Step} (h : enter? (t, here) step = some (t', place)) : t.Extends t' := by
  obtain ⟨next, hnext, h⟩ := Option.bind_eq_some_iff.mp h
  split at h
  · cases h
    exact .refl t
  · cases h
  · next hnone =>
      split at h
      · cases h
        obtain ⟨hhere, ⟨entries, hdirectory⟩ | ⟨name, rfl⟩⟩ := cases_of_follow? hnext
        · rw [hnone] at hdirectory
          cases hdirectory
        · exact FileTree.extends_put_empty hhere hnone
      · cases h

theorem foldlM_enter?_extends {steps : List Step} (h : steps.foldlM enter? (t, here) = some (t', place)) :
    t.Extends t' := by
  induction steps generalizing t here with
  | nil =>
      cases h
      exact .refl _
  | cons step rest ih =>
      rw [List.foldlM_cons] at h
      obtain ⟨⟨u, next⟩, hnext, hrest⟩ := Option.bind_eq_some_iff.mp h
      exact (enter?_extends hnext).trans (ih hrest)

theorem makeDirectories?_sameFiles (h : s.makeDirectories? p = some after) : s.SameFiles after := by
  obtain ⟨start, -, h⟩ := Option.bind_eq_some_iff.mp h
  obtain ⟨⟨root, place⟩, hsteps, h⟩ := Option.bind_eq_some_iff.mp h
  cases h
  exact ⟨rfl, foldlM_enter?_extends hsteps⟩

/-! ### Writing -/

/-- A file is put to the place that its path leads to, which is no directory. -/
theorem cases_of_put? (h : s.put? p content = some after) :
    ∃ place, s.place? p = some place ∧ ¬s.root.HasDirectory place ∧
      after = { s with root := s.root.put place (.file content) } := by
  obtain ⟨place, hplace, h⟩ := Option.bind_eq_some_iff.mp h
  refine ⟨place, hplace, ?_⟩
  split at h
  · cases h
  · next hfile =>
      cases h
      refine ⟨?_, rfl⟩
      rintro ⟨entries, hdirectory⟩
      rw [hfile] at hdirectory
      cases hdirectory
  · next hnone =>
      split at h
      · cases h
        refine ⟨?_, rfl⟩
        rintro ⟨entries, hdirectory⟩
        rw [hnone] at hdirectory
        cases hdirectory
      · cases h

theorem file?_append_of_no_directory {more : List String} (h : ¬t.HasDirectory here) (hmore : more ≠ []) :
    t.file? (here ++ more) = none := by
  cases hhere : t.get? here with
  | none => exact FileTree.file?_append_of_none hhere more
  | some u =>
      cases u with
      | file content => exact FileTree.file?_append_of_file hhere hmore
      | directory entries => exact absurd ⟨entries, hhere⟩ h

/-- Writing a text to a path changes just the file that the path leads to. -/
theorem write?_written (h : s.write? p text = some after) : s.Written p text after := by
  obtain ⟨place, hplace, hfile, rfl⟩ := cases_of_put? h
  obtain hdirectory | ⟨upper, name, rfl, hupper⟩ := cases_of_place? hplace
  · exact absurd hdirectory hfile
  · have hkeeps (q : List String) (hq : s.root.HasDirectory q) :
        (s.root.put (upper ++ [name]) (.file (some text))).HasDirectory q := hupper.put _ hfile hq
    refine ⟨rfl, hkeeps, upper ++ [name], place?_of_keeps (s := s) rfl hkeeps hplace, ?_, ?_⟩
    · exact FileTree.file?_put_append hupper _ name []
    · intro other hother
      by_cases hprefix : upper ++ [name] <+: other
      · obtain ⟨more, rfl⟩ := hprefix
        have hmore : more ≠ [] := by
          rintro rfl
          exact hother (List.append_nil _)
        obtain ⟨n, rest, rfl⟩ := List.exists_cons_of_ne_nil hmore
        rw [file?_append_of_no_directory hfile hmore]
        rw [List.append_assoc, List.singleton_append, FileTree.file?_put_append hupper]
        rfl
      · exact FileTree.file?_put_of_not_prefix hupper _ hprefix

theorem SameFiles.refl (s : FileSystem) : s.SameFiles s := ⟨rfl, .refl s.root⟩

/-- Writing behind a change of directories changes the same file only. -/
theorem SameFiles.written {between : FileSystem} (h : s.SameFiles between)
    (hwritten : between.Written p text after) : s.Written p text after := by
  obtain ⟨place, hplace, htext, hothers⟩ := hwritten.exists_place
  refine ⟨hwritten.working_eq.trans h.working_eq, fun q hq => ?_, place, hplace, htext, ?_⟩
  · exact hwritten.hasDirectory q (h.root_extends.hasDirectory q hq)
  · intro other hother
    exact (hothers other hother).trans (h.root_extends.file?_eq other)

theorem Written.file?_eq (h : s.Written p text after) (hplace : s.place? p = some place) :
    after.root.file? place = some (some text) := by
  obtain ⟨written, hwritten, htext, -⟩ := h.exists_place
  have hafter := place?_of_keeps h.working_eq h.hasDirectory hplace
  obtain rfl : place = written := Option.some.inj (hafter.symm.trans hwritten)
  exact htext

theorem Written.read? (h : s.Written p text after) : after.read? p = some text := by
  obtain ⟨place, hplace, htext, -⟩ := h.exists_place
  have hfile : after.find? p = some (.file (some text)) := by
    rw [find?, hplace, Option.bind_some, FileTree.get?_of_file? htext]
  unfold FileSystem.read?
  rw [hfile]

end FileSystem
end ClassScribe
