import ClassScribe.Files.Listing
import ClassScribe.Proofs.Files.System
import ClassScribe.Proofs.Lookup

/-! # Listings of the same files

Where the names in each directory differ, the same is found at each place of two listings
(`Relisted.file?_eq`), and paths lead to the same places (`place?_relisted`). -/

namespace ClassScribe

namespace FileTree

variable {t u : FileTree} {name : String} {place : List String} {entries : List (String × FileTree)}

/-! ### Names that differ -/

theorem NamesDiffer.of_get? (h : t.NamesDiffer) (hplace : t.get? place = some u) : u.NamesDiffer := by
  induction place generalizing t with
  | nil =>
      cases hplace
      exact h
  | cons n rest ih =>
      cases h with
      | file content => cases hplace
      | directory _ hbelow =>
          obtain ⟨v, hv, hrest⟩ := Option.bind_eq_some_iff.mp hplace
          exact ih (hbelow _ (mem_of_lookup hv)) hrest

theorem Relisted.namesDiffer (h : t.Relisted u) (hnames : t.NamesDiffer) : u.NamesDiffer := by
  induction h with
  | refl t => exact hnames
  | order hperm =>
      cases hnames with
      | directory hnodup hbelow =>
          exact .directory ((hperm.map _).nodup hnodup) fun entry hentry =>
            hbelow entry (hperm.mem_iff.mpr hentry)
  | inside before name after _ ih =>
      cases hnames with
      | directory hnodup hbelow =>
          refine .directory (by simpa using hnodup) fun entry hentry => ?_
          rw [List.mem_append, List.mem_cons] at hentry
          rcases hentry with hentry | rfl | hentry
          · exact hbelow entry (List.mem_append_left _ hentry)
          · exact ih (hbelow _ (List.mem_append_right _ List.mem_cons_self))
          · exact hbelow entry (List.mem_append_right _ (List.mem_cons_of_mem _ hentry))
  | trans _ _ ih₁ ih₂ => exact ih₂ (ih₁ hnames)

/-! ### What is at a place -/

theorem file?_directory_cons_self (name : String) (t : FileTree) (entries : List (String × FileTree))
    (more : List String) : (directory ((name, t) :: entries)).file? (name :: more) = t.file? more := by
  unfold file?
  rw [get?_directory_cons, List.lookup_cons_self, Option.bind_some]

theorem file?_directory_cons_of_ne {n : String} (h : n ≠ name) (t : FileTree)
    (entries : List (String × FileTree)) (more : List String) :
    (directory ((name, t) :: entries)).file? (n :: more) = (directory entries).file? (n :: more) := by
  unfold file?
  rw [get?_directory_cons, get?_directory_cons, lookup_cons_of_ne h]

theorem exists_lookup_of_file? {content : Option String}
    (h : (directory entries).file? place = some content) :
    ∃ n more u, place = n :: more ∧ entries.lookup n = some u := by
  have hget := get?_of_file? h
  cases place with
  | nil => cases hget
  | cons n more =>
      obtain ⟨u, hu, -⟩ := Option.bind_eq_some_iff.mp hget
      exact ⟨n, more, u, rfl, hu⟩

theorem Relisted.symm (h : t.Relisted u) : u.Relisted t := by
  induction h with
  | refl t => exact .refl t
  | order hperm => exact .order hperm.symm
  | inside before name after _ ih => exact .inside before name after ih
  | trans _ _ ih₁ ih₂ => exact ih₂.trans ih₁

theorem Relisted.eq_file {content : Option String} (h : t.Relisted u) (ht : t = .file content) :
    u = .file content := by
  induction h with
  | refl t => exact ht
  | order hperm => cases ht
  | inside before name after _ ih => cases ht
  | trans _ _ ih₁ ih₂ => exact ih₂ (ih₁ ht)

theorem Relisted.exists_directory (h : t.Relisted u) (ht : t = .directory entries) :
    ∃ others, u = .directory others := by
  induction h generalizing entries with
  | refl t => exact ⟨entries, ht⟩
  | @order _ others _ => exact ⟨others, rfl⟩
  | inside before name after _ ih => exact ⟨_, rfl⟩
  | trans _ _ ih₁ ih₂ =>
      obtain ⟨others, hothers⟩ := ih₁ ht
      exact ih₂ hothers

theorem Relisted.exists_get? {found : FileTree} (h : t.Relisted u) (hnames : t.NamesDiffer)
    (hfound : t.get? place = some found) : ∃ other, u.get? place = some other ∧ found.Relisted other := by
  induction h generalizing place found with
  | refl t => exact ⟨found, hfound, .refl found⟩
  | order hperm =>
      cases place with
      | nil =>
          cases hfound
          exact ⟨_, rfl, .order hperm⟩
      | cons n rest =>
          cases hnames with
          | directory hnodup _ =>
              rw [get?_directory_cons, lookup_perm hperm hnodup] at hfound
              exact ⟨found, hfound, .refl found⟩
  | @inside t u before name after h ih =>
      cases place with
      | nil =>
          cases hfound
          exact ⟨_, rfl, .inside before name after h⟩
      | cons n rest =>
          rw [get?_directory_cons, List.lookup_append] at hfound ⊢
          cases hbefore : before.lookup n with
          | some first =>
              rw [hbefore] at hfound
              exact ⟨found, hfound, .refl found⟩
          | none =>
              rw [hbefore, Option.none_or] at hfound
              rw [Option.none_or]
              by_cases hn : n = name
              · subst hn
                rw [List.lookup_cons_self] at hfound ⊢
                cases hnames with
                | directory _ hbelow =>
                    exact ih (hbelow _ (List.mem_append_right _ List.mem_cons_self)) hfound
              · rw [lookup_cons_of_ne hn] at hfound ⊢
                exact ⟨found, hfound, .refl found⟩
  | trans h₁ _ ih₁ ih₂ =>
      obtain ⟨between, hbetween, h₁'⟩ := ih₁ hnames hfound
      obtain ⟨other, hother, h₂'⟩ := ih₂ (h₁.namesDiffer hnames) hbetween
      exact ⟨other, hother, h₁'.trans h₂'⟩

theorem Relisted.file?_of_some {content : Option String} (h : t.Relisted u) (hnames : t.NamesDiffer)
    (hfile : t.file? place = some content) : u.file? place = some content := by
  obtain ⟨other, hother, h'⟩ := h.exists_get? hnames (get?_of_file? hfile)
  obtain rfl := h'.eq_file rfl
  unfold file?
  rw [hother]

/-- The same files are at the same places. -/
theorem Relisted.file?_eq (h : t.Relisted u) (hnames : t.NamesDiffer) (place : List String) :
    t.file? place = u.file? place := by
  ext content
  exact ⟨h.file?_of_some hnames, h.symm.file?_of_some (h.namesDiffer hnames)⟩

theorem Relisted.hasDirectory (h : t.Relisted u) (hnames : t.NamesDiffer) (hplace : t.HasDirectory place) :
    u.HasDirectory place := by
  obtain ⟨entries, hentries⟩ := hplace
  obtain ⟨other, hother, h'⟩ := h.exists_get? hnames hentries
  obtain ⟨others, rfl⟩ := h'.exists_directory rfl
  exact ⟨others, hother⟩

end FileTree

namespace FileSystem

variable {s s' : FileSystem} {p : Path} {found : FileTree}

theorem namesDiffer_of_find? (hnames : s.root.NamesDiffer) (h : s.find? p = some found) :
    found.NamesDiffer := by
  obtain ⟨place, -, hfound⟩ := Option.bind_eq_some_iff.mp h
  exact hnames.of_get? hfound

/-- Paths lead to listings of the same. -/
theorem exists_find?_of_relisted (h : s.root.Relisted s'.root) (hworking : s'.working = s.working)
    (hnames : s.root.NamesDiffer) (hfound : s.find? p = some found) :
    ∃ other, s'.find? p = some other ∧ found.Relisted other := by
  obtain ⟨place, hplace, hfound⟩ := Option.bind_eq_some_iff.mp hfound
  obtain ⟨other, hother, h'⟩ := h.exists_get? hnames hfound
  have hplace' := place?_of_keeps hworking (fun q hq => h.hasDirectory hnames hq) hplace
  exact ⟨other, Option.bind_eq_some_iff.mpr ⟨place, hplace', hother⟩, h'⟩

theorem find?_none_of_relisted (h : s.root.Relisted s'.root) (hworking : s'.working = s.working)
    (hnames : s.root.NamesDiffer) (hnone : s.find? p = none) : s'.find? p = none := by
  refine Option.eq_none_iff_forall_ne_some.mpr fun other hother => ?_
  obtain ⟨found, hfound, -⟩ :=
    exists_find?_of_relisted h.symm hworking.symm (h.namesDiffer hnames) hother
  rw [hnone] at hfound
  cases hfound

end FileSystem
end ClassScribe
