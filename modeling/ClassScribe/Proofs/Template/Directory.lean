import Mathlib.Data.List.Sort
import ClassScribe.Proofs.Files.Listing
import ClassScribe.Proofs.Template.Ancestry
import ClassScribe.Template.Listing

/-! # Directories of templates

The files that are loaded from a tree are its listing (`exists_listing`), which is determined by what the
tree holds at its places (`IsListing.eq`). So two listings of a directory load alike, and each file on the
way is parsed and laid over what has been loaded before (`loadDirectory_relisted`). -/

namespace ClassScribe.Template

variable {options : Spacing} {p directory : Path} {t u : FileTree} {entries : List (String × FileTree)}
  {files others : List (List String × Option String)}

/-! ### The files of a directory -/

/-- The file at a place below a directory, as it is loaded. -/
def located (directory : Path) (f : List String × Option String) : Path × Option String :=
  (directory.below f.1, f.2)

theorem IsListing.eq (h : IsListing directory t files) (h' : IsListing directory t others) :
    files = others := by
  have : Std.Irrefl fun f g : List String × Option String => f.1 < g.1 := ⟨fun f => lt_irrefl f.1⟩
  have : Std.Antisymm fun f g : List String × Option String => f.1 < g.1 :=
    ⟨fun f g hfg hgf => absurd hgf (lt_asymm hfg)⟩
  refine h.sorted.eq_of_mem_iff h'.sorted fun f => ?_
  obtain ⟨place, content⟩ := f
  rw [h.mem_iff, h'.mem_iff]

theorem IsListing.congr (h : IsListing directory t files) (hsame : ∀ place, t.file? place = u.file? place) :
    IsListing directory u files :=
  ⟨h.sorted, fun place content => by rw [h.mem_iff, hsame]⟩

theorem filesByName_eq_map (p : Path) (entries : List (String × FileTree)) :
    filesByName p entries = entries.map fun e => (e.1, filesIn (p.join ⟨e.1⟩) e.2) := by
  induction entries with
  | nil => rfl
  | cons e rest ih =>
      obtain ⟨name, t⟩ := e
      rw [filesByName, ih, List.map_cons]

/-- The entries of a directory in the order of their names. -/
def byName (entries : List (String × FileTree)) : List (String × FileTree) :=
  entries.mergeSort (·.1 ≤ ·.1)

theorem filesIn_directory (p : Path) (entries : List (String × FileTree)) :
    filesIn p (.directory entries) =
      (byName entries).flatMap fun e => filesIn (p.join ⟨e.1⟩) e.2 := by
  have hsort : (byName entries).map (fun e => (e.1, filesIn (p.join ⟨e.1⟩) e.2)) =
      (filesByName p entries).mergeSort (·.1 ≤ ·.1) := by
    rw [filesByName_eq_map]
    exact List.map_mergeSort fun _ _ _ _ => rfl
  rw [filesIn, ← hsort, List.flatMap_map]

/-- Names that differ ascend strictly when they are sorted. -/
theorem sorted_byName (h : (entries.map (·.1)).Nodup) : (byName entries).Pairwise (·.1 < ·.1) := by
  have hle : (byName entries).Pairwise (·.1 ≤ ·.1) := by
    refine (List.pairwise_mergeSort (fun a b c hab hbc => ?_) (fun a b => ?_) entries).imp of_decide_eq_true
    · exact decide_eq_true (le_trans (of_decide_eq_true hab) (of_decide_eq_true hbc))
    · simpa using le_total a.1 b.1
  have hne : (byName entries).Pairwise (·.1 ≠ ·.1) := by
    have hperm := (List.mergeSort_perm entries (·.1 ≤ ·.1)).map (·.1)
    exact List.pairwise_map.mp (hperm.symm.nodup h)
  exact hle.imp₂ (fun _ _ h hne => lt_of_le_of_ne h hne) hne

theorem IsListing.exists_entry {f : List String × Option String}
    (h : IsListing directory (.directory entries) files) (hf : f ∈ files) :
    ∃ e ∈ entries, ∃ more, f.1 = e.1 :: more := by
  obtain ⟨hfile, -⟩ := (h.mem_iff f.1 f.2).mp hf
  obtain ⟨n, more, u, hplace, hu⟩ := FileTree.exists_lookup_of_file? hfile
  exact ⟨(n, u), mem_of_lookup hu, more, hplace⟩

theorem IsListing.cons {name : String} (hname : ∀ e ∈ entries, name < e.1)
    (h : IsListing (directory.join ⟨name⟩) t files) (hrest : IsListing directory (.directory entries) others) :
    IsListing directory (.directory ((name, t) :: entries))
      (files.map (fun f => (name :: f.1, f.2)) ++ others) := by
  constructor
  · refine List.pairwise_append.mpr ⟨?_, hrest.sorted, ?_⟩
    · exact List.pairwise_map.mpr (h.sorted.imp fun hlt => List.cons_lt_cons_self.mpr hlt)
    · intro f hf g hg
      obtain ⟨f, -, rfl⟩ := List.mem_map.mp hf
      obtain ⟨e, he, more, hplace⟩ := hrest.exists_entry hg
      rw [hplace]
      exact List.cons_lt_cons_iff.mpr (.inl (hname e he))
  · intro place content
    rw [List.mem_append, List.mem_map]
    constructor
    · rintro (⟨f, hf, heq⟩ | hmem)
      · cases heq
        rw [FileTree.file?_directory_cons_self]
        exact (h.mem_iff f.1 f.2).mp hf
      · obtain ⟨e, he, more, rfl⟩ := hrest.exists_entry hmem
        rw [FileTree.file?_directory_cons_of_ne (ne_of_gt (hname e he))]
        exact (hrest.mem_iff _ _).mp hmem
    · rintro ⟨hfile, hext⟩
      obtain ⟨n, more, u, rfl, -⟩ := FileTree.exists_lookup_of_file? hfile
      by_cases hn : n = name
      · subst hn
        rw [FileTree.file?_directory_cons_self] at hfile
        exact .inl ⟨_, (h.mem_iff more content).mpr ⟨hfile, hext⟩, rfl⟩
      · rw [FileTree.file?_directory_cons_of_ne hn] at hfile
        exact .inr ((hrest.mem_iff _ _).mpr ⟨hfile, hext⟩)

/-- Entries that ascend have a listing, if each of them has one. -/
theorem exists_listing_of_sorted (directory : Path) (hsorted : entries.Pairwise (·.1 < ·.1))
    (h : ∀ e ∈ entries, ∀ p, ∃ files, filesIn p e.2 = files.map (located p) ∧ IsListing p e.2 files) :
    ∃ files, entries.flatMap (fun e => filesIn (directory.join ⟨e.1⟩) e.2) =
      files.map (located directory) ∧ IsListing directory (.directory entries) files := by
  induction entries with
  | nil =>
      refine ⟨[], rfl, .nil, fun place content => ⟨fun hmem => (List.not_mem_nil hmem).elim, ?_⟩⟩
      rintro ⟨hfile, -⟩
      cases place <;> cases hfile
  | cons e rest ih =>
      obtain ⟨name, t⟩ := e
      obtain ⟨hname, hrest⟩ := List.pairwise_cons.mp hsorted
      obtain ⟨others, heq', hothers⟩ := ih hrest fun e he => h e (List.mem_cons_of_mem _ he)
      obtain ⟨files, heq, hfiles⟩ := h _ List.mem_cons_self (directory.join ⟨name⟩)
      refine ⟨_, ?_, hfiles.cons hname hothers⟩
      rw [List.flatMap_cons, heq, heq', List.map_append, List.map_map]
      rfl

theorem exists_listing_file (content : Option String) (directory : Path) :
    ∃ files, filesIn directory (.file content) = files.map (located directory) ∧
      IsListing directory (.file content) files := by
  rw [filesIn]
  by_cases hext : directory.extension? = some fileExtension
  · refine ⟨[([], content)], if_pos hext, List.pairwise_singleton _ _, fun place found => ?_⟩
    cases place with
    | nil => simp [FileTree.file?, FileTree.get?, Path.below, hext, eq_comm]
    | cons n more => simp [FileTree.file?, FileTree.get?, FileTree.entry?]
  · refine ⟨[], if_neg hext, .nil, fun place found => ?_⟩
    cases place with
    | nil => simp [Path.below, hext]
    | cons n more => simp [FileTree.file?, FileTree.get?, FileTree.entry?]

/-- What is loaded from a tree is its listing. -/
theorem exists_listing (h : t.NamesDiffer) (directory : Path) :
    ∃ files, filesIn directory t = files.map (located directory) ∧ IsListing directory t files := by
  induction h generalizing directory with
  | file content => exact exists_listing_file content directory
  | @directory entries hnodup hbelow ih =>
      have hperm : (byName entries).Perm entries := List.mergeSort_perm entries _
      obtain ⟨files, heq, hfiles⟩ := exists_listing_of_sorted directory (sorted_byName hnodup)
        fun e he => ih e (hperm.mem_iff.mp he)
      rw [filesIn_directory]
      refine ⟨files, heq, hfiles.congr fun place => ?_⟩
      exact ((FileTree.Relisted.order hperm.symm).file?_eq (.directory hnodup hbelow) place).symm

/-- The order in which directories list their entries does not count. -/
theorem filesIn_relisted (h : t.Relisted u) (hnames : t.NamesDiffer) (directory : Path) :
    filesIn directory u = filesIn directory t := by
  obtain ⟨files, heq, hfiles⟩ := exists_listing hnames directory
  obtain ⟨others, heq', hothers⟩ := exists_listing (h.namesDiffer hnames) directory
  rw [heq, heq', (hfiles.congr (h.file?_eq hnames)).eq hothers]

namespace Library

variable {l : Library} {s s' : FileSystem} {content : Option String} {e : Error} {template : Template}
  {templates : List Template} {outcome : Except Error Nat} {f : List String × Option String}

/-! ### One file after the other -/

theorem addFile_of_gives (h : FileGives options p content template) :
    l.addFile options p content = .ok (l.insert template, template.name) := by
  obtain ⟨text, rfl, hparse⟩ := h.parsed
  unfold addFile add
  rw [h.identifier]
  refine bind_eq_ok.mpr ⟨l.insert template, ?_, rfl⟩
  exact bind_eq_ok.mpr ⟨template, hparse, rfl⟩

theorem addFile_of_fails (h : FileFails options p content e) : l.addFile options p content = .error e := by
  cases h with
  | unreadable => rfl
  | unnamed hid =>
      unfold addFile
      rw [hid]
  | @wrong id text _ hid hparse =>
      unfold addFile add
      rw [hid]
      exact bind_eq_error.mpr (.inl (bind_eq_error.mpr (.inl hparse)))

theorem gives_or_fails (options : Spacing) (p : Path) (content : Option String) :
    (∃ t, FileGives options p content t) ∨ ∃ e, FileFails options p content e := by
  cases content with
  | none => exact .inr ⟨_, .unreadable⟩
  | some text =>
      cases hid : identifier? p with
      | none => exact .inr ⟨_, .unnamed hid⟩
      | some id =>
          cases hparse : parse options id text with
          | error e => exact .inr ⟨e, .wrong hid hparse⟩
          | ok t =>
              obtain rfl := name_of_parse hparse
              exact .inl ⟨t, hid, text, rfl, hparse⟩

theorem filesGive_cons (hf : FileGives options (directory.below f.1) f.2 template)
    (h : FilesGive options directory files templates outcome) :
    FilesGive options directory (f :: files) (template :: templates) (outcome.map (· + 1)) := by
  cases h with
  | all h => exact .all (.cons hf h)
  | upTo h hfails => exact .upTo (.cons hf h) hfails

/-- Files are loaded up to the first one that fails. The induction is on the files, with any library and any
count to start from. -/
theorem exists_addFiles (options : Spacing) (directory : Path) (l : Library) (loaded : Nat)
    (files : List (List String × Option String)) :
    ∃ templates outcome, FilesGive options directory files templates outcome ∧
      addFiles options l loaded (files.map (located directory)) =
        (templates.foldl insert l, outcome.map (loaded + ·)) := by
  induction files generalizing l loaded with
  | nil => exact ⟨[], .ok 0, .all .nil, rfl⟩
  | cons f files ih =>
      rw [List.map_cons, located, addFiles]
      rcases gives_or_fails options (directory.below f.1) f.2 with ⟨t, ht⟩ | ⟨e, he⟩
      · obtain ⟨templates, outcome, hgive, heq⟩ := ih (l.insert t) (loaded + 1)
        refine ⟨t :: templates, outcome.map (· + 1), filesGive_cons ht hgive, ?_⟩
        rw [addFile_of_gives ht]
        show addFiles options (l.insert t) (loaded + 1) _ = _
        rw [heq]
        cases outcome with
        | error e => rfl
        | ok count =>
            have hcount : loaded + 1 + count = loaded + (count + 1) := by omega
            show (_, Except.ok (loaded + 1 + count)) = (_, Except.ok (loaded + (count + 1)))
            rw [hcount]
            rfl
      · refine ⟨[], .error e, .upTo .nil he, ?_⟩
        rw [addFile_of_fails he]
        rfl

/-! ### Templates over a library -/

theorem mem_insertInto_self (t : Template) (ts : List Template) : t ∈ insertInto t ts := by
  induction ts with
  | nil => exact List.mem_singleton_self t
  | cons s rest ih =>
      rw [insertInto]
      split
      · exact List.mem_cons_self
      · split
        · exact List.mem_cons_self
        · exact List.mem_cons_of_mem _ ih

theorem get?_insert (l : Library) (t : Template) (name : String) :
    (l.insert t).get? name = ([t].find? (·.name == name)).or (l.get? name) := by
  by_cases hname : name = t.name
  · subst hname
    rw [List.find?_cons, beq_self_eq_true]
    exact get?_of_mem (mem_insertInto_self t l.templates)
  · rw [List.find?_cons, beq_false_of_ne (Ne.symm hname)]
    exact get?_insert_of_ne hname

theorem overlaid_foldl (l : Library) (templates : List Template) :
    l.Overlaid templates (templates.foldl insert l) := by
  intro name
  induction templates generalizing l with
  | nil => rfl
  | cons t rest ih =>
      rw [List.foldl_cons, ih, get?_insert, List.reverse_cons, List.find?_append, Option.or_assoc]

/-! ### Directories -/

theorem loadDirectory_of_find? (h : s.find? directory = some (.directory entries)) :
    l.loadDirectory options s directory = addFiles options l 0 (filesIn directory (.directory entries)) := by
  unfold loadDirectory
  rw [h]

theorem loadDirectory_eq_of_relisted (l : Library) (options : Spacing) (directory : Path)
    (h : s.root.Relisted s'.root) (hworking : s'.working = s.working) (hnames : s.root.NamesDiffer) :
    l.loadDirectory options s' directory = l.loadDirectory options s directory := by
  cases hfind : s.find? directory with
  | none =>
      have hfind' := FileSystem.find?_none_of_relisted h hworking hnames hfind
      unfold loadDirectory
      rw [hfind, hfind']
  | some t =>
      obtain ⟨u, hfind', htu⟩ := FileSystem.exists_find?_of_relisted h hworking hnames hfind
      cases t with
      | file content =>
          obtain rfl := htu.eq_file rfl
          unfold loadDirectory
          rw [hfind, hfind']
      | directory entries =>
          obtain ⟨others, rfl⟩ := htu.exists_directory rfl
          rw [loadDirectory_of_find? hfind, loadDirectory_of_find? hfind']
          rw [filesIn_relisted htu (FileSystem.namesDiffer_of_find? hnames hfind)]

/-- What a directory with names that differ loads. -/
theorem exists_loadDirectory (l : Library) (options : Spacing)
    (hfind : s.find? directory = some (.directory entries))
    (hnames : (FileTree.directory entries).NamesDiffer) : ∃ files templates,
      IsListing directory (.directory entries) files ∧
      FilesGive options directory files templates (l.loadDirectory options s directory).2 ∧
      l.Overlaid templates (l.loadDirectory options s directory).1 := by
  obtain ⟨files, heq, hfiles⟩ := exists_listing hnames directory
  obtain ⟨templates, outcome, hgive, hadd⟩ := exists_addFiles options directory l 0 files
  have hcount : outcome.map (0 + ·) = outcome := by
    cases outcome with
    | error e => rfl
    | ok count => exact congrArg Except.ok (Nat.zero_add count)
  rw [loadDirectory_of_find? hfind, heq, hadd, hcount]
  exact ⟨files, templates, hfiles, hgive, overlaid_foldl l templates⟩

/-- Loading a directory does not depend on the order in which directories are listed. The templates of its
files, in the order of their places and up to the first file that fails, are laid over the library. -/
theorem loadDirectory_relisted (l : Library) (options : Spacing) (directory : Path)
    (h : s.root.Relisted s'.root) (hworking : s'.working = s.working) (hnames : s.root.NamesDiffer) :
    l.loadDirectory options s' directory = l.loadDirectory options s directory ∧
      ∀ entries, s.find? directory = some (.directory entries) → ∃ files templates,
        IsListing directory (.directory entries) files ∧
        FilesGive options directory files templates (l.loadDirectory options s directory).2 ∧
        l.Overlaid templates (l.loadDirectory options s directory).1 := by
  refine ⟨loadDirectory_eq_of_relisted l options directory h hworking hnames, fun entries hfind => ?_⟩
  exact exists_loadDirectory l options hfind (FileSystem.namesDiffer_of_find? hnames hfind)

/-- A directory with a template and a file that is no text, in either order. -/
theorem loadDirectory_relisted_swapped :
    let listed : FileTree := .directory [("page.tmpl", .file (some "text")), ("spare.tmpl", .file none)]
    let swapped : FileTree := .directory [("spare.tmpl", .file none), ("page.tmpl", .file (some "text"))]
    let s : FileSystem := ⟨.directory [("forms", listed)], []⟩
    let s' : FileSystem := ⟨.directory [("forms", swapped)], []⟩
    s.root.Relisted s'.root ∧ s.root.NamesDiffer ∧
      empty.loadDirectory .standard s' ⟨"forms"⟩ = empty.loadDirectory .standard s ⟨"forms"⟩ ∧
      ∃ files templates, IsListing ⟨"forms"⟩ listed files ∧
        FilesGive .standard ⟨"forms"⟩ files templates (empty.loadDirectory .standard s ⟨"forms"⟩).2 ∧
        empty.Overlaid templates (empty.loadDirectory .standard s ⟨"forms"⟩).1 := by
  intro listed swapped s s'
  have h : s.root.Relisted s'.root := .inside [] "forms" [] (.order (.swap _ _ _))
  have hnames : s.root.NamesDiffer := by
    refine .directory (by decide) fun e he => ?_
    obtain rfl := List.mem_singleton.mp he
    refine .directory (by decide) fun e he => ?_
    rw [List.mem_cons, List.mem_singleton] at he
    rcases he with rfl | rfl
    · exact .file _
    · exact .file _
  have hloaded := loadDirectory_relisted empty .standard ⟨"forms"⟩ h rfl hnames
  exact ⟨h, hnames, hloaded.1, hloaded.2 _ rfl⟩

end Library

end ClassScribe.Template
