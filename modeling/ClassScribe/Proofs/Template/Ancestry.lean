import ClassScribe.Proofs.Template.Composition
import ClassScribe.Proofs.Template.Lineage

/-! # Ancestries

The chain of a template is the way that its parents lead to a root, the root first, and there is one just
if that way ends at a root (`chainFor_eq_ok_iff`). Two ways from one template go along the same parents,
so that one which cannot be continued contains all others (`Ascends.suffix_of_top`): what the walk
along the parents comes to is the only thing that it can come to. -/

namespace ClassScribe.Template.Library

variable {l : Library} {name n child parent top : String} {path path' names : List String}
  {t u : Template} {options : Spacing} {chain : Chain} {err : Error}

/-! ### Gathered templates -/

theorem name_of_parse {content : String} (h : parse options name content = .ok t) : t.name = name := by
  obtain ⟨_, _, _, _, _, _, rfl⟩ := parse_eq_ok_iff_sentence.mp h
  rfl

theorem mem_of_insert (h : (l.insert t).get? n = some u) : u = t ∨ l.get? n = some u := by
  obtain rfl := name_of_get? h
  rcases mem_insertInto (mem_of_get? h) with rfl | hmem
  · exact .inl rfl
  · exact .inr (get?_of_mem hmem)

theorem get?_gather {sources : List (String × String)} (h : (gather options sources).get? n = some t) :
    t.name = n ∧ ∃ content, (n, content) ∈ sources ∧ parse options n content = .ok t := by
  refine ⟨name_of_get? h, ?_⟩
  induction sources using List.reverseRecOn with
  | nil => cases h
  | append_singleton sources source ih =>
      have hkeep : (gather options sources).get? n = some t →
          ∃ content, (n, content) ∈ sources ++ [source] ∧ parse options n content = .ok t := by
        intro hn
        obtain ⟨content, hmem, hparse⟩ := ih hn
        exact ⟨content, List.mem_append_left _ hmem, hparse⟩
      unfold gather at h
      rw [List.foldl_append, List.foldl_cons, List.foldl_nil] at h
      change ((gather options sources).addParsed options source).get? n = some t at h
      unfold addParsed at h
      split at h
      · next l' hadd =>
          obtain ⟨u, hparse, hinsert⟩ := bind_eq_ok.mp hadd
          cases hinsert
          rcases mem_of_insert h with rfl | hn
          · obtain rfl : source.1 = n := (name_of_parse hparse).symm.trans (name_of_get? h)
            exact ⟨source.2, List.mem_append_right _ List.mem_cons_self, hparse⟩
          · exact hkeep hn
      · exact hkeep h

/-! ### Ways along the parents -/

/-- The names that one comes along from a template on, the last parent first. -/
inductive Ascends (l : Library) (name : String) : List String → Prop
  | start : Ascends l name [name]
  | up {child parent : String} {path : List String} :
      Ascends l name (child :: path) → l.Extends child parent → Ascends l name (parent :: child :: path)

/-- What the chain of a template has to be: from a root on each layer is extended by the next one, up to
the template, and no layer is there twice. -/
structure IsLineage (l : Library) (name : String) (chain : Chain) : Prop where
  root : ∃ t, l.get? chain.base = some t ∧ t.parent = none
  linked : chain.layers.IsChain fun parent child => l.Extends child parent
  leaf_eq : chain.leaf = name
  nodup : chain.layers.Nodup

/-- Why a template has no chain: it is not there, a parent on the way is not there, or the way comes round
to a name again. The error names the place, and the way round. -/
inductive Strays (l : Library) (name : String) : Error → Prop
  | unknown : l.get? name = none → Strays l name (.resolution name none .unknownTemplate)
  | parent {child parent : String} {path : List String} :
      l.Ascends name (parent :: child :: path) → (child :: path).Nodup → l.get? parent = none →
      Strays l name (.resolution child none (.unknownParent parent))
  | cycle {again : String} {path : List String} :
      l.Ascends name (again :: path) → path.Nodup → again ∈ path →
      Strays l name (.resolution name none (.cycle (again :: path)))

theorem Ascends.linked (h : l.Ascends name path) :
    path.IsChain fun parent child => l.Extends child parent := by
  induction h with
  | start => exact .singleton _
  | up _ hext ih => exact .cons_cons hext ih

theorem Ascends.last_eq (h : l.Ascends name path) : path.getLast? = some name := by
  induction h with
  | start => rfl
  | up _ _ ih => rw [List.getLast?_cons_cons, ih]

theorem ascends_of_linked (hlinked : path.IsChain fun parent child => l.Extends child parent)
    (hlast : path.getLast? = some name) : l.Ascends name path := by
  induction path with
  | nil => cases hlast
  | cons parent path ih =>
      cases path with
      | nil =>
          cases hlast
          exact .start
      | cons child path =>
          rw [List.isChain_cons_cons] at hlinked
          rw [List.getLast?_cons_cons] at hlast
          exact .up (ih hlinked.2 hlast) hlinked.1

/-- Below the last parent of a way, every template extends another one. -/
theorem Ascends.extends_of_mem (h : l.Ascends name (top :: path)) :
    ∀ n ∈ path, ∃ parent, l.Extends n parent := by
  induction path generalizing top with
  | nil => exact List.forall_mem_nil _
  | cons child path ih =>
      cases h with
      | up hbelow hext =>
          intro n hn
          rcases List.mem_cons.mp hn with rfl | hn
          · exact ⟨top, hext⟩
          · exact ih hbelow n hn

/-- A way that cannot be continued contains all others from the same template. -/
theorem Ascends.suffix_of_top (h : l.Ascends name (top :: path)) (htop : ∀ p, ¬l.Extends top p)
    (h' : l.Ascends name path') : path' <:+ top :: path := by
  induction h' with
  | start =>
      obtain ⟨upper, hupper⟩ := List.getLast?_eq_some_iff.mp h.last_eq
      exact ⟨upper, hupper.symm⟩
  | @up child parent below _ hext ih =>
      obtain ⟨upper, hupper⟩ := ih
      cases upper using List.reverseRecOn with
      | nil =>
          obtain rfl : child = top := (List.cons.inj hupper).1
          exact absurd hext (htop parent)
      | append_singleton upper p =>
          -- What the way goes on to above `child` is the parent of `child`.
          have hway : upper ++ p :: child :: below = top :: path := by
            rw [← hupper, List.append_assoc, List.singleton_append]
          have hlinked := h.linked
          rw [← hway, List.isChain_append_cons_cons] at hlinked
          obtain rfl : p = parent := hlinked.2.1.unique hext
          exact ⟨upper, hway⟩

/-! ### Walks -/

/-- How a walk along the parents ends: at a root, at a name that it has come along, or at a parent that is
not there. -/
inductive WalkComes (l : Library) (leaf : String) : Except Error (List String) → Prop
  | root {top : String} {path : List String} {t : Template} : l.Ascends leaf (top :: path) →
      (top :: path).Nodup → l.get? top = some t → t.parent = none → WalkComes l leaf (.ok (top :: path))
  | strays {err : Error} : l.Strays leaf err → WalkComes l leaf (.error err)

theorem walk_comes {leaf : String} (ht : l.get? top = some t) (hway : l.Ascends leaf (top :: path))
    (hnodup : (top :: path).Nodup) : l.WalkComes leaf (l.walk leaf (top :: path) t) := by
  generalize hnames : top :: path = names at hway hnodup
  fun_induction walk l leaf names t generalizing top path with
  | case1 names t hnone =>
      cases hnames
      exact .root hway hnodup ht hnone
  | case2 names t parent hp hmem =>
      cases hnames
      exact .strays (.cycle (.up hway ⟨t, ht, hp⟩) hnodup (List.contains_iff_mem.mp hmem))
  | case3 names t parent hp _ hnone =>
      cases hnames
      obtain rfl := name_of_get? ht
      exact .strays (.parent (.up hway ⟨t, ht, hp⟩) hnodup hnone)
  | case4 names t parent hp hnew u hu ih =>
      cases hnames
      have hfresh : parent ∉ top :: path := fun hmem => hnew (List.contains_iff_mem.mpr hmem)
      exact ih hu rfl (.up hway ⟨t, ht, hp⟩) (List.nodup_cons.mpr ⟨hfresh, hnodup⟩)

/-! ### Chains -/

theorem getLast?_layers (chain : Chain) : chain.layers.getLast? = some chain.leaf := by
  unfold Chain.layers Chain.leaf
  rw [List.getLast?_cons]

theorem IsLineage.ascends (h : l.IsLineage name chain) : l.Ascends name chain.layers :=
  ascends_of_linked h.linked (by rw [getLast?_layers, h.leaf_eq])

theorem IsLineage.not_extends (h : l.IsLineage name chain) (p : String) : ¬l.Extends chain.base p := by
  obtain ⟨t, ht, hnone⟩ := h.root
  rintro ⟨u, hu, hp⟩
  obtain rfl : t = u := Option.some.inj (ht.symm.trans hu)
  rw [hnone] at hp
  cases hp

theorem IsLineage.get?_ne_none (h : l.IsLineage name chain) : ∀ n ∈ chain.layers, l.get? n ≠ none := by
  intro n hn hnone
  rcases List.mem_cons.mp hn with rfl | hn
  · obtain ⟨t, ht, -⟩ := h.root
    rw [hnone] at ht
    cases ht
  · obtain ⟨_, t, ht, -⟩ := h.ascends.extends_of_mem n hn
    rw [hnone] at ht
    cases ht

theorem IsLineage.suffix (h : l.IsLineage name chain) (hway : l.Ascends name path) :
    path <:+ chain.layers := h.ascends.suffix_of_top h.not_extends hway

/-- A template has no more than one chain. -/
theorem IsLineage.unique {chain' : Chain} (h : l.IsLineage name chain) (h' : l.IsLineage name chain') :
    chain = chain' := by
  have hlayers : chain.layers = chain'.layers :=
    (h'.suffix h.ascends).eq_of_length_le (h.suffix h'.ascends).length_le
  cases chain
  cases chain'
  cases hlayers
  rfl

/-- A template with a chain does not stray. -/
theorem IsLineage.not_strays (h : l.IsLineage name chain) : ¬l.Strays name err := by
  intro hstrays
  cases hstrays with
  | unknown hnone =>
      have hmem : name ∈ chain.layers := (h.suffix .start).subset List.mem_cons_self
      exact h.get?_ne_none name hmem hnone
  | @parent child p path hway _ hnone =>
      exact h.get?_ne_none p ((h.suffix hway).subset List.mem_cons_self) hnone
  | cycle hway _ hmem =>
      exact (List.nodup_cons.mp (h.nodup.sublist (h.suffix hway).sublist)).1 hmem

theorem chainFor_cases (l : Library) (name : String) :
    (∃ chain, l.chainFor name = .ok chain ∧ l.IsLineage name chain) ∨
      ∃ err, l.chainFor name = .error err ∧ l.Strays name err := by
  cases ht : l.get? name with
  | none =>
      refine .inr ⟨_, ?_, .unknown ht⟩
      unfold chainFor
      rw [ht]
  | some t =>
      rw [chainFor_eq ht]
      have hcomes := walk_comes ht .start (List.pairwise_singleton _ name)
      generalize l.walk name [name] t = r at hcomes
      cases hcomes with
      | @root top path u hway hnodup hu hnone =>
          refine .inl ⟨⟨top, path⟩, rfl, ⟨u, hu, hnone⟩, hway.linked, ?_, hnodup⟩
          exact Option.some.inj ((getLast?_layers ⟨top, path⟩).symm.trans hway.last_eq)
      | strays hstrays => exact .inr ⟨_, rfl, hstrays⟩

theorem chainFor_eq_ok_iff : l.chainFor name = .ok chain ↔ l.IsLineage name chain := by
  rcases l.chainFor_cases name with ⟨c, hc, hlineage⟩ | ⟨err, herr, hstrays⟩
  · rw [hc, Except.ok.injEq]
    constructor
    · rintro rfl
      exact hlineage
    · exact hlineage.unique
  · rw [herr]
    constructor
    · intro h
      cases h
    · intro h
      exact absurd hstrays h.not_strays

theorem strays_of_chainFor (h : l.chainFor name = .error err) : l.Strays name err := by
  rcases l.chainFor_cases name with ⟨c, hc, -⟩ | ⟨err', herr, hstrays⟩
  · rw [hc] at h
    cases h
  · rw [herr] at h
    cases h
    exact hstrays

theorem not_extends_of_none (h : l.get? top = none) (p : String) : ¬l.Extends top p := by
  rintro ⟨t, ht, -⟩
  rw [h] at ht
  cases ht

/-- Where there is no chain, a cycle is reported just if the way comes round to a name again. -/
theorem Strays.cycle_iff (h : l.Strays name err) :
    (∃ names, err = .resolution name none (.cycle names)) ↔ ∃ path, l.Ascends name path ∧ ¬path.Nodup := by
  cases h with
  | unknown hnone =>
      constructor
      · rintro ⟨_, he⟩
        cases he
      · rintro ⟨path, hway, hagain⟩
        have hsuffix := Ascends.start.suffix_of_top (not_extends_of_none hnone) hway
        exact absurd ((List.pairwise_singleton _ name).sublist hsuffix.sublist) hagain
  | @parent child p below htop hnodup hnone =>
      constructor
      · rintro ⟨_, he⟩
        cases he
      · rintro ⟨path, hway, hagain⟩
        have hfresh : p ∉ child :: below := by
          intro hmem
          obtain ⟨_, hext⟩ := htop.extends_of_mem p hmem
          exact not_extends_of_none hnone _ hext
        have hsuffix := htop.suffix_of_top (not_extends_of_none hnone) hway
        exact absurd ((List.nodup_cons.mpr ⟨hfresh, hnodup⟩).sublist hsuffix.sublist) hagain
  | @cycle again below hway _ hmem =>
      constructor
      · intro _
        exact ⟨again :: below, hway, fun h => (List.nodup_cons.mp h).1 hmem⟩
      · intro _
        exact ⟨_, rfl⟩

/-! ### Composing chains -/

theorem inheritedBody_eq_error {above : String} {down : List Template}
    (h : inheritedBody name above down = .error err) :
    ∃ layer ∈ above :: down.map (·.name), err = .resolution layer (some name) .noSuper := by
  induction down generalizing above err with
  | nil =>
      cases h
      exact ⟨above, List.mem_cons_self, rfl⟩
  | cons t lower ih =>
      cases hb : t.block? name with
      | none =>
          rw [inheritedBody_of_none hb] at h
          obtain ⟨layer, hlayer, rfl⟩ := ih h
          refine ⟨layer, ?_, rfl⟩
          rw [List.map_cons]
          rcases List.mem_cons.mp hlayer with rfl | hlayer
          · exact List.mem_cons_self
          · exact List.mem_cons_of_mem _ (List.mem_cons_of_mem _ hlayer)
      | some b =>
          rw [inheritedBody_of_some hb] at h
          split at h
          · obtain ⟨layer, hlayer, rfl⟩ := ih (map_eq_error.mp h)
            exact ⟨layer, List.mem_cons_of_mem _ hlayer, rfl⟩
          · cases h

theorem inheritedBlock_eq_error {leaf : String} {down : List Template}
    (h : inheritedBlock leaf name down = .error err) :
    err = .missingBlock leaf name ∨
      ∃ layer ∈ down.map (·.name), err = .resolution layer (some name) .noSuper := by
  induction down with
  | nil =>
      cases h
      exact .inl rfl
  | cons t lower ih =>
      have hlower (h : inheritedBlock leaf name lower = .error err) : err = .missingBlock leaf name ∨
          ∃ layer ∈ (t :: lower).map (·.name), err = .resolution layer (some name) .noSuper :=
        (ih h).imp_right fun ⟨layer, hlayer, he⟩ => ⟨layer, List.mem_cons_of_mem _ hlayer, he⟩
      cases hb : t.block? name with
      | none =>
          rw [inheritedBlock_of_none hb] at h
          exact hlower h
      | some b =>
          cases hr : b.required with
          | true =>
              rw [inheritedBlock_of_required hb hr] at h
              exact hlower h
          | false =>
              rw [inheritedBlock_of_defined hb hr] at h
              obtain ⟨layer, hlayer, rfl⟩ := inheritedBody_eq_error (map_eq_error.mp h)
              refine .inr ⟨layer, ?_, rfl⟩
              rcases List.mem_cons.mp hlayer with rfl | hlayer
              · exact List.mem_cons_self
              · exact hlayer

/-- The layers of a chain are there, each of them once, and the first one is a root. What composing them
can fail by are the blocks: one of them is only declared, or a body calls for one that is not there. -/
theorem IsLineage.resolve_eq_error (h : l.IsLineage name chain) (herr : l.resolve chain = .error err) :
    (∃ block, err = .missingBlock name block) ∨
      ∃ layer ∈ chain.layers, ∃ block, err = .resolution layer (some block) .noSuper := by
  obtain ⟨layers, hlayers⟩ := mapM_source_iff.mpr h.get?_ne_none
  have hcollect : collectLayers l.get? chain [] chain.layers = .ok layers :=
    (collectLayers_eq_ok (fun _ _ => name_of_get?) chain _ _ _).mpr
      ⟨hlayers, h.nodup, fun _ _ => List.forall_mem_nil _⟩
  have hroot : layers.head?.bind (·.parent) = none := by
    obtain ⟨t, ht, hnone⟩ := h.root
    rw [head?_of_mapM_layers hlayers, ht]
    exact hnone
  have hmem : ∀ layer ∈ layers.reverse.map (·.name), layer ∈ chain.layers := by
    intro layer hlayer
    obtain ⟨t, ht, rfl⟩ := List.mem_map.mp hlayer
    rw [List.mem_reverse, ← filterMap_of_collectLayers hcollect] at ht
    obtain ⟨n, hn, hget⟩ := List.mem_filterMap.mp ht
    rwa [name_of_get? hget]
  unfold resolve at herr
  rw [compose_eq] at herr
  unfold inherit at herr
  rw [hcollect] at herr
  dsimp only [bind, Except.bind] at herr
  rw [hroot] at herr
  rcases bind_eq_error.mp herr with herr | ⟨_, -, herr⟩
  · obtain ⟨block, -, hblock⟩ := exists_of_mapM_error herr
    rw [h.leaf_eq] at hblock
    rcases inheritedBlock_eq_error hblock with rfl | ⟨layer, hlayer, rfl⟩
    · exact .inl ⟨block, rfl⟩
    · exact .inr ⟨layer, hmem layer hlayer, block, rfl⟩
  · cases herr

/-- Whatever sources a library has been gathered from, some of them wrong, each of its templates stands
under its own name. A template has a chain just if its parents lead to a root without coming round,
and the chain is that way, the root first; composing it can only fail by a block. Else the error says
where the way strays, and that it comes round if it does. -/
theorem chainFor_gather (options : Spacing) (sources : List (String × String)) (name : String) :
    (∀ n t, (gather options sources).get? n = some t →
      t.name = n ∧ ∃ content, (n, content) ∈ sources ∧ parse options n content = .ok t) ∧
    (∀ chain, (gather options sources).chainFor name = .ok chain ↔
      (gather options sources).IsLineage name chain) ∧
    (∀ chain err, (gather options sources).chainFor name = .ok chain →
      (gather options sources).resolve chain = .error err →
      (∃ block, err = .missingBlock name block) ∨
        ∃ layer ∈ chain.layers, ∃ block, err = .resolution layer (some block) .noSuper) ∧
    (∀ err, (gather options sources).chainFor name = .error err →
      (gather options sources).Strays name err ∧
        ((∃ names, err = .resolution name none (.cycle names)) ↔
          ∃ path, (gather options sources).Ascends name path ∧ ¬path.Nodup)) := by
  refine ⟨fun n t => get?_gather, fun chain => chainFor_eq_ok_iff, fun chain err hchain => ?_,
    fun err herr => ?_⟩
  · exact (chainFor_eq_ok_iff.mp hchain).resolve_eq_error
  · have hstrays := strays_of_chainFor herr
    exact ⟨hstrays, hstrays.cycle_iff⟩

end ClassScribe.Template.Library
