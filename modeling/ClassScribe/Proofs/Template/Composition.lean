import Mathlib.Data.List.Induction
import ClassScribe.Proofs.Outcome
import ClassScribe.Proofs.Template.Memory

/-! # What a composed template is

Composition and inheritance agree on every chain (`compose_eq`). What inheritance gives is then said
of the layers themselves: which names the blocks have and in which order, which layer each body is
taken from, and on which chains there is no composed template. -/

namespace ClassScribe.Template

/-- Composition with a memory is inheritance without one. -/
theorem compose_eq (source : String → Option Template) (chain : Chain) :
    compose source chain = inherit source chain := by
  unfold compose inherit
  cases collectLayers source chain [] chain.layers with
  | error e => rfl
  | ok layers =>
      dsimp only [bind, Except.bind]
      cases layers.head?.bind (·.parent) with
      | some parent => rfl
      | none =>
          have h : Tracks (Sound layers.reverse) ((blockNames layers).mapM (resolveBlock chain.leaf layers))
              ((blockNames layers).mapM fun name => inheritedBlock chain.leaf name layers.reverse) := by
            refine tracks_mapM fun name => ?_
            have hb : Tracks (Sound layers.reverse) (resolveBlock chain.leaf layers.reverse.reverse name)
                (inheritedBlock chain.leaf name layers.reverse) :=
              tracks_resolveBlock chain.leaf name layers.reverse List.suffix_rfl
            rwa [List.reverse_reverse] at hb
          rw [← h.run (sound_nil _)]
          cases ((blockNames layers).mapM (resolveBlock chain.leaf layers)).run [] with
          | error e => rfl
          | ok r => rfl

/-! ### Layers -/

section
variable {source : String → Option Template}

theorem mapM_source_iff {names : List String} :
    (∃ layers, names.mapM source = some layers) ↔ ∀ n ∈ names, source n ≠ none := by
  induction names with
  | nil => simp
  | cons n names ih =>
      rw [List.forall_mem_cons, ← ih, List.mapM_cons]
      cases source n with
      | none => simp
      | some t => cases names.mapM source <;> simp

theorem collectLayers_eq_ok (hs : ∀ n t, source n = some t → t.name = n) (chain : Chain) :
    ∀ (names : List String) (seen layers : List Template),
      collectLayers source chain seen names = .ok layers ↔
        names.mapM source = some layers ∧ names.Nodup ∧ ∀ n ∈ names, ∀ t ∈ seen, t.name ≠ n
  | [], seen, layers => by
      cases layers <;> simp [collectLayers]
  | n :: names, seen, layers => by
      rw [collectLayers, List.mapM_cons, List.nodup_cons]
      by_cases hn : seen.any (·.name == n) = true
      · rw [if_pos hn]
        obtain ⟨t, ht, hname⟩ := List.any_eq_true.mp hn
        constructor
        · intro h
          cases h
        · rintro ⟨-, -, h⟩
          exact absurd (eq_of_beq hname) (h n List.mem_cons_self t ht)
      · rw [if_neg hn]
        have hn' : ∀ t ∈ seen, t.name ≠ n := by
          intro t ht h
          exact hn (List.any_eq_true.mpr ⟨t, ht, beq_iff_eq.mpr h⟩)
        cases ht : source n with
        | none =>
            constructor
            · intro h
              cases h
            · rintro ⟨h, -⟩
              cases h
        | some t =>
            have htn : t.name = n := hs n t ht
            constructor
            · intro h
              obtain ⟨more, hm, hl⟩ := bind_eq_ok.mp h
              cases hl
              obtain ⟨hmap, hnodup, hseen⟩ := (collectLayers_eq_ok hs chain names _ _).mp hm
              refine ⟨by simp [hmap], ⟨?_, hnodup⟩, ?_⟩
              · intro hmem
                exact hseen n hmem t List.mem_cons_self htn
              · rw [List.forall_mem_cons]
                exact ⟨hn', fun m hm u hu => hseen m hm u (List.mem_cons_of_mem t hu)⟩
            · rintro ⟨hmap, ⟨hnot, hnodup⟩, hseen⟩
              obtain ⟨more, hmore, hl⟩ : ∃ more, names.mapM source = some more ∧ t :: more = layers := by
                simpa [Option.bind_eq_some_iff] using hmap
              rw [List.forall_mem_cons] at hseen
              refine bind_eq_ok.mpr ⟨more, ?_, by rw [← hl]; rfl⟩
              refine (collectLayers_eq_ok hs chain names _ _).mpr ⟨hmore, hnodup, ?_⟩
              intro m hm
              rw [List.forall_mem_cons]
              refine ⟨?_, hseen.2 m hm⟩
              intro h
              exact hnot (by rw [← htn, h]; exact hm)

end

/-! ### Names of blocks -/

/-- Dropping what has been there before leaves the first appearances. The induction is from the end
of the list: a name is kept only if it is not in front. -/
theorem firstAppearances_eraseDups (all : List String) : FirstAppearances all all.eraseDups := by
  induction all using List.reverseRecOn with
  | nil => exact ⟨.nil, fun _ => Iff.rfl, .nil⟩
  | append_singleton l n ih =>
      rw [List.eraseDups_append]
      by_cases hn : n ∈ l
      · have hnone : [n].removeAll l = [] := by simp [List.removeAll, hn]
        rw [hnone, List.eraseDups_nil, List.append_nil]
        refine ⟨ih.nodup, fun m => ?_, ?_⟩
        · rw [ih.mem_iff m, List.mem_append, List.mem_singleton]
          constructor
          · exact .inl
          · rintro (h | rfl)
            · exact h
            · exact hn
        · refine ih.order.imp_of_mem fun ha hb hlt => ?_
          rw [List.idxOf_append, if_pos ((ih.mem_iff _).mp ha), List.idxOf_append,
            if_pos ((ih.mem_iff _).mp hb)]
          exact hlt
      · have hone : [n].removeAll l = [n] := by simp [List.removeAll, hn]
        have hnot : n ∉ l.eraseDups := fun h => hn ((ih.mem_iff n).mp h)
        rw [hone, show [n].eraseDups = [n] from rfl]
        refine ⟨?_, fun m => ?_, ?_⟩
        · exact List.nodup_append.mpr ⟨ih.nodup, by simp, fun a ha b hb hab => by
            rw [List.mem_singleton] at hb
            exact hnot (by rw [← hb, ← hab]; exact ha)⟩
        · rw [List.mem_append, List.mem_append, ih.mem_iff m]
        · refine List.pairwise_append.mpr ⟨?_, by simp, ?_⟩
          · refine ih.order.imp_of_mem fun ha hb hlt => ?_
            rw [List.idxOf_append, if_pos ((ih.mem_iff _).mp ha), List.idxOf_append,
              if_pos ((ih.mem_iff _).mp hb)]
            exact hlt
          · intro a ha b hb
            rw [List.mem_singleton] at hb
            have hal : a ∈ l := (ih.mem_iff a).mp ha
            rw [hb, List.idxOf_append, if_pos hal, List.idxOf_append, if_neg hn]
            have := List.idxOf_lt_length_of_mem hal
            omega

theorem exists_block?_iff {t : Template} {name : String} :
    (∃ b, t.block? name = some b) ↔ name ∈ t.blocks.map (·.name) := by
  rw [List.mem_map, ← Option.isSome_iff_exists, block?, List.find?_isSome]
  simp only [beq_iff_eq]

theorem mem_blockNames {layers : List Template} {name : String} :
    name ∈ blockNames layers ↔ ∃ t ∈ layers, ∃ b, t.block? name = some b := by
  unfold blockNames
  rw [(firstAppearances_eraseDups _).mem_iff, List.mem_flatMap]
  simp only [exists_block?_iff]

/-! ### Bodies of blocks -/

section
variable {name leaf : String} {layers lower upper down : List Template} {t : Template} {b : Block}

theorem inheritedBlock_append
    (hu : ∀ u ∈ upper, ∀ c, u.block? name = some c → c.required = true) :
    inheritedBlock leaf name (upper ++ down) = inheritedBlock leaf name down := by
  induction upper with
  | nil => rfl
  | cons u upper ih =>
      obtain ⟨hu, hupper⟩ := List.forall_mem_cons.mp hu
      rw [List.cons_append, ← ih hupper]
      cases hb : u.block? name with
      | none => exact inheritedBlock_of_none hb _
      | some c => exact inheritedBlock_of_required hb (hu c hb) _

theorem Selects.inheritedBlock_eq (h : Selects name layers lower upper t b) (leaf : String) :
    inheritedBlock leaf name layers.reverse =
      (inheritedBody name t.name (t :: lower.reverse)).map fun body => ⟨name, t.name, body⟩ := by
  have hrev : layers.reverse = upper.reverse ++ t :: lower.reverse := by
    rw [h.layers_eq]
    simp
  rw [hrev, inheritedBlock_append fun u hu => h.upper_required u (List.mem_reverse.mp hu),
    inheritedBlock_of_defined h.block_eq h.not_required]

/-- A block is declared and not defined, or there is a layer that it is taken from. -/
theorem required_or_selects (name : String) (layers : List Template) :
    (∀ t ∈ layers, ∀ c, t.block? name = some c → c.required = true) ∨
      ∃ lower upper t b, Selects name layers lower upper t b := by
  induction layers using List.reverseRecOn with
  | nil => exact .inl fun t ht => absurd ht List.not_mem_nil
  | append_singleton layers u ih =>
      by_cases hu : ∀ c, u.block? name = some c → c.required = true
      · rcases ih with h | ⟨lower, upper, t, b, h⟩
        · left
          intro t ht
          rcases List.mem_append.mp ht with ht | ht
          · exact h t ht
          · rw [List.mem_singleton.mp ht]
            exact hu
        · right
          refine ⟨lower, upper ++ [u], t, b, ?_, h.block_eq, h.not_required, ?_⟩
          · rw [h.layers_eq]
            simp
          · intro v hv
            rcases List.mem_append.mp hv with hv | hv
            · exact h.upper_required v hv
            · rw [List.mem_singleton.mp hv]
              exact hu
      · right
        push Not at hu
        obtain ⟨c, hc, hreq⟩ := hu
        exact ⟨layers, [], u, c, rfl, hc, by simpa using hreq, fun v hv => absurd hv List.not_mem_nil⟩

/-- A body cannot be put together if a `super()` in it is left without a definition. -/
theorem inheritedBody_fails_iff (above : String) :
    ∀ layers, (∃ e, inheritedBody name above layers = .error e) ↔ dangles name layers = true
  | [] => by simp [inheritedBody, dangles]
  | t :: lower => by
      rw [inheritedBody, dangles]
      cases t.block? name with
      | none => exact inheritedBody_fails_iff above lower
      | some b =>
          have ih := inheritedBody_fails_iff t.name lower
          dsimp only
          by_cases hc : callsSuper b.body = true
          · rw [if_pos hc, hc, Bool.true_and, ← ih]
            simp only [map_eq_error]
          · rw [if_neg hc, Bool.eq_false_iff.mpr hc]
            simp

/-- A block has no body if it is only declared, or if the selected body is left without a
definition for a `super()`. -/
theorem inheritedBlock_fails_iff (leaf name : String) (layers : List Template) :
    (∃ e, inheritedBlock leaf name layers.reverse = .error e) ↔
      (∀ t ∈ layers, ∀ c, t.block? name = some c → c.required = true) ∨
        ∃ lower upper t b, Selects name layers lower upper t b ∧
          dangles name (t :: lower.reverse) = true := by
  constructor
  · rintro ⟨e, he⟩
    rcases required_or_selects name layers with h | ⟨lower, upper, t, b, h⟩
    · exact .inl h
    · rw [h.inheritedBlock_eq leaf, map_eq_error] at he
      exact .inr ⟨lower, upper, t, b, h, (inheritedBody_fails_iff t.name _).mp ⟨e, he⟩⟩
  · rintro (h | ⟨lower, upper, t, b, h, hd⟩)
    · refine ⟨.missingBlock leaf name, ?_⟩
      have hr : inheritedBlock leaf name (layers.reverse ++ []) = inheritedBlock leaf name [] :=
        inheritedBlock_append fun u hu => h u (List.mem_reverse.mp hu)
      rw [List.append_nil] at hr
      rw [hr]
      rfl
    · obtain ⟨e, he⟩ := (inheritedBody_fails_iff t.name _).mpr hd
      exact ⟨e, by rw [h.inheritedBlock_eq leaf, he]; rfl⟩

theorem inheritedBlock_name {r : ResolvedBlock} :
    ∀ {down}, inheritedBlock leaf name down = .ok r → r.name = name
  | [], h => by cases h
  | t :: lower, h => by
      cases hb : t.block? name with
      | none =>
          rw [inheritedBlock_of_none hb] at h
          exact inheritedBlock_name h
      | some b =>
          cases hr : b.required with
          | true =>
              rw [inheritedBlock_of_required hb hr] at h
              exact inheritedBlock_name h
          | false =>
              rw [inheritedBlock_of_defined hb hr] at h
              obtain ⟨body, -, rfl⟩ := map_eq_ok.mp h
              rfl

theorem names_of_mapM {names : List String} {blocks : List ResolvedBlock}
    (h : names.mapM (fun name => inheritedBlock leaf name down) = .ok blocks) :
    blocks.map (·.name) = names := by
  have hall := mapM_eq_ok.mp h
  clear h
  induction hall with
  | nil => rfl
  | cons hr _ ih => rw [List.map_cons, ih, inheritedBlock_name hr]

end

/-! ### Composed templates -/

section
variable {source : String → Option Template} {chain : Chain}

theorem filterMap_of_collectLayers {seen layers : List Template} {names : List String}
    (h : collectLayers source chain seen names = .ok layers) : names.filterMap source = layers := by
  induction names generalizing seen layers with
  | nil =>
      cases h
      rfl
  | cons name rest ih =>
      rw [collectLayers] at h
      split at h
      · cases h
      · split at h
        · cases h
        · next t ht =>
            obtain ⟨more, hmore, h⟩ := bind_eq_ok.mp h
            cases h
            rw [List.filterMap_cons_some ht, ih hmore]

/-- There is a composed template if the layers can be collected, the first of them is a root and
every block has a body. -/
theorem compose_eq_ok_iff {r : Resolved} :
    compose source chain = .ok r ↔
      ∃ layers blocks, collectLayers source chain [] chain.layers = .ok layers ∧
        layers.head?.bind (·.parent) = none ∧
        (blockNames layers).mapM (fun name => inheritedBlock chain.leaf name layers.reverse) =
          .ok blocks ∧
        r = ⟨chain, (layers.head?.map (·.layout)).getD [], blocks⟩ := by
  rw [compose_eq]
  unfold inherit
  rw [bind_eq_ok]
  apply exists_congr
  intro layers
  constructor
  · rintro ⟨hlayers, h⟩
    cases hp : layers.head?.bind (·.parent) with
    | some parent =>
        rw [hp] at h
        cases h
    | none =>
        rw [hp] at h
        obtain ⟨blocks, hb, hr⟩ := bind_eq_ok.mp h
        cases hr
        exact ⟨blocks, hlayers, rfl, hb, rfl⟩
  · rintro ⟨blocks, hlayers, hp, hb, rfl⟩
    refine ⟨hlayers, ?_⟩
    rw [hp]
    exact bind_eq_ok.mpr ⟨blocks, hb, rfl⟩

/-- Where every template has the name that it is found under, the layers of a composed template are
different templates of the source. -/
theorem inherit_eq_ok (hs : ∀ n t, source n = some t → t.name = n) {r : Resolved} :
    inherit source chain = .ok r ↔
      ∃ layers blocks, chain.layers.mapM source = some layers ∧ chain.layers.Nodup ∧
        layers.head?.bind (·.parent) = none ∧
        (blockNames layers).mapM (fun name => inheritedBlock chain.leaf name layers.reverse) =
          .ok blocks ∧
        r = ⟨chain, (layers.head?.map (·.layout)).getD [], blocks⟩ := by
  rw [← compose_eq, compose_eq_ok_iff]
  refine exists_congr fun layers => exists_congr fun blocks => ?_
  rw [collectLayers_eq_ok hs chain, and_assoc]
  constructor
  · rintro ⟨hmap, ⟨hnodup, -⟩, h⟩
    exact ⟨hmap, hnodup, h⟩
  · rintro ⟨hmap, hnodup, h⟩
    exact ⟨hmap, ⟨hnodup, fun n _ t ht => absurd ht List.not_mem_nil⟩, h⟩

theorem head?_of_mapM_layers {layers : List Template} (h : chain.layers.mapM source = some layers) :
    layers.head? = source chain.base := by
  unfold Chain.layers at h
  rw [List.mapM_cons] at h
  cases hb : source chain.base with
  | none =>
      rw [hb] at h
      cases h
  | some t =>
      rw [hb] at h
      obtain ⟨more, -, hl⟩ : ∃ more, chain.overrides.mapM source = some more ∧ t :: more = layers := by
        simpa [Option.bind_eq_some_iff] using h
      rw [← hl]
      rfl

/-- A composed template is what the layers of its chain say. -/
theorem composes_of_inherit (hs : ∀ n t, source n = some t → t.name = n) {r : Resolved}
    (h : inherit source chain = .ok r) :
    ∃ layers, chain.layers.mapM source = some layers ∧ Composes chain layers r := by
  obtain ⟨layers, blocks, hmap, -, -, hb, rfl⟩ := (inherit_eq_ok hs).mp h
  refine ⟨layers, hmap, rfl, ?_, ?_, ?_⟩
  · have hhead := head?_of_mapM_layers hmap
    cases hl : layers.head? with
    | some t => rfl
    | none =>
        have hne := (mapM_source_iff.mp ⟨layers, hmap⟩) chain.base List.mem_cons_self
        exact absurd (hhead.symm.trans hl) hne
  · rw [names_of_mapM hb]
    exact firstAppearances_eraseDups _
  · intro b hmem
    obtain ⟨name, -, hr⟩ := exists_of_mem_mapM hb hmem
    rw [inheritedBlock_name hr]
    rcases required_or_selects name layers with hreq | ⟨lower, upper, t, d, hsel⟩
    · obtain ⟨e, he⟩ := (inheritedBlock_fails_iff chain.leaf name layers).mpr (.inl hreq)
      rw [he] at hr
      cases hr
    · rw [hsel.inheritedBlock_eq] at hr
      obtain ⟨body, hbody, rfl⟩ := map_eq_ok.mp hr
      exact ⟨lower, upper, t, d, hsel, rfl, hbody⟩

/-- All blocks of layers have bodies unless one of them is only declared, or needs a body of a layer
below that there is not. -/
theorem inheritedBlocks_ok_iff (leaf : String) (layers : List Template) :
    (∃ blocks, (blockNames layers).mapM (fun name => inheritedBlock leaf name layers.reverse) =
      .ok blocks) ↔
    ¬∃ name, OnlyDeclares name layers ∨
      ∃ lower upper t b, Selects name layers lower upper t b ∧ dangles name (t :: lower.reverse) = true := by
  rw [mapM_ok_iff]
  constructor
  · rintro hok ⟨name, h⟩
    have hnofail : ∀ name ∈ blockNames layers,
        ¬∃ e, inheritedBlock leaf name layers.reverse = .error e := by
      intro name hname
      rw [error_iff, not_not]
      exact hok name hname
    rcases h with ⟨hdecl, hreq⟩ | ⟨lower, upper, t, b, hsel, hd⟩
    · exact hnofail name (mem_blockNames.mpr hdecl) ((inheritedBlock_fails_iff _ _ _).mpr (.inl hreq))
    · have ht : t ∈ layers := by
        rw [hsel.layers_eq]
        exact List.mem_append_right _ List.mem_cons_self
      exact hnofail name (mem_blockNames.mpr ⟨t, ht, b, hsel.block_eq⟩)
        ((inheritedBlock_fails_iff _ _ _).mpr (.inr ⟨lower, upper, t, b, hsel, hd⟩))
  · intro hno name hname
    push Not at hno
    by_contra hfail
    rw [← error_iff, inheritedBlock_fails_iff] at hfail
    rcases hfail with hreq | ⟨lower, upper, t, b, hsel, hd⟩
    · exact (hno name).1 ⟨mem_blockNames.mp hname, hreq⟩
    · exact (hno name).2 lower upper t b hsel hd

/-- There is no composed template if a layer is there twice or not at all, if the base extends
another template, or if a block of the layers has no body. -/
theorem inherit_fails_iff (hs : ∀ n t, source n = some t → t.name = n) :
    (∃ e, inherit source chain = .error e) ↔
      ¬chain.layers.Nodup ∨ (∃ n ∈ chain.layers, source n = none) ∨
        (∃ t, source chain.base = some t ∧ t.isRoot = false) ∨
        ∃ layers, chain.layers.mapM source = some layers ∧ ∃ name, OnlyDeclares name layers ∨
          ∃ lower upper t b, Selects name layers lower upper t b ∧
            dangles name (t :: lower.reverse) = true := by
  rw [error_iff]
  simp only [inherit_eq_ok hs]
  constructor
  · intro h
    by_cases hnodup : chain.layers.Nodup
    case neg => exact .inl hnodup
    by_cases hthere : ∀ n ∈ chain.layers, source n ≠ none
    case neg =>
      push Not at hthere
      exact .inr (.inl hthere)
    obtain ⟨layers, hmap⟩ := mapM_source_iff.mpr hthere
    cases hp : layers.head?.bind (·.parent) with
    | some parent =>
        obtain ⟨t, ht, hparent⟩ := Option.bind_eq_some_iff.mp hp
        refine .inr (.inr (.inl ⟨t, (head?_of_mapM_layers hmap).symm.trans ht, ?_⟩))
        rw [isRoot, hparent]
        rfl
    | none =>
        refine .inr (.inr (.inr ⟨layers, hmap, ?_⟩))
        by_contra hno
        obtain ⟨blocks, hb⟩ := (inheritedBlocks_ok_iff chain.leaf layers).mpr hno
        exact h ⟨_, layers, blocks, hmap, hnodup, hp, hb, rfl⟩
  · rintro h ⟨r, layers, blocks, hmap, hnodup, hp, hb, -⟩
    rcases h with h | ⟨n, hn, hnone⟩ | ⟨t, ht, hroot⟩ | ⟨layers', hmap', h⟩
    · exact h hnodup
    · exact mapM_source_iff.mp ⟨layers, hmap⟩ n hn hnone
    · rw [head?_of_mapM_layers hmap, ht] at hp
      rw [isRoot, show t.parent = none from hp] at hroot
      cases hroot
    · obtain rfl : layers = layers' := Option.some.inj (hmap.symm.trans hmap')
      exact (inheritedBlocks_ok_iff chain.leaf layers).mp ⟨blocks, hb⟩ h

/-- Composition, which remembers the bodies that it has put together, is inheritance. What it
returns has the blocks of all layers, each with the body of the most specific layer that defines it
and every `super()` in that replaced by the body in the layers below, in the layout of the base. It
fails just on the chains for which there is no such template. -/
theorem compose_inherits (hs : ∀ n t, source n = some t → t.name = n) (chain : Chain) :
    compose source chain = inherit source chain ∧
      (∀ r, compose source chain = .ok r →
        ∃ layers, chain.layers.mapM source = some layers ∧ Composes chain layers r) ∧
      ((∃ e, compose source chain = .error e) ↔
        ¬chain.layers.Nodup ∨ (∃ n ∈ chain.layers, source n = none) ∨
          (∃ t, source chain.base = some t ∧ t.isRoot = false) ∨
          ∃ layers, chain.layers.mapM source = some layers ∧ ∃ name, OnlyDeclares name layers ∨
            ∃ lower upper t b, Selects name layers lower upper t b ∧
              dangles name (t :: lower.reverse) = true) := by
  rw [compose_eq]
  refine ⟨rfl, fun r hr => composes_of_inherit hs hr, inherit_fails_iff hs⟩

end

/-- Two layers: a page with a block, and one that repeats the block for every item of a list. -/
def pages (name : String) : Option Template :=
  match name with
  | "page" => some ⟨"page", none, [.slot "main"], [⟨"main", false, [.text "item"]⟩]⟩
  | "list" =>
    some ⟨"list", some "page", [], [⟨"main", false, [.loop "x" (.var "items") [.super]]⟩]⟩
  | _ => none

/-- The `super()` in the loop stands for the body in the page. -/
theorem compose_inherits_pages :
    (∀ n t, pages n = some t → t.name = n) ∧
      compose pages ⟨"page", ["list"]⟩ = .ok ⟨⟨"page", ["list"]⟩, [.slot "main"],
        [⟨"main", "list", [.loop "x" (.var "items") [.text "item"]]⟩]⟩ ∧
      ∃ layers, ["page", "list"].mapM pages = some layers ∧
        Composes ⟨"page", ["list"]⟩ layers ⟨⟨"page", ["list"]⟩, [.slot "main"],
          [⟨"main", "list", [.loop "x" (.var "items") [.text "item"]]⟩]⟩ := by
  have hs : ∀ n t, pages n = some t → t.name = n := by
    intro n t h
    unfold pages at h
    split at h
    · rw [← Option.some.inj h]
    · rw [← Option.some.inj h]
    · cases h
  refine ⟨hs, rfl, ?_⟩
  exact (compose_inherits hs ⟨"page", ["list"]⟩).2.1 _ rfl

end ClassScribe.Template
