import ClassScribe.Proofs.Template.Likeness
import ClassScribe.Proofs.Template.Reading
import ClassScribe.Proofs.Template.Rendering
import ClassScribe.Template.Layering
import ClassScribe.Template.Library

/-! # A layer that only calls for what is below

The body of a block is looked for in two ways: the block of a chain is the most specific one that is not
required, and a `super()` calls for the most specific one, required or not. A layer that only calls for what
is below it changes nothing just as far as the two agree (`render_extended`). -/

namespace ClassScribe.Template

section
variable {source : String → Option Template} {chain : Chain} {top : Template} {name leaf above : String}

/-! ### Layers -/

theorem leaf_extend (chain : Chain) (name : String) : (chain.extend name).leaf = name := by
  show ((chain.overrides ++ [name]).getLast?).getD chain.base = name
  rw [List.getLast?_append]
  rfl

theorem ne_nil_of_collectLayers {layers : List Template}
    (h : collectLayers source chain [] chain.layers = .ok layers) : layers ≠ [] := by
  unfold Chain.layers at h
  rw [collectLayers] at h
  split at h
  · cases h
  · split at h
    · cases h
    · obtain ⟨more, -, h⟩ := bind_eq_ok.mp h
      cases h
      exact List.cons_ne_nil _ _

/-- A template with a new name is collected behind the layers of a chain. -/
theorem collectLayers_extend (chain' : Chain)
    (hfresh : ∀ name u, source name = some u → name ≠ top.name ∧ u.name ≠ top.name)
    {seen layers : List Template} {names : List String} (hseen : ∀ u ∈ seen, u.name ≠ top.name)
    (h : collectLayers source chain seen names = .ok layers) :
    collectLayers (withTemplate source top) chain' seen (names ++ [top.name]) = .ok (layers ++ [top]) := by
  induction names generalizing seen layers with
  | nil =>
      cases h
      have hnew : seen.any (·.name == top.name) = false := by
        rw [List.any_eq_false]
        intro u hu
        simpa using hseen u hu
      have htop : withTemplate source top top.name = some top := if_pos rfl
      rw [List.nil_append, collectLayers, hnew, htop]
      rfl
  | cons name rest ih =>
      rw [collectLayers] at h
      split at h
      · cases h
      · next hnew =>
          split at h
          · cases h
          · next t ht =>
              obtain ⟨more, hmore, h⟩ := bind_eq_ok.mp h
              cases h
              obtain ⟨hname, htname⟩ := hfresh name t ht
              have hfound : withTemplate source top name = some t := (if_neg hname).trans ht
              have hrest := ih (List.forall_mem_cons.mpr ⟨htname, hseen⟩) hmore
              rw [List.cons_append, collectLayers, if_neg hnew, hfound]
              exact bind_eq_ok.mpr ⟨_, hrest, rfl⟩

theorem blockNames_append {layers : List Template}
    (h : ∀ b ∈ top.blocks, b.name ∈ blockNames layers) :
    blockNames (layers ++ [top]) = blockNames layers := by
  have hall : ∀ name ∈ top.blocks.map (·.name),
      name ∈ layers.flatMap fun t => t.blocks.map (·.name) := by
    intro name hname
    obtain ⟨b, hb, rfl⟩ := List.mem_map.mp hname
    exact ((firstAppearances_eraseDups _).mem_iff b.name).mp (h b hb)
  have hnone : (top.blocks.map (·.name)).removeAll
      (layers.flatMap fun t => t.blocks.map (·.name)) = [] := by
    apply List.filter_eq_nil_iff.mpr
    intro name hname
    simpa using hall name hname
  unfold blockNames
  rw [List.flatMap_append, List.flatMap_singleton, List.eraseDups_append, hnone, List.eraseDups_nil,
    List.append_nil]

/-! ### Bodies -/

/-- The leaf counts for the error of a block only. -/
theorem inheritedBlock_of_leaf {down : List Template} {b : ResolvedBlock} (leaf' : String)
    (h : inheritedBlock leaf name down = .ok b) : inheritedBlock leaf' name down = .ok b := by
  induction down with
  | nil => cases h
  | cons t lower ih =>
      cases hc : t.block? name with
      | none =>
          rw [inheritedBlock_of_none hc] at h ⊢
          exact ih h
      | some c =>
          cases hr : c.required with
          | true =>
              rw [inheritedBlock_of_required hc hr] at h ⊢
              exact ih h
          | false =>
              rw [inheritedBlock_of_defined hc hr] at h ⊢
              exact h

/-- The layer that calls counts only as long as there is no block. -/
theorem inheritedBody_of_above {t : Template} {c : Block} (hc : t.block? name = some c)
    (above above' : String) (lower : List Template) :
    inheritedBody name above (t :: lower) = inheritedBody name above' (t :: lower) := by
  rw [inheritedBody_of_some hc, inheritedBody_of_some hc]

theorem exists_inheritedBody {down : List Template} {b : ResolvedBlock}
    (h : inheritedBlock leaf name down = .ok b) (above : String) :
    ∃ body, inheritedBody name above down = .ok body := by
  induction down generalizing above with
  | nil => cases h
  | cons t lower ih =>
      cases hc : t.block? name with
      | none =>
          rw [inheritedBlock_of_none hc] at h
          rw [inheritedBody_of_none hc]
          exact ih h above
      | some c =>
          cases hr : c.required with
          | true =>
              rw [inheritedBlock_of_required hc hr] at h
              obtain ⟨below, hbelow⟩ := ih h t.name
              rw [inheritedBody_of_some hc, hbelow]
              split
              · exact ⟨_, rfl⟩
              · exact ⟨_, rfl⟩
          | false =>
              rw [inheritedBlock_of_defined hc hr] at h
              obtain ⟨body, hbody, -⟩ := map_eq_ok.mp h
              rw [inheritedBody_of_above hc _ above] at hbody
              exact ⟨body, hbody⟩

/-- If what a `super()` above calls for is not required, then it gets the body of the block. -/
theorem inheritedBody_of_called {down : List Template} {b : ResolvedBlock}
    (h : inheritedBlock leaf name down = .ok b)
    (hcalled : ∀ c, down.findSome? (·.block? name) = some c → c.required = false) (above : String) :
    inheritedBody name above down = .ok b.body := by
  induction down with
  | nil => cases h
  | cons t lower ih =>
      rw [List.findSome?_cons] at hcalled
      cases hc : t.block? name with
      | none =>
          rw [hc] at hcalled
          rw [inheritedBlock_of_none hc] at h
          rw [inheritedBody_of_none hc]
          exact ih h hcalled
      | some c =>
          rw [hc] at hcalled
          rw [inheritedBlock_of_defined hc (hcalled c rfl)] at h
          obtain ⟨body, hbody, rfl⟩ := map_eq_ok.mp h
          rw [inheritedBody_of_above hc _ above] at hbody
          exact hbody

/-- What only calls for what is below it has the body from there. -/
theorem inheritedBody_of_calls {lower : List Template} {b : Block} (hb : top.block? name = some b)
    (hbody : b.body = [.super]) :
    inheritedBody name above (top :: lower) = inheritedBody name top.name lower := by
  rw [inheritedBody_of_some hb, hbody]
  show (inheritedBody name top.name lower).map (· ++ []) = _
  cases inheritedBody name top.name lower with
  | error err => rfl
  | ok below =>
      show Except.ok (below ++ []) = _
      rw [List.append_nil]

/-! ### Blocks -/

/-- What becomes of a block under a layer: it stays as it is, or it has the body that a `super()` of that
layer calls for. -/
structure Extended (layers : List Template) (top : Template) (b b' : ResolvedBlock) : Prop where
  name : b'.name = b.name
  kept : top.block? b.name = none → b' = b
  called : ∀ c, top.block? b.name = some c →
    b'.definedIn = top.name ∧ inheritedBody b.name top.name layers.reverse = .ok b'.body

theorem exists_extended {layers : List Template} {b : ResolvedBlock}
    (hcalls : ∀ c ∈ top.blocks, c.required = false ∧ c.body = [.super])
    (h : inheritedBlock leaf name layers.reverse = .ok b) :
    ∃ b', inheritedBlock top.name name (layers ++ [top]).reverse = .ok b' ∧ Extended layers top b b' := by
  have hname := inheritedBlock_name h
  rw [List.reverse_append, List.reverse_singleton, List.singleton_append]
  cases hb : top.block? name with
  | none =>
      rw [inheritedBlock_of_none hb]
      refine ⟨b, inheritedBlock_of_leaf top.name h, rfl, fun _ => rfl, ?_⟩
      intro c hc
      rw [hname, hb] at hc
      cases hc
  | some c =>
      obtain ⟨hrequired, hbody⟩ := hcalls c (List.mem_of_find?_eq_some hb)
      obtain ⟨body, hbelow⟩ := exists_inheritedBody h top.name
      rw [inheritedBlock_of_defined hb hrequired, inheritedBody_of_calls hb hbody, hbelow]
      refine ⟨⟨name, top.name, body⟩, rfl, hname.symm, ?_, ?_⟩
      · intro hnone
        rw [hname, hb] at hnone
        cases hnone
      · intro _ _
        rw [hname]
        exact ⟨rfl, hbelow⟩

theorem Extended.body_eq {layers : List Template} {b b' : ResolvedBlock} (h : Extended layers top b b')
    (hb : inheritedBlock leaf b.name layers.reverse = .ok b)
    (hcalled : ∀ c ∈ top.blocks, ∀ d, calledBlock? c.name layers = some d → d.required = false) :
    b'.body = b.body := by
  cases hc : top.block? b.name with
  | none => rw [h.kept hc]
  | some c =>
      have hname : c.name = b.name := block?_name hc
      have hd := hcalled c (List.mem_of_find?_eq_some hc)
      rw [hname] at hd
      have hbody := inheritedBody_of_called hb hd top.name
      rw [(h.called c hc).2] at hbody
      exact Except.ok.inj hbody

end

/-! ### Composed templates -/

/-- A layer that only calls for what is below it is composed with a chain. -/
theorem compose_extended {source : String → Option Template} {chain : Chain} {r : Resolved}
    {top : Template} (h : compose source chain = .ok r) (htop : OnlyCalls source r top) :
    ∃ r', compose (withTemplate source top) (chain.extend top.name) = .ok r' ∧
      r'.chain = chain.extend top.name ∧ r'.layout = r.layout ∧
      List.Forall₂ (fun b b' =>
        inheritedBlock chain.leaf b.name (chain.templates source).reverse = .ok b ∧
          Extended (chain.templates source) top b b') r.blocks r'.blocks := by
  obtain ⟨layers, blocks, hlayers, hroot, hblocks, rfl⟩ := compose_eq_ok_iff.mp h
  have htemplates : chain.templates source = layers := filterMap_of_collectLayers hlayers
  rw [htemplates]
  have hcollected := collectLayers_extend (chain.extend top.name) htop.fresh (List.forall_mem_nil _) hlayers
  have hhead : (layers ++ [top]).head? = layers.head? :=
    List.head?_append_of_ne_nil layers (ne_nil_of_collectLayers hlayers)
  have hsame : blockNames (layers ++ [top]) = blockNames layers := by
    apply blockNames_append
    intro b hb
    obtain ⟨c, hc⟩ := htop.known b hb
    have hname : c.name = b.name := by simpa using List.find?_some hc
    have hnames : blocks.map (·.name) = blockNames layers := names_of_mapM hblocks
    rw [← hnames, ← hname]
    exact List.mem_map_of_mem (List.mem_of_find?_eq_some hc)
  have hblock : ∀ name b, inheritedBlock chain.leaf name layers.reverse = .ok b →
      ∃ b', inheritedBlock top.name name (layers ++ [top]).reverse = .ok b' ∧
        inheritedBlock chain.leaf b.name layers.reverse = .ok b ∧ Extended layers top b b' := by
    intro name b hb
    obtain ⟨b', hb', hextended⟩ := exists_extended htop.calls hb
    rw [← inheritedBlock_name hb] at hb
    exact ⟨b', hb', hb, hextended⟩
  obtain ⟨blocks', hblocks', hall⟩ := exists_mapM_forall₂ hblock hblocks
  refine ⟨⟨chain.extend top.name, (layers.head?.map (·.layout)).getD [], blocks'⟩, ?_, rfl, rfl,
    hall⟩
  refine compose_eq_ok_iff.mpr ⟨layers ++ [top], blocks', hcollected, ?_, ?_, ?_⟩
  · rw [hhead]
    exact hroot
  · rw [hsame, leaf_extend]
    exact hblocks'
  · rw [hhead]

section
variable {r r' : Resolved}

theorem find?_body_of_forall₂ {blocks blocks' : List ResolvedBlock}
    (h : List.Forall₂ (fun b b' => b'.name = b.name ∧ b'.body = b.body) blocks blocks') (name : String) :
    (blocks'.find? (·.name == name)).map (·.body) = (blocks.find? (·.name == name)).map (·.body) := by
  obtain ⟨hnone, hnone'⟩ | ⟨b, b', hb, hb', -, hbody⟩ := find?_related (fun _ _ hb => hb.1.symm) h name
  · rw [hnone, hnone']
  · rw [hb, hb']
    exact congrArg some hbody

theorem eq_of_sameKept_all {s t : String} (h : SameKept (fun _ => true) s t) : s = t := by
  unfold SameKept at h
  rw [List.filter_true, List.filter_true] at h
  exact String.toList_inj.mp h

/-- Two composed templates with the same bodies have the same texts. -/
theorem render_of_bodies (hlayout : r'.layout = r.layout)
    (hbodies : List.Forall₂ (fun b b' => b'.name = b.name ∧ b'.body = b.body) r.blocks r'.blocks)
    (className : String) (context : Frame) :
    Alike (fun e e' => e' = e.within r'.name) Eq (render r className context)
      (render r' className context) := by
  have hwords : Resolved.Rewords some r r' := by
    constructor
    · rw [rewordElements_some]
      exact hlayout
    · intro name
      simp only [rewordElements_some]
      exact find?_body_of_forall₂ hbodies name
  have hblames : Resolved.Blames (fun e e' => e' = e.within r'.name) r r' :=
    ⟨fun _ _ _ => rfl, fun _ _ => rfl, fun _ => rfl⟩
  have hkeeps : Wording.Keeps (fun _ => true) some := fun _ => rfl
  apply (render_alike hwords hblames hkeeps className context).mono
  intro s t hst
  exact eq_of_sameKept_all hst

end

/-- A layer that only calls for what is below it can always be put on top of a chain that can be composed.
The layout and the names of the blocks stay the same, and a block that the layer has gets the body that a
`super()` calls for. If that is never one that is only required, then all bodies stay the same, and so
does the text for every class and context; errors name the new layer. -/
theorem render_extended {source : String → Option Template} {chain : Chain} {r : Resolved}
    {top : Template} (h : compose source chain = .ok r) (htop : OnlyCalls source r top) :
    ∃ r', compose (withTemplate source top) (chain.extend top.name) = .ok r' ∧ r'.layout = r.layout ∧
      List.Forall₂ (Extended (chain.templates source) top) r.blocks r'.blocks ∧
      ((∀ b ∈ top.blocks, ∀ c, calledBlock? b.name (chain.templates source) = some c →
          c.required = false) →
        List.Forall₂ (fun b b' => b'.name = b.name ∧ b'.body = b.body) r.blocks r'.blocks ∧
        ∀ className context, Alike (fun e e' => e' = e.within top.name) Eq
          (render r className context) (render r' className context)) := by
  obtain ⟨r', hcompose, hchain, hlayout, hall⟩ := compose_extended h htop
  refine ⟨r', hcompose, hlayout, hall.imp fun _ _ hb => hb.2, ?_⟩
  intro hcalled
  have hbodies : List.Forall₂ (fun b b' => b'.name = b.name ∧ b'.body = b.body) r.blocks r'.blocks := by
    apply hall.imp
    rintro b b' ⟨hb, hextended⟩
    exact ⟨hextended.name, hextended.body_eq hb hcalled⟩
  have hname : r'.name = top.name := by
    rw [Resolved.name, hchain, leaf_extend]
  refine ⟨hbodies, fun className context => ?_⟩
  rw [← hname]
  exact render_of_bodies hlayout hbodies className context

/-- The list of pages. -/
def composedList : Resolved :=
  ⟨⟨"page", ["list"]⟩, [.slot "main"],
    [⟨"main", "list", [.loop "x" (.var "items") [.text "item"]]⟩]⟩

/-- A page that only calls for the list. -/
def recalled : Template := ⟨"again", some "list", [.slot "main"], [⟨"main", false, [.super]⟩]⟩

theorem compose_pages : compose pages ⟨"page", ["list"]⟩ = .ok composedList := rfl

theorem onlyCalls_recalled : OnlyCalls pages composedList recalled := by
  constructor
  · intro name u h
    unfold pages at h
    split at h
    · cases h
      decide
    · cases h
      decide
    · cases h
  · intro b hb
    rw [List.mem_singleton.mp hb]
    exact ⟨_, rfl⟩
  · intro b hb
    rw [List.mem_singleton.mp hb]
    exact ⟨rfl, rfl⟩

/-- The page that only calls for the list has the text of the list. -/
theorem render_extended_list :
    compose pages ⟨"page", ["list"]⟩ = .ok composedList ∧ OnlyCalls pages composedList recalled ∧
      ∃ r', compose (withTemplate pages recalled) ⟨"page", ["list", "again"]⟩ = .ok r' ∧
        r'.blocks.map (·.body) = composedList.blocks.map (·.body) ∧
        ∀ className context, Alike (fun e e' => e' = e.within "again") Eq
          (render composedList className context) (render r' className context) := by
  refine ⟨compose_pages, onlyCalls_recalled, ?_⟩
  obtain ⟨r', hcompose, -, -, hneutral⟩ := render_extended compose_pages onlyCalls_recalled
  have hcalled : ∀ b ∈ recalled.blocks, ∀ c,
      calledBlock? b.name (Chain.templates ⟨"page", ["list"]⟩ pages) = some c → c.required = false := by
    intro b hb c hc
    rw [List.mem_singleton.mp hb] at hc
    cases hc
    rfl
  obtain ⟨hbodies, hrender⟩ := hneutral hcalled
  refine ⟨r', hcompose, ?_, hrender⟩
  generalize r'.blocks = blocks at hbodies
  rcases hbodies with _ | ⟨⟨-, hbody⟩, ⟨⟩⟩
  exact congrArg (fun body => [body]) hbody

/-- The source of a letter. -/
def letterSource : String := "\x7b% block a %\x7dA\x7b% endblock %\x7d"

/-- The source of a letter whose block is declared once more. -/
def declaredSource : String :=
  "\x7b% extends 'letter' %\x7d\x7b% block a required %\x7d\x7b% endblock %\x7d"

/-- The source of a letter that only calls for the one below it. -/
def recalledSource : String :=
  "\x7b% extends 'declared' %\x7d\x7b% block a %\x7d\x7b\x7b super() \x7d\x7d\x7b% endblock %\x7d"

/-- The letter, and the ones on top of it. -/
def letters : Library :=
  ((Library.empty.insert (ofOutline "letter" none [.block "a" false [.text "A"]])).insert
    (ofOutline "declared" (some "letter") [.block "a" true []])).insert
      (ofOutline "recalled" (some "declared") [.block "a" false [.super]])

theorem addAll_letters : Library.empty.addAll .standard
    [("letter", letterSource), ("declared", declaredSource), ("recalled", recalledSource)] =
      .ok letters := by
  have hletter : parse .standard "letter" letterSource =
      .ok (ofOutline "letter" none [.block "a" false [.text "A"]]) :=
    parse_of_saysOutline (show saysOutline .standard none _ 3 _ = true by decide +kernel)
  have hdeclared : parse .standard "declared" declaredSource =
      .ok (ofOutline "declared" (some "letter") [.block "a" true []]) :=
    parse_of_saysOutline (show saysOutline .standard (some "letter") _ 4 _ = true by decide +kernel)
  have hrecalled : parse .standard "recalled" recalledSource =
      .ok (ofOutline "recalled" (some "declared") [.block "a" false [.super]]) :=
    parse_of_saysOutline (show saysOutline .standard (some "declared") _ 5 _ = true by decide +kernel)
  simp only [Library.addAll, Library.add, hletter, hdeclared, hrecalled]
  rfl

/-- A template that is one block has the text of that block. -/
theorem render_of_block {r : Resolved} {b : ResolvedBlock} {text : String}
    (hlayout : r.layout = [.slot b.name]) (hb : r.block? b.name = some b) (hp : ∀ site scope, Prints site scope b.body text)
    (className : String) (context : Frame) : render r className context = .ok text := by
  apply render_eq
  rw [hlayout]
  have hslot : renderSlot r className [] ⟨[], [context]⟩ b.name = .ok text :=
    renderSlot_eq rfl hb (hp _ _)
  exact (prints_slot hslot prints_nil).of_eq String.append_empty

/-- The declaration is passed over where the block is looked for, but the `super()` calls for it, and so
the letter is lost. -/
theorem calls_lose_letter :
    ∃ l r r', Library.empty.addAll .standard
        [("letter", letterSource), ("declared", declaredSource), ("recalled", recalledSource)] = .ok l ∧
      l.resolve ⟨"letter", ["declared"]⟩ = .ok r ∧
      l.resolve ⟨"letter", ["declared", "recalled"]⟩ = .ok r' ∧
      ∀ className context,
        render r className context = .ok "A" ∧ render r' className context = .ok "" := by
  let b : ResolvedBlock := ⟨"a", "letter", [.text "A"]⟩
  let b' : ResolvedBlock := ⟨"a", "recalled", []⟩
  refine ⟨letters, ⟨⟨"letter", ["declared"]⟩, [.slot "a"], [b]⟩,
    ⟨⟨"letter", ["declared", "recalled"]⟩, [.slot "a"], [b']⟩, addAll_letters, rfl, rfl, ?_⟩
  intro className context
  constructor
  · exact render_of_block (b := b) rfl rfl (fun _ _ => prints_text "A" prints_nil) className context
  · exact render_of_block (b := b') rfl rfl (fun _ _ => prints_nil) className context

end ClassScribe.Template
