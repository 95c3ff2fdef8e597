import ClassScribe.Proofs.Expr.Faults
import ClassScribe.Proofs.Template.Composition
import ClassScribe.Proofs.Template.Course
import ClassScribe.Proofs.Template.Reading
import ClassScribe.Template.Checked
import ClassScribe.Template.Slots

/-! # What loading rules out

What is parsed is checked: its slots are of its own blocks, its filters are known, and `super()` stands
in blocks only. Composing keeps that and leaves no `super()`. So a composed template of parsed ones fails
by a value, or at a block that is rendered inside itself (`render_of_parsed`). -/

namespace ClassScribe.Template

/-! ### Checked elements -/

section
variable {names : List String} {inside : Bool}

theorem checked_append {es fs : List Element} :
    Checked names inside (es ++ fs) ↔ Checked names inside es ∧ Checked names inside fs := by
  induction es with
  | nil => exact (iff_of_eq (true_and _)).symm
  | cons e es ih =>
      show ElementChecked names inside e ∧ Checked names inside (es ++ fs) ↔ _
      rw [ih, ← and_assoc]
      rfl

theorem branchesChecked_append {bs cs : List (Expr × List Element)} :
    BranchesChecked names inside (bs ++ cs) ↔
      BranchesChecked names inside bs ∧ BranchesChecked names inside cs := by
  induction bs with
  | nil => exact (iff_of_eq (true_and _)).symm
  | cons b bs ih =>
      show KnowsFilters b.1 ∧ Checked names inside b.2 ∧ BranchesChecked names inside (bs ++ cs) ↔ _
      rw [ih, ← and_assoc, ← and_assoc]
      show _ ↔ (KnowsFilters b.1 ∧ Checked names inside b.2 ∧ BranchesChecked names inside bs) ∧ _
      rw [← and_assoc]

mutual
theorem elementCallsSuper_of_checked : ∀ e, ElementChecked names false e → elementCallsSuper e = false
  | .text _, _ | .output _, _ | .assign _ _, _ | .slot _, _ => rfl
  | .super, h => by cases h
  | .choice branches otherwise, h => by
      rw [elementCallsSuper, branchesCallSuper_of_checked branches h.1, callsSuper_of_checked otherwise h.2]
      rfl
  | .loop _ _ body, h => callsSuper_of_checked body h.2
theorem callsSuper_of_checked : ∀ es, Checked names false es → callsSuper es = false
  | [], _ => rfl
  | e :: rest, h => by
      rw [callsSuper, elementCallsSuper_of_checked e h.1, callsSuper_of_checked rest h.2]
      rfl
theorem branchesCallSuper_of_checked : ∀ bs, BranchesChecked names false bs → branchesCallSuper bs = false
  | [], _ => rfl
  | (_, body) :: rest, h => by
      rw [branchesCallSuper, callsSuper_of_checked body h.2.1, branchesCallSuper_of_checked rest h.2.2]
      rfl
end

mutual
theorem elementSlots_of_checked : ∀ e, ElementChecked names inside e → ∀ n ∈ elementSlots e, n ∈ names
  | .text _, _ | .output _, _ | .super, _ | .assign _ _, _ => List.forall_mem_nil _
  | .choice branches otherwise, h =>
      List.forall_mem_append.mpr ⟨branchSlots_of_checked branches h.1, slots_of_checked otherwise h.2⟩
  | .loop _ _ body, h => slots_of_checked body h.2
  | .slot _, h => List.forall_mem_singleton.mpr h
theorem slots_of_checked : ∀ es, Checked names inside es → ∀ n ∈ slots es, n ∈ names
  | [], _ => List.forall_mem_nil _
  | e :: rest, h =>
      List.forall_mem_append.mpr ⟨elementSlots_of_checked e h.1, slots_of_checked rest h.2⟩
theorem branchSlots_of_checked : ∀ bs, BranchesChecked names inside bs → ∀ n ∈ branchSlots bs, n ∈ names
  | [], _ => List.forall_mem_nil _
  | (_, body) :: rest, h =>
      List.forall_mem_append.mpr ⟨slots_of_checked body h.2.1, branchSlots_of_checked rest h.2.2⟩
end

mutual
theorem checked_spliceElement {body : List Element} (hb : Checked names false body) :
    ∀ e, ElementChecked names true e → Checked names false (spliceElement body e)
  | .text _, _ => ⟨trivial, trivial⟩
  | .output _, h => ⟨h, trivial⟩
  | .super, _ => hb
  | .choice branches otherwise, h =>
      ⟨⟨branchesChecked_spliceBranches hb branches h.1, checked_splice hb otherwise h.2⟩, trivial⟩
  | .loop _ _ content, h => ⟨⟨h.1, checked_splice hb content h.2⟩, trivial⟩
  | .assign _ _, h => ⟨h, trivial⟩
  | .slot _, h => ⟨h, trivial⟩
/-- With a body in the place of every `super()`, elements are checked outside of blocks. -/
theorem checked_splice {body : List Element} (hb : Checked names false body) :
    ∀ es, Checked names true es → Checked names false (splice body es)
  | [], _ => trivial
  | e :: rest, h =>
      checked_append.mpr ⟨checked_spliceElement hb e h.1, checked_splice hb rest h.2⟩
theorem branchesChecked_spliceBranches {body : List Element} (hb : Checked names false body) :
    ∀ bs, BranchesChecked names true bs → BranchesChecked names false (spliceBranches body bs)
  | [], _ => trivial
  | (_, content) :: rest, h =>
      ⟨h.1, checked_splice hb content h.2.1, branchesChecked_spliceBranches hb rest h.2.2⟩
end

end

/-! ### Parsed templates -/

/-- The expression in a statement. -/
def Statement.expression? : Statement → Option Expr
  | .loop _ items => some items
  | .branch condition | .elif condition => some condition
  | .assign _ value => some value
  | .parent _ | .block _ _ | .endblock _ | .endfor | .otherwise | .endif => none

theorem Statement.Written.knowsFilters {allowed : List (List Char) → Prop} {st : Statement}
    {source : List Char} (h : st.Written allowed source) : ∀ e ∈ st.expression?, KnowsFilters e := by
  obtain ⟨_, ⟨tail, -, -, harg⟩, -⟩ := h
  generalize Text.trim tail = s at harg
  intro e he
  cases harg with
  | loop _ _ hexpr | branch hexpr | elif hexpr | assign _ _ hexpr =>
      cases he
      exact hexpr.2
  | _ => cases he

namespace Phrase

/-- Whether the elements of a phrase are checked. -/
def Fits (names : List String) (inside : Bool) : Phrase → Prop
  | .nodes ns => Checked names inside (Node.elements ns)
  | .arms branches otherwise =>
    BranchesChecked names inside (Node.branchElements branches) ∧
      Checked names inside (Node.elements otherwise)

/-- What is said is checked, for every list of names that has the ones of its blocks. -/
theorem Says.fits {allowed : List (List Char) → Prop} {inside : Bool} {phrase : Phrase} {ps : List Part}
    {names : List String} (h : Phrase.Says allowed inside phrase ps)
    (hnames : ∀ b ∈ phrase.blocks, b.name ∈ names) :
    phrase.Fits names inside ∧ ∀ b ∈ phrase.blocks, Checked names true b.body := by
  induction h with
  | done => exact ⟨trivial, List.forall_mem_nil _⟩
  | text _ ih =>
      obtain ⟨hrest, hblocks⟩ := ih hnames
      exact ⟨⟨trivial, hrest⟩, hblocks⟩
  | output _ hexpr _ ih =>
      obtain ⟨hrest, hblocks⟩ := ih hnames
      exact ⟨⟨hexpr.2, hrest⟩, hblocks⟩
  | super _ ih =>
      obtain ⟨hrest, hblocks⟩ := ih hnames
      exact ⟨⟨rfl, hrest⟩, hblocks⟩
  | assign hwritten _ ih =>
      obtain ⟨hrest, hblocks⟩ := ih hnames
      exact ⟨⟨hwritten.knowsFilters _ rfl, hrest⟩, hblocks⟩
  | loop hwritten _ _ _ ihbody ih =>
      obtain ⟨hinner, houter⟩ := List.forall_mem_append.mp hnames
      obtain ⟨hbody, hbodies⟩ := ihbody hinner
      obtain ⟨hrest, hblocks⟩ := ih houter
      exact ⟨⟨⟨hwritten.knowsFilters _ rfl, hbody⟩, hrest⟩,
        List.forall_mem_append.mpr ⟨hbodies, hblocks⟩⟩
  | block _ _ _ _ _ ihbody ih =>
      obtain ⟨hinner, houter⟩ := List.forall_mem_append.mp hnames
      obtain ⟨hname, hinner⟩ := List.forall_mem_cons.mp hinner
      obtain ⟨hbody, hbodies⟩ := ihbody hinner
      obtain ⟨hrest, hblocks⟩ := ih houter
      exact ⟨⟨hname, hrest⟩,
        List.forall_mem_append.mpr ⟨List.forall_mem_cons.mpr ⟨hbody, hbodies⟩, hblocks⟩⟩
  | choice hwritten _ _ _ ihbody iharms ih =>
      obtain ⟨hinner, houter⟩ := List.forall_mem_append.mp hnames
      obtain ⟨hbranches, hother⟩ := List.forall_mem_append.mp hinner
      obtain ⟨hfirst, hmore⟩ := List.forall_mem_append.mp hbranches
      obtain ⟨hbody, hbodies⟩ := ihbody hfirst
      obtain ⟨⟨harms, hlast⟩, hblocks⟩ := iharms (List.forall_mem_append.mpr ⟨hmore, hother⟩)
      obtain ⟨hmoreBlocks, hotherBlocks⟩ := List.forall_mem_append.mp hblocks
      obtain ⟨hrest, hrestBlocks⟩ := ih houter
      exact ⟨⟨⟨⟨hwritten.knowsFilters _ rfl, hbody, harms⟩, hlast⟩, hrest⟩,
        List.forall_mem_append.mpr ⟨List.forall_mem_append.mpr
          ⟨List.forall_mem_append.mpr ⟨hbodies, hmoreBlocks⟩, hotherBlocks⟩, hrestBlocks⟩⟩
  | elif hwritten _ _ ihbody iharms =>
      obtain ⟨hbranches, hother⟩ := List.forall_mem_append.mp hnames
      obtain ⟨hfirst, hmore⟩ := List.forall_mem_append.mp hbranches
      obtain ⟨hbody, hbodies⟩ := ihbody hfirst
      obtain ⟨⟨harms, hlast⟩, hblocks⟩ := iharms (List.forall_mem_append.mpr ⟨hmore, hother⟩)
      obtain ⟨hmoreBlocks, hotherBlocks⟩ := List.forall_mem_append.mp hblocks
      exact ⟨⟨⟨hwritten.knowsFilters _ rfl, hbody, harms⟩, hlast⟩,
        List.forall_mem_append.mpr
          ⟨List.forall_mem_append.mpr ⟨hbodies, hmoreBlocks⟩, hotherBlocks⟩⟩
  | otherwise _ _ _ ihbody =>
      obtain ⟨hbody, hbodies⟩ := ihbody hnames
      exact ⟨⟨trivial, hbody⟩, hbodies⟩
  | endif _ => exact ⟨⟨trivial, trivial⟩, List.forall_mem_nil _⟩

end Phrase

/-- A template that is checked for every list of names that has the ones of its blocks. -/
def IsChecked (t : Template) : Prop := ∀ names, (∀ b ∈ t.blocks, b.name ∈ names) →
  Checked names false t.layout ∧ ∀ b ∈ t.blocks, Checked names true b.body

theorem isChecked_of_parse {options : Spacing} {name content : String} {t : Template}
    (h : parse options name content = .ok t) : t.IsChecked := by
  obtain ⟨_, parent, ns, -, hsentence, -, rfl⟩ := parse_eq_ok_iff_sentence.mp h
  generalize options.apply _ = ps at hsentence
  intro names hnames
  cases hsentence with
  | root hnodes => exact hnodes.fits hnames
  | @child parent _ _ ns ms _ _ hnodes _ hmore =>
      have hblocks : (ofOutline name (some parent) (ns ++ ms)).blocks =
          Node.blocksOf ns ++ Node.blocksOf ms := Node.blocksOf_append ns ms
      have hlayout : (ofOutline name (some parent) (ns ++ ms)).layout =
          Node.elements ns ++ Node.elements ms := Node.elements_append ns ms
      rw [hblocks] at hnames
      rw [hblocks, hlayout]
      obtain ⟨hfirst, hsecond⟩ := List.forall_mem_append.mp hnames
      obtain ⟨hns, hnsBlocks⟩ := hnodes.fits hfirst
      obtain ⟨hms, hmsBlocks⟩ := hmore.fits hsecond
      exact ⟨checked_append.mpr ⟨hns, hms⟩, List.forall_mem_append.mpr ⟨hnsBlocks, hmsBlocks⟩⟩

/-! ### Composed templates -/

/-- A composed template that is checked: nothing is left of `super()`, and all slots are of its blocks. -/
structure Resolved.IsChecked (r : Resolved) : Prop where
  layout : Checked (r.blocks.map (·.name)) false r.layout
  bodies : ∀ b ∈ r.blocks, Checked (r.blocks.map (·.name)) false b.body
  distinct : (r.blocks.map (·.name)).Nodup

section
variable {source : String → Option Template} {chain : Chain} {names : List String}
  {down : List Template}

theorem checked_of_inheritedBody (hdown : ∀ t ∈ down, ∀ b ∈ t.blocks, Checked names true b.body)
    {name above : String} {body : List Element} (h : inheritedBody name above down = .ok body) :
    Checked names false body := by
  induction down generalizing above body with
  | nil => cases h
  | cons t lower ih =>
      obtain ⟨ht, hlower⟩ := List.forall_mem_cons.mp hdown
      cases hb : t.block? name with
      | none =>
          rw [inheritedBody_of_none hb] at h
          exact ih hlower h
      | some b =>
          have hbody := ht b (List.mem_of_find?_eq_some hb)
          rw [inheritedBody_of_some hb] at h
          split at h
          · obtain ⟨below, hbelow, rfl⟩ := map_eq_ok.mp h
            exact checked_splice (ih hlower hbelow) b.body hbody
          · next hsuper =>
              cases h
              have hsplice : Checked names false (splice [] b.body) :=
                checked_splice (show Checked names false [] from trivial) b.body hbody
              rwa [splice_of_not_callsSuper [] b.body (by simpa using hsuper)] at hsplice

theorem checked_of_inheritedBlock (hdown : ∀ t ∈ down, ∀ b ∈ t.blocks, Checked names true b.body)
    {leaf name : String} {b : ResolvedBlock} (h : inheritedBlock leaf name down = .ok b) :
    Checked names false b.body := by
  induction down with
  | nil => cases h
  | cons t lower ih =>
      have hlower := (List.forall_mem_cons.mp hdown).2
      cases hc : t.block? name with
      | none =>
          rw [inheritedBlock_of_none hc] at h
          exact ih hlower h
      | some c =>
          cases hr : c.required with
          | true =>
              rw [inheritedBlock_of_required hc hr] at h
              exact ih hlower h
          | false =>
              rw [inheritedBlock_of_defined hc hr] at h
              obtain ⟨body, hbody, rfl⟩ := map_eq_ok.mp h
              exact checked_of_inheritedBody hdown hbody

/-- What is composed of parsed templates is checked. -/
theorem isChecked_of_compose (hs : AllParsed source) {r : Resolved}
    (h : compose source chain = .ok r) : r.IsChecked := by
  obtain ⟨layers, blocks, hlayers, -, hblocks, rfl⟩ := compose_eq_ok_iff.mp h
  have hnames : blocks.map (·.name) = blockNames layers := names_of_mapM hblocks
  have hchecked : ∀ t ∈ layers, Checked (blockNames layers) false t.layout ∧
      ∀ b ∈ t.blocks, Checked (blockNames layers) true b.body := by
    intro t ht
    obtain ⟨n, -, hn⟩ : ∃ n ∈ chain.layers, source n = some t := by
      rw [← List.mem_filterMap, filterMap_of_collectLayers hlayers]
      exact ht
    obtain ⟨_, _, _, hparse⟩ := hs n t hn
    refine isChecked_of_parse hparse _ fun b hb => ?_
    exact mem_blockNames.mpr ⟨t, ht, exists_block?_iff.mpr (List.mem_map_of_mem hb)⟩
  constructor
  · show Checked (blocks.map (·.name)) false _
    rw [hnames]
    cases hhead : layers.head? with
    | none => exact trivial
    | some t => exact (hchecked t (List.mem_of_head? hhead)).1
  · show ∀ b ∈ blocks, Checked (blocks.map (·.name)) false b.body
    rw [hnames]
    intro b hb
    obtain ⟨name, -, hblock⟩ := exists_of_mem_mapM hblocks hb
    exact checked_of_inheritedBlock
      (fun t ht => (hchecked t (List.mem_reverse.mp ht)).2) hblock
  · show (blocks.map (·.name)).Nodup
    rw [hnames]
    exact (firstAppearances_eraseDups _).nodup

end

/-! ### Rendering -/

section
variable {r : Resolved} {className : String} {s s' : Stage} {err : Error} {names : List String}

theorem Resolved.Step.checked (hr : ∀ b ∈ r.blocks, Checked names false b.body)
    (h : r.Step className s s') (hs : Checked names false s.elements) :
    Checked names false s'.elements := by
  cases h with
  | next _ => exact hs.2
  | branch _ _ _ => exact (branchesChecked_append.mp hs.1.1).2.2.1
  | otherwise _ => exact hs.1.2
  | round _ _ _ => exact hs.1.2
  | block _ hb => exact hr _ (List.mem_of_find?_eq_some hb)

theorem Resolved.Leads.checked (hr : ∀ b ∈ r.blocks, Checked names false b.body)
    (h : r.Leads className s s') (hs : Checked names false s.elements) :
    Checked names false s'.elements := by
  induction h with
  | refl => exact hs
  | tail _ hstep ih => exact hstep.checked hr ih

theorem knowsFilters_of_branchesChecked {branches : List (Expr × List Element)}
    (h : BranchesChecked names false branches) : ∀ branch ∈ branches, KnowsFilters branch.1 := by
  induction branches with
  | nil => exact List.forall_mem_nil _
  | cons branch branches ih => exact List.forall_mem_cons.mpr ⟨h.1, ih h.2.2⟩

/-- Checked elements ask for expressions with known filters only. -/
theorem Stage.Asks.knowsFilters {e : Expr} (h : s.Asks e) (hs : Checked names false s.elements) :
    KnowsFilters e := by
  cases h with
  | output => exact hs.1
  | condition hbranch => exact knowsFilters_of_branchesChecked hs.1.1 _ hbranch
  | items => exact hs.1.1
  | assign => exact hs.1

/-- Where checked elements stop, rendering ends at an expression with known filters, or a block is
rendered inside itself. -/
theorem Resolved.Stops.cases_of_checked (h : r.Stops className s err)
    (hs : Checked names false s.elements) :
    (∃ e, KnowsFilters e ∧ (r.site className s.active).EndsAt e s.scope err) ∨
    ∃ name ∈ s.active, err = .resolution r.name (some name) .recursiveBlock := by
  rcases h.cases with ⟨e, hasks, hends⟩ | ⟨rest, helements, -⟩ | ⟨name, -, -, hmem, herr⟩
  · exact .inl ⟨e, hasks.knowsFilters hs, hends⟩
  · rw [helements] at hs
    exact absurd hs.1 Bool.false_ne_true
  · exact .inr ⟨name, hmem, herr⟩

end

/-! ### Messages -/

section
variable {e : Expr} {scope : Scope} {fault : RenderFault} {word : List Char}

theorem prefix_append {s : String} (h : word <+: s.toList) (t : String) : word <+: (s ++ t).toList := by
  rw [String.toList_append]
  exact h.trans (List.prefix_append _ _)

/-- How the messages of faults start that do not say that something is unknown. -/
def plainStarts : List (List Char) := [['u', 'n', 'd'], ['f', 'i', 'l'], ['c', 'a', 'n'], ['i', 'n', 't']]

theorem message_of_type (cause : Expr.TypeFault) :
    ∃ word ∈ plainStarts, word <+: cause.message.toList := by
  cases cause with
  | overflow => exact ⟨['i', 'n', 't'], by decide, by decide +kernel⟩
  | compare _ _ | add _ _ | subtract _ _ =>
      exact ⟨['c', 'a', 'n'], by decide,
        prefix_append (prefix_append (prefix_append (by decide +kernel) _) _) _⟩
  | _ => exact ⟨['c', 'a', 'n'], by decide, prefix_append (by decide +kernel) _⟩

theorem message_of_eval {cause : Expr.EvalError} (h : cause.KnowsFilters) :
    ∃ word ∈ plainStarts, word <+: cause.message.toList := by
  cases cause with
  | undefined _ =>
      exact ⟨['u', 'n', 'd'], by decide,
        show ['u', 'n', 'd'] <+: "undefined variable".toList by decide +kernel⟩
  | type _ cause => exact message_of_type cause
  | filter subject cause =>
      refine ⟨['f', 'i', 'l'], by decide, ?_⟩
      have hstart (f : Filter) : ['f', 'i', 'l'] <+: ("filter `" ++ f.name).toList :=
        prefix_append (by decide +kernel) _
      cases cause with
      | unknown name => exact absurd rfl (h subject name)
      | invalidInput f _ _ =>
          exact prefix_append (prefix_append (prefix_append (prefix_append (hstart f) _) _) _) _
      | invalidArgument f _ => exact prefix_append (prefix_append (hstart f) _) _

/-- No fault of an expression with known filters says that a filter or a test is not known. -/
theorem Faults.not_namesUnknown (h : Faults e scope fault) (hknown : KnowsFilters e) :
    ¬fault.NamesUnknown := by
  have hstart : ∃ word ∈ plainStarts, word <+: fault.message.toList := by
    cases h with
    | eval hcause => exact message_of_eval (Expr.knowsFilters_of_eval hknown hcause)
    | print _ _ => exact ⟨['c', 'a', 'n'], by decide, prefix_append (by decide +kernel) _⟩
    | iterate _ _ => exact ⟨['c', 'a', 'n'], by decide, prefix_append (by decide +kernel) _⟩
  rintro ⟨name, hname⟩
  have hunknown : ['u', 'n', 'k'] <+: fault.message.toList := by
    rcases hname with hname | hname
    · rw [hname]
      exact prefix_append (prefix_append (by decide +kernel) _) _
    · rw [hname]
      exact prefix_append (prefix_append (by decide +kernel) _) _
  obtain ⟨word, hword, hplain⟩ := hstart
  have hlength : ∀ w ∈ plainStarts, w.length = 3 ∧ w ≠ ['u', 'n', 'k'] := by decide
  obtain ⟨hthree, hne⟩ := hlength word hword
  have hle := List.prefix_of_prefix_length_le hplain hunknown (by rw [hthree]; decide)
  exact hne (hle.eq_of_length hthree)

end

/-! ### What comes of a rendering -/

/-- How a rendering without a text ends: by an error about a value that does not say that a filter or a test
is unknown, at a block that would be rendered inside itself, or by a halt. -/
inductive Resolved.Ends (r : Resolved) (className : String) (context : Frame) : Error → Prop
  | value {block : Option String} {fault : RenderFault} : ¬fault.NamesUnknown →
      Ends r className context (.render className r.name block fault)
  | recursive {s : Stage} {name : String} : r.Leads className (r.start context) s →
      r.Stops className s (.resolution r.name (some name) .recursiveBlock) →
      Ends r className context (.resolution r.name (some name) .recursiveBlock)
  | halt {halt : Halt} : r.Halts className context halt → Ends r className context (.halted halt)

theorem Resolved.IsChecked.ends {r : Resolved} {className : String} {context : Frame} {err : Error}
    (hr : r.IsChecked) (h : render r className context = .error err) : r.Ends className context err := by
  obtain ⟨s, hleads, hstops⟩ := render_eq_error_iff.mp h
  rcases hstops.cases_of_checked (hleads.checked hr.bodies hr.layout) with ⟨e, hknown, hends⟩ | ⟨name, -, rfl⟩
  · cases hends with
    | fault hfault => exact .value (hfault.not_namesUnknown hknown)
    | halt _ => exact .halt (halts_of_render h)
  · exact .recursive hleads hstops

/-- What is composed of parsed templates has no `super()` left, every slot in it is of one of its blocks,
and these have different names. For every class and every context there is a text, or an error about a
value that does not say that a filter or a test is unknown, or the error that a block is rendered inside
itself, unless the program halts because the rendering has come to an expression that overflows. -/
theorem render_of_parsed {source : String → Option Template} (hs : AllParsed source) {chain : Chain}
    {r : Resolved} (h : compose source chain = .ok r) :
    (∀ es ∈ r.layout :: r.blocks.map (·.body),
      callsSuper es = false ∧ ∀ name ∈ slots es, ∃ b, r.block? name = some b) ∧
    (r.blocks.map (·.name)).Nodup ∧
    ∀ (className : String) (context : Frame),
      (∃ text, render r className context = .ok text) ∨
      (∃ block fault, ¬RenderFault.NamesUnknown fault ∧
        render r className context = .error (.render className r.name block fault)) ∨
      (∃ name, render r className context = .error (.resolution r.name (some name) .recursiveBlock)) ∨
      ∃ halt, r.Halts className context halt ∧ render r className context = .error (.halted halt) := by
  have hr := isChecked_of_compose hs h
  refine ⟨fun es hes => ?_, hr.distinct, fun className context => ?_⟩
  · have hchecked : Checked (r.blocks.map (·.name)) false es := by
      rcases List.mem_cons.mp hes with rfl | hes
      · exact hr.layout
      · obtain ⟨b, hb, rfl⟩ := List.mem_map.mp hes
        exact hr.bodies b hb
    refine ⟨callsSuper_of_checked es hchecked, fun name hname => ?_⟩
    obtain ⟨b, hb, hbname⟩ := List.mem_map.mp (slots_of_checked es hchecked name hname)
    rw [← Option.isSome_iff_exists, Resolved.block?, List.find?_isSome]
    exact ⟨b, hb, beq_iff_eq.mpr hbname⟩
  · cases hrender : render r className context with
    | ok text => exact .inl ⟨text, rfl⟩
    | error err =>
        cases hr.ends hrender with
        | value hfault => exact .inr (.inl ⟨_, _, hfault, rfl⟩)
        | recursive _ _ => exact .inr (.inr (.inl ⟨_, rfl⟩))
        | halt hhalts => exact .inr (.inr (.inr ⟨_, hhalts, rfl⟩))

/-- The source of a page. -/
def pageSource : String :=
  "\x7b\x7b title|upper \x7d\x7d\x7b% block body %\x7d\x7b% if note is defined %\x7d" ++
    "\x7b\x7b note \x7d\x7d\x7b% endif %\x7d\x7b% endblock %\x7d"

/-- The source of a note, which adds to the block of the page. -/
def noteSource : String :=
  "\x7b% extends 'page' %\x7d\x7b% block body %\x7d\x7b\x7b super() \x7d\x7d!\x7b% endblock %\x7d"

/-- The page and the note. -/
def notePages : String → Option Template
  | "page" => some (ofOutline "page" none
      [.output (.filter (.var "title") "upper" []), .block "body" false
        [.choice [(.test (.var "note") .defined false, [.output (.var "note")])] []]])
  | "note" => some (ofOutline "note" (some "page") [.block "body" false [.super, .text "!"]])
  | _ => none

theorem allParsed_notePages : AllParsed notePages := by
  intro n t h
  unfold notePages at h
  split at h
  · cases h
    exact ⟨.standard, "page", pageSource,
      parse_of_saysOutline (show saysOutline .standard none _ 7 _ = true by decide +kernel)⟩
  · cases h
    exact ⟨.standard, "note", noteSource,
      parse_of_saysOutline (show saysOutline .standard (some "page") _ 5 _ = true by decide +kernel)⟩
  · cases h

/-- The note with the block of the page in the place of `super()`. -/
def composedNote : Resolved :=
  ⟨⟨"page", ["note"]⟩, [.output (.filter (.var "title") "upper" []), .slot "body"],
    [⟨"body", "note",
      [.choice [(.test (.var "note") .defined false, [.output (.var "note")])] [], .text "!"]⟩]⟩

theorem compose_notePages : compose notePages ⟨"page", ["note"]⟩ = .ok composedNote := rfl

theorem render_of_parsed_note :
    AllParsed notePages ∧ compose notePages ⟨"page", ["note"]⟩ = .ok composedNote ∧
    (∀ es ∈ composedNote.layout :: composedNote.blocks.map (·.body),
      callsSuper es = false ∧ ∀ name ∈ slots es, ∃ b, composedNote.block? name = some b) ∧
    (composedNote.blocks.map (·.name)).Nodup ∧
    ∀ (className : String) (context : Frame),
      (∃ text, render composedNote className context = .ok text) ∨
      (∃ block fault, ¬RenderFault.NamesUnknown fault ∧
        render composedNote className context = .error (.render className "note" block fault)) ∨
      (∃ name, render composedNote className context =
        .error (.resolution "note" (some name) .recursiveBlock)) ∨
      ∃ halt, composedNote.Halts className context halt ∧
        render composedNote className context = .error (.halted halt) :=
  ⟨allParsed_notePages, compose_notePages, render_of_parsed allParsed_notePages compose_notePages⟩

/-- The source of a name that is padded. -/
def badgeSource : String := "\x7b\x7b name|indent(width) \x7d\x7d"

/-- The badge, and no other template. -/
def badges (n : String) : Option Template :=
  if n = "badge" then
    some (ofOutline "badge" none [.output (.filter (.var "name") "indent" [.var "width"])])
  else none

/-- A parsed template that is composed on its own halts where the context gives a width that is too great. -/
theorem parsed_render_halts : AllParsed badges ∧ ∃ r, compose badges ⟨"badge", []⟩ = .ok r ∧
    render r "Badge" [("name", .text "a"), ("width", .int 0xFFFFFFFFFFFFFFFF)] = .error (.halted .capacity) := by
  refine ⟨fun n t h => ?_, _, rfl, rfl⟩
  unfold badges at h
  split at h
  · cases h
    exact ⟨.standard, "badge", badgeSource,
      parse_of_saysOutline (show saysOutline .standard none _ 2 _ = true by decide +kernel)⟩
  · cases h

end ClassScribe.Template
