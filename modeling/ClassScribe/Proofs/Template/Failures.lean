import ClassScribe.Proofs.Template.Checked
import ClassScribe.Proofs.Template.Lineage
import ClassScribe.Template.Slots
import ClassScribe.Template.Validation

/-! # How rendering can fail

A library that passes the check on load leaves two ways for rendering to fail with an error: a value that an
expression cannot work with, and a block whose body leads back to its own slot (`render_of_validated`). -/

namespace ClassScribe.Template

/-! ### Slots that are left -/

/-- Whether all blocks that are being rendered lead to all slots that are left. -/
def Stage.Nested (s : Stage) (r : Resolved) : Prop :=
  ∀ a ∈ s.active, ∀ n ∈ slots s.elements, Relation.TransGen r.Nests a n

section
variable {r : Resolved} {className : String} {s s' : Stage} {err : Error}

theorem mem_branchSlots {body : List Element} {n : String} (hn : n ∈ slots body)
    (skipped more : List (Expr × List Element)) (condition : Expr) :
    n ∈ branchSlots (skipped ++ (condition, body) :: more) := by
  induction skipped with
  | nil => exact List.mem_append_left _ hn
  | cons b skipped ih => exact List.mem_append_right _ ih

/-- What is left in a stage after a step is some of what was left, but for the step into a block: then it
is what stands in that block, and so in all blocks around it. -/
theorem Stage.Nested.step (hs : s.Nested r) (h : r.Step className s s') : s'.Nested r := by
  intro a ha n hn
  cases h with
  | next _ => exact hs a ha n (List.mem_append_right _ hn)
  | @branch _ _ skipped more condition _ _ _ _ _ _ _ =>
      have hbranches := mem_branchSlots hn skipped more condition
      exact hs a ha n (List.mem_append_left _ (List.mem_append_left _ hbranches))
  | otherwise _ => exact hs a ha n (List.mem_append_left _ (List.mem_append_right _ hn))
  | round _ _ _ => exact hs a ha n (List.mem_append_left _ hn)
  | @block active scope name b rest _ hb =>
      have hnests : r.Nests name n := ⟨b, hb, hn⟩
      rcases List.mem_cons.mp ha with rfl | ha
      · exact .single hnests
      · have hname : name ∈ slots (.slot name :: rest) := List.mem_cons_self
        exact (hs a ha name hname).tail hnests

theorem Stage.Nested.leads (hs : s.Nested r) (h : r.Leads className s s') : s'.Nested r := by
  induction h with
  | refl => exact hs
  | tail _ hstep ih => exact ih.step hstep

theorem Resolved.Stops.nests_of_recursive {context : Frame} {name : String}
    (hleads : r.Leads className (r.start context) s)
    (h : r.Stops className s (.resolution r.name (some name) .recursiveBlock)) :
    Relation.TransGen r.Nests name name := by
  have hstart : (r.start context).Nested r := List.forall_mem_nil _
  obtain ⟨rest, helements, hmem⟩ := h.slot_of_recursive
  have hslot : name ∈ slots s.elements := by
    rw [helements]
    exact List.mem_cons_self
  exact hstart.leads hleads name hmem name hslot

end

/-! ### Composed libraries -/

theorem Library.Loaded.allParsed {l : Library} (hl : l.Loaded) : AllParsed l.get? := by
  have hall : ∀ t ∈ l.templates, ∃ options name content, parse options name content = .ok t := by
    induction hl with
    | empty => exact List.forall_mem_nil _
    | @add _ _ options name content _ hadd ih =>
        obtain ⟨t, ht, hl'⟩ := bind_eq_ok.mp hadd
        cases hl'
        intro u hu
        rcases Library.mem_insertInto hu with rfl | hu
        · exact ⟨options, name, content, ht⟩
        · exact ih u hu
  intro n t ht
  exact hall t (Library.mem_of_get? ht)

theorem name_of_resolve {l : Library} {chain : Chain} {r : Resolved}
    (h : l.resolve chain = .ok r) : r.name = chain.leaf := by
  unfold Library.resolve at h
  rw [compose_eq] at h
  obtain ⟨layers, -, hr⟩ := composes_of_inherit (fun _ _ => Library.name_of_get?) h
  rw [Resolved.name, hr.chain_eq]

/-- Every chain that the check on load returns for a library of parsed templates can be composed, and for
every class and every context the composed template has a text, or fails in the template of the leaf by a
value, which is no want of a filter or a test, or stops at a block whose body leads back to its own slot,
unless the program halts because the rendering has come to an expression that overflows. -/
theorem render_of_validated {l : Library} (hl : l.Loaded) {chains : List Chain}
    (h : l.validate = .ok chains) {chain : Chain} (hchain : chain ∈ chains) :
    ∃ r, l.resolve chain = .ok r ∧ ∀ (className : String) (context : Frame),
      (∃ text, render r className context = .ok text) ∨
      (∃ block fault, ¬RenderFault.NamesUnknown fault ∧
        render r className context = .error (.render className chain.leaf block fault)) ∨
      (∃ name, Relation.TransGen r.Nests name name ∧
        render r className context = .error (.resolution chain.leaf (some name) .recursiveBlock)) ∨
      ∃ halt, r.Halts className context halt ∧ render r className context = .error (.halted halt) := by
  obtain ⟨_, -, -, r, hr⟩ := (Library.leaves_of_validate h).2 chain hchain
  refine ⟨r, hr, fun className context => ?_⟩
  rw [← name_of_resolve hr]
  cases hrender : render r className context with
  | ok text => exact .inl ⟨text, rfl⟩
  | error err =>
      cases (isChecked_of_compose hl.allParsed hr).ends hrender with
      | value hfault => exact .inr (.inl ⟨_, _, hfault, rfl⟩)
      | recursive hleads hstops =>
          exact .inr (.inr (.inl ⟨_, Resolved.Stops.nests_of_recursive hleads hstops, rfl⟩))
      | halt hhalts => exact .inr (.inr (.inr ⟨_, hhalts, rfl⟩))

/-! ### Blocks that are turned inside out -/

/-- A block inside another one, and a template that puts the outer block into the inner one. -/
def inverted : Library :=
  ⟨[⟨"base", none, [.slot "a"], [⟨"a", false, [.slot "b"]⟩, ⟨"b", false, [.text "x"]⟩]⟩,
    ⟨"leaf", some "base", [.slot "b"], [⟨"b", false, [.slot "a"]⟩, ⟨"a", true, []⟩]⟩], by decide⟩

theorem validate_inverted : inverted.validate = .ok [⟨"base", ["leaf"]⟩] := by
  have hchain : inverted.chainFor "leaf" = .ok ⟨"base", ["leaf"]⟩ := by
    rw [Library.chainFor_eq (t := ⟨"leaf", some "base", [.slot "b"],
        [⟨"b", false, [.slot "a"]⟩, ⟨"a", true, []⟩]⟩) rfl,
      Library.walk_of_parent (show _ = some "base" from rfl) (by decide) rfl, Library.walk_of_root rfl]
    rfl
  unfold Library.validate
  rw [show inverted.leaves = ["leaf"] by decide, List.mapM_cons, hchain]
  rfl

/-- The source of the block inside another one. -/
def innerSource : String :=
  "\x7b% block a %\x7d\x7b% block b %\x7dx\x7b% endblock %\x7d\x7b% endblock %\x7d"

/-- The source of the template that puts the outer block into the inner one. -/
def outerSource : String :=
  "\x7b% extends 'base' %\x7d\x7b% block b %\x7d\x7b% block a required %\x7d" ++
    "\x7b% endblock %\x7d\x7b% endblock %\x7d"

theorem addAll_inverted : Library.empty.addAll .standard
    [("base", innerSource), ("leaf", outerSource)] = .ok inverted := by
  have hbase : parse .standard "base" innerSource =
      .ok (ofOutline "base" none [.block "a" false [.block "b" false [.text "x"]]]) :=
    parse_of_saysOutline (show saysOutline .standard none _ 5 _ = true by decide +kernel)
  have hleaf : parse .standard "leaf" outerSource =
      .ok (ofOutline "leaf" (some "base") [.block "b" false [.block "a" true []]]) :=
    parse_of_saysOutline (show saysOutline .standard (some "base") _ 6 _ = true by decide +kernel)
  simp only [Library.addAll, Library.add, hbase, hleaf]
  rfl

theorem loaded_inverted : inverted.Loaded := by
  obtain ⟨l, hbase, h⟩ := bind_eq_ok.mp addAll_inverted
  obtain ⟨l', hleaf, h⟩ := bind_eq_ok.mp h
  cases h
  exact (Library.Loaded.empty.add hbase).add hleaf

/-- The chain of the two templates can be composed, and does not render forever. -/
theorem render_of_validated_inverted :
    inverted.Loaded ∧ inverted.validate = .ok [⟨"base", ["leaf"]⟩] ∧
      ∃ r, inverted.resolve ⟨"base", ["leaf"]⟩ = .ok r ∧ ∀ (className : String) (context : Frame),
        (∃ text, render r className context = .ok text) ∨
        (∃ block fault, ¬RenderFault.NamesUnknown fault ∧
          render r className context = .error (.render className "leaf" block fault)) ∨
        (∃ name, Relation.TransGen r.Nests name name ∧
          render r className context = .error (.resolution "leaf" (some name) .recursiveBlock)) ∨
        ∃ halt, r.Halts className context halt ∧ render r className context = .error (.halted halt) :=
  ⟨loaded_inverted, validate_inverted,
    render_of_validated loaded_inverted validate_inverted List.mem_cons_self⟩

theorem renderElements_slot {site : Site} {scope : Scope} {name : String} {rest : List Element}
    {e : Error} (h : site.slot scope name = .error e) :
    renderElements site scope (.slot name :: rest) = .error e := by
  apply renderElements_of_head
  exact bind_eq_error.mpr (.inl h)

theorem renderSlot_of_slot {r : Resolved} {className : String} {active : List String} {scope : Scope}
    {name inner : String} {b : ResolvedBlock} {rest : List Element} {e : Error}
    (hn : name ∉ active) (hb : r.block? name = some b)
    (hbody : b.body = .slot inner :: rest)
    (h : ∀ scope, renderSlot r className (name :: active) scope inner = .error e) :
    renderSlot r className active scope name = .error e := by
  rw [renderSlot_of_block hn hb, hbody, renderElements_slot (h _)]
  rfl

/-- The check passes, as all blocks have bodies, and rendering stops at the block that would stand in
itself. -/
theorem validated_render_recursive :
    ∃ l r, Library.empty.addAll .standard [("base", innerSource), ("leaf", outerSource)] = .ok l ∧
      l.validate = .ok [⟨"base", ["leaf"]⟩] ∧ l.resolve ⟨"base", ["leaf"]⟩ = .ok r ∧
      ∀ className context,
        render r className context = .error (.resolution "leaf" (some "a") .recursiveBlock) := by
  let r : Resolved := ⟨⟨"base", ["leaf"]⟩, [.slot "a"],
    [⟨"a", "base", [.slot "b"]⟩, ⟨"b", "leaf", [.slot "a"]⟩]⟩
  refine ⟨inverted, r, addAll_inverted, validate_inverted, rfl, fun className context => ?_⟩
  have hagain : ∀ scope, renderSlot r className ["b", "a"] scope "a" =
      .error (.resolution "leaf" (some "a") .recursiveBlock) :=
    renderSlot_of_mem (by decide)
  have hinner : ∀ scope, renderSlot r className ["a"] scope "b" =
      .error (.resolution "leaf" (some "a") .recursiveBlock) :=
    fun scope => renderSlot_of_slot (by decide) rfl rfl hagain
  have houter : ∀ scope, renderSlot r className [] scope "a" =
      .error (.resolution "leaf" (some "a") .recursiveBlock) :=
    fun scope => renderSlot_of_slot List.not_mem_nil rfl rfl hinner
  unfold render
  rw [renderElements_slot (houter _)]
  rfl

end ClassScribe.Template
