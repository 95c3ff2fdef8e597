import ClassScribe.Proofs.Template.Composition

/-! # Composing related templates

Two templates that are the same but for their rows of elements, which are related row by row, have the same
names, parents and blocks. Chains of such templates are composed to composed templates of the same kind, or
fail alike (`compose_related`). All that the relation has to keep is which rows call for the body below, and
what comes of putting bodies in the place of `super()`. -/

namespace ClassScribe.Template

/-- A relation of rows of elements. -/
abbrev RowRelation := List Element → List Element → Prop

/-- A relation that goes along with `super()`: related rows call for the body below alike, and stay related
with related bodies in its place. -/
structure RowRelation.Splices (R : RowRelation) : Prop where
  nil : R [] []
  calls : ∀ {es fs}, R es fs → callsSuper es = callsSuper fs
  splice : ∀ {below below' es fs}, R below below' → R es fs → R (splice below es) (splice below' fs)

end Template

/-- Two blocks with related bodies. -/
structure Block.Related (R : Template.RowRelation) (b b' : Block) : Prop where
  name : b.name = b'.name
  required : b.required = b'.required
  body : R b.body b'.body

namespace Template

/-- Two templates with related layouts and bodies. -/
structure Related (R : RowRelation) (t t' : Template) : Prop where
  name : t.name = t'.name
  parent : t.parent = t'.parent
  layout : R t.layout t'.layout
  blocks : List.Forall₂ (Block.Related R) t.blocks t'.blocks

/-- Two blocks of composed templates with related bodies. -/
structure ResolvedBlock.Related (R : RowRelation) (b b' : ResolvedBlock) : Prop where
  name : b.name = b'.name
  definedIn : b.definedIn = b'.definedIn
  body : R b.body b'.body

/-- Two composed templates with related layouts and bodies. -/
structure Resolved.Related (R : RowRelation) (r r' : Resolved) : Prop where
  chain : r.chain = r'.chain
  layout : R r.layout r'.layout
  blocks : List.Forall₂ (ResolvedBlock.Related R) r.blocks r'.blocks

/-! ### Looking for blocks -/

theorem find?_related {α β : Type} {related : α → β → Prop} {name : α → String} {name' : β → String}
    (hname : ∀ a b, related a b → name a = name' b) {l : List α} {l' : List β}
    (h : List.Forall₂ related l l') (n : String) :
    (l.find? (name · == n) = none ∧ l'.find? (name' · == n) = none) ∨
      ∃ a b, l.find? (name · == n) = some a ∧ l'.find? (name' · == n) = some b ∧ related a b := by
  induction h with
  | nil => exact .inl ⟨rfl, rfl⟩
  | @cons a b l l' hab _ ih =>
      rw [List.find?_cons, List.find?_cons, ← hname a b hab]
      cases name a == n with
      | false => exact ih
      | true => exact .inr ⟨a, b, rfl, rfl, hab⟩

section
variable {R : RowRelation} {t t' : Template} {r r' : Resolved}

theorem Related.block? (h : t.Related R t') (name : String) :
    (t.block? name = none ∧ t'.block? name = none) ∨
      ∃ b b', t.block? name = some b ∧ t'.block? name = some b' ∧ b.Related R b' :=
  find?_related (fun _ _ hb => hb.name) h.blocks name

theorem Resolved.Related.block? (h : r.Related R r') (name : String) :
    (r.block? name = none ∧ r'.block? name = none) ∨
      ∃ b b', r.block? name = some b ∧ r'.block? name = some b' ∧ b.Related R b' :=
  find?_related (fun _ _ hb => hb.name) h.blocks name

theorem Related.names (h : t.Related R t') : t.blocks.map (·.name) = t'.blocks.map (·.name) := by
  have hblocks := h.blocks
  generalize t.blocks = blocks at hblocks
  generalize t'.blocks = blocks' at hblocks
  induction hblocks with
  | nil => rfl
  | cons hb _ ih => rw [List.map_cons, List.map_cons, hb.name, ih]

theorem blockNames_related {layers layers' : List Template} (h : List.Forall₂ (Related R) layers layers') :
    blockNames layers = blockNames layers' := by
  have hnames : layers.flatMap (fun t => t.blocks.map (·.name)) =
      layers'.flatMap fun t => t.blocks.map (·.name) := by
    induction h with
    | nil => rfl
    | cons ht _ ih => rw [List.flatMap_cons, List.flatMap_cons, ht.names, ih]
  unfold blockNames
  rw [hnames]

/-! ### Bodies -/

variable {down down' : List Template}

theorem inheritedBody_related (hR : R.Splices) (h : List.Forall₂ (Related R) down down')
    (name above : String) :
    Alike Eq R (inheritedBody name above down) (inheritedBody name above down') := by
  induction h generalizing above with
  | nil => exact .error rfl
  | @cons t t' lower lower' ht _ ih =>
      obtain ⟨hnone, hnone'⟩ | ⟨b, b', hb, hb', hrel⟩ := ht.block? name
      · rw [inheritedBody_of_none hnone, inheritedBody_of_none hnone']
        exact ih above
      · rw [inheritedBody_of_some hb, inheritedBody_of_some hb', ← hR.calls hrel.body, ← ht.name]
        split
        · exact (ih t.name).map fun below below' hbelow => hR.splice hbelow hrel.body
        · exact .ok hrel.body

theorem inheritedBlock_related (hR : R.Splices) (h : List.Forall₂ (Related R) down down')
    (leaf name : String) : Alike Eq (ResolvedBlock.Related R) (inheritedBlock leaf name down)
      (inheritedBlock leaf name down') := by
  induction h with
  | nil => exact .error rfl
  | @cons t t' lower lower' ht hlower ih =>
      obtain ⟨hnone, hnone'⟩ | ⟨b, b', hb, hb', hrel⟩ := ht.block? name
      · rw [inheritedBlock_of_none hnone, inheritedBlock_of_none hnone']
        exact ih
      · cases hr : b.required with
        | true =>
            rw [inheritedBlock_of_required hb hr, inheritedBlock_of_required hb' (hrel.required ▸ hr)]
            exact ih
        | false =>
            rw [inheritedBlock_of_defined hb hr, inheritedBlock_of_defined hb' (hrel.required ▸ hr),
              ← ht.name]
            have hbody := inheritedBody_related hR (.cons ht hlower) name t.name
            exact hbody.map fun _ _ hrow => ⟨rfl, rfl, hrow⟩

/-! ### Layers -/

variable {source source' : String → Option Template}

theorem collectLayers_related (h : ∀ n, Option.Rel (Related R) (source n) (source' n)) (chain : Chain)
    {seen seen' : List Template} (hseen : List.Forall₂ (Related R) seen seen') (names : List String) :
    Alike Eq (List.Forall₂ (Related R)) (collectLayers source chain seen names)
      (collectLayers source' chain seen' names) := by
  induction names generalizing seen seen' with
  | nil => exact .ok .nil
  | cons n rest ih =>
      have hany : seen.any (·.name == n) = seen'.any (·.name == n) := by
        clear ih
        induction hseen with
        | nil => rfl
        | cons ht _ ih => rw [List.any_cons, List.any_cons, ht.name, ih]
      have hn := h n
      rw [collectLayers, collectLayers, hany]
      split
      · exact .error rfl
      · generalize source n = found at hn
        generalize source' n = found' at hn
        cases hn with
        | none => exact .error rfl
        | @some t t' ht =>
            show Alike _ _ (collectLayers source chain (t :: seen) rest >>= _)
              (collectLayers source' chain (t' :: seen') rest >>= _)
            exact (ih (.cons ht hseen)).bind fun _ _ hmore => .ok (.cons ht hmore)

/-- Related templates are composed to related composed templates, or fail with the same error. -/
theorem compose_related (hR : R.Splices) (h : ∀ n, Option.Rel (Related R) (source n) (source' n))
    (chain : Chain) : Alike Eq (Resolved.Related R) (compose source chain) (compose source' chain) := by
  rw [compose_eq, compose_eq]
  refine (collectLayers_related h chain .nil chain.layers).bind fun layers layers' hlayers => ?_
  have hblocks : Alike Eq (List.Forall₂ (ResolvedBlock.Related R))
      ((blockNames layers).mapM fun name => inheritedBlock chain.leaf name layers.reverse)
      ((blockNames layers').mapM fun name => inheritedBlock chain.leaf name layers'.reverse) := by
    rw [blockNames_related hlayers]
    exact Alike.mapM (fun name => inheritedBlock_related hR (List.rel_reverse hlayers) chain.leaf name) _
  have hparent : layers.head?.bind (·.parent) = layers'.head?.bind (·.parent) := by
    cases hlayers with
    | nil => rfl
    | cons ht _ => exact ht.parent
  have hlayout : R ((layers.head?.map (·.layout)).getD []) ((layers'.head?.map (·.layout)).getD []) := by
    cases hlayers with
    | nil => exact hR.nil
    | cons ht _ => exact ht.layout
  rw [hparent]
  cases layers'.head?.bind (·.parent) with
  | some parent => exact .error rfl
  | none => exact hblocks.bind fun _ _ hall => .ok ⟨rfl, hlayout, hall⟩

end

end Template
end ClassScribe
