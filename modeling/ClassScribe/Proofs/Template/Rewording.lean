import ClassScribe.Proofs.Template.Relating
import ClassScribe.Template.Rewording

/-! # Composing templates with other words

Other texts do not change how templates are put together: composing templates with other texts gives the
composed template with these texts (`compose_reword`). -/

namespace ClassScribe.Template

variable {word : Wording}

/-! ### Elements -/

theorem rewordElements_append (es fs : List Element) :
    rewordElements word (es ++ fs) = rewordElements word es ++ rewordElements word fs := by
  induction es with
  | nil => rfl
  | cons e es ih => rw [List.cons_append, rewordElements, ih, rewordElements, List.append_assoc]

theorem rewordBranches_append (bs cs : List (Expr × List Element)) :
    rewordBranches word (bs ++ cs) = rewordBranches word bs ++ rewordBranches word cs := by
  induction bs with
  | nil => rfl
  | cons b bs ih => rw [List.cons_append, rewordBranches, ih, rewordBranches, List.cons_append]

theorem callsSuper_append (es fs : List Element) :
    callsSuper (es ++ fs) = (callsSuper es || callsSuper fs) := by
  induction es with
  | nil => rfl
  | cons e es ih => rw [List.cons_append, callsSuper, ih, callsSuper, Bool.or_assoc]

theorem splice_append (body es fs : List Element) :
    splice body (es ++ fs) = splice body es ++ splice body fs := by
  induction es with
  | nil => rfl
  | cons e es ih => rw [List.cons_append, splice, ih, splice, List.append_assoc]

theorem callsSuper_singleton (e : Element) : callsSuper [e] = elementCallsSuper e :=
  Bool.or_false _

theorem splice_singleton (body : List Element) (e : Element) : splice body [e] = spliceElement body e :=
  List.append_nil _

mutual
theorem callsSuper_rewordElement (word : Wording) :
    ∀ e, callsSuper (rewordElement word e) = elementCallsSuper e
  | .text s => by
      rw [rewordElement]
      cases word s <;> rfl
  | .choice branches otherwise => by
      rw [rewordElement, callsSuper_singleton, elementCallsSuper, elementCallsSuper,
        branchesCallSuper_rewordBranches word branches, callsSuper_rewordElements word otherwise]
  | .loop _ _ body => by
      rw [rewordElement, callsSuper_singleton, elementCallsSuper, elementCallsSuper,
        callsSuper_rewordElements word body]
  | .output _ | .super | .assign _ _ | .slot _ => rfl
theorem callsSuper_rewordElements (word : Wording) :
    ∀ es, callsSuper (rewordElements word es) = callsSuper es
  | [] => rfl
  | e :: rest => by
      rw [rewordElements, callsSuper_append, callsSuper_rewordElement word e,
        callsSuper_rewordElements word rest, callsSuper]
theorem branchesCallSuper_rewordBranches (word : Wording) :
    ∀ bs, branchesCallSuper (rewordBranches word bs) = branchesCallSuper bs
  | [] => rfl
  | (_, body) :: rest => by
      rw [rewordBranches, branchesCallSuper, callsSuper_rewordElements word body,
        branchesCallSuper_rewordBranches word rest, branchesCallSuper]
end

mutual
theorem rewordElements_spliceElement (word : Wording) (below : List Element) :
    ∀ e, rewordElements word (spliceElement below e) =
      splice (rewordElements word below) (rewordElement word e)
  | .text s => by
      rw [spliceElement, rewordElements, rewordElement]
      cases word s <;> rfl
  | .super => (List.append_nil _).symm
  | .choice branches otherwise => by
      rw [spliceElement, rewordElements, rewordElement, rewordElements, List.append_nil, rewordElement,
        splice_singleton, spliceElement, rewordBranches_spliceBranches word below branches,
        rewordElements_splice word below otherwise]
  | .loop _ _ body => by
      rw [spliceElement, rewordElements, rewordElement, rewordElements, List.append_nil, rewordElement,
        splice_singleton, spliceElement, rewordElements_splice word below body]
  | .output _ | .assign _ _ | .slot _ => rfl
theorem rewordElements_splice (word : Wording) (below : List Element) :
    ∀ es, rewordElements word (splice below es) =
      splice (rewordElements word below) (rewordElements word es)
  | [] => rfl
  | e :: rest => by
      rw [splice, rewordElements_append, rewordElements_spliceElement word below e,
        rewordElements_splice word below rest, rewordElements, splice_append]
theorem rewordBranches_spliceBranches (word : Wording) (below : List Element) :
    ∀ bs, rewordBranches word (spliceBranches below bs) =
      spliceBranches (rewordElements word below) (rewordBranches word bs)
  | [] => rfl
  | (_, body) :: rest => by
      rw [spliceBranches, rewordBranches, rewordElements_splice word below body,
        rewordBranches_spliceBranches word below rest, rewordBranches, spliceBranches]
end

mutual
theorem rewordElement_some : ∀ e, rewordElement some e = [e]
  | .text _ | .output _ | .super | .assign _ _ | .slot _ => rfl
  | .choice branches otherwise => by
      rw [rewordElement, rewordBranches_some branches, rewordElements_some otherwise]
  | .loop _ _ body => by rw [rewordElement, rewordElements_some body]
theorem rewordElements_some : ∀ es, rewordElements some es = es
  | [] => rfl
  | e :: rest => by
      rw [rewordElements, rewordElement_some e, rewordElements_some rest]
      rfl
theorem rewordBranches_some : ∀ bs, rewordBranches some bs = bs
  | [] => rfl
  | (_, body) :: rest => by rw [rewordBranches, rewordElements_some body, rewordBranches_some rest]
end

/-! ### Templates -/

theorem Resolved.block?_reword (r : Resolved) (name : String) :
    (r.reword word).block? name = (r.block? name).map (·.reword word) := by
  rw [Resolved.block?, Resolved.reword, List.find?_map]
  rfl

/-- The relation of rows of elements to the ones with other texts. -/
def Rewords (word : Wording) : RowRelation := fun es fs => fs = rewordElements word es

theorem splices_rewords : (Rewords word).Splices where
  nil := rfl
  calls := by
    rintro es _ rfl
    exact (callsSuper_rewordElements word es).symm
  splice := by
    rintro below _ es _ rfl rfl
    exact (rewordElements_splice word below es).symm

theorem related_reword (t : Template) : t.Related (Rewords word) (t.reword word) :=
  ⟨rfl, rfl, rfl, List.forall₂_map_right_iff.mpr (List.forall₂_same.mpr fun _ _ => ⟨rfl, rfl, rfl⟩)⟩

theorem ResolvedBlock.eq_of_rewords {b b' : ResolvedBlock} (h : b.Related (Rewords word) b') :
    b' = b.reword word := by
  obtain ⟨name, definedIn, body⟩ := b
  obtain ⟨name', definedIn', body'⟩ := b'
  obtain ⟨rfl, rfl, rfl⟩ := h
  rfl

theorem Resolved.eq_of_rewords {r r' : Resolved} (h : r.Related (Rewords word) r') : r' = r.reword word := by
  obtain ⟨chain, layout, blocks⟩ := r
  obtain ⟨chain', layout', blocks'⟩ := r'
  obtain ⟨rfl, rfl, hblocks⟩ := h
  have hall : blocks' = blocks.map (·.reword word) := by
    change List.Forall₂ _ blocks blocks' at hblocks
    induction hblocks with
    | nil => rfl
    | cons hb _ ih => rw [List.map_cons, ResolvedBlock.eq_of_rewords hb, ih]
  rw [hall]
  rfl

/-- Templates with other texts are composed to the composed template with these texts. -/
theorem compose_reword (word : Wording) (source : String → Option Template) (chain : Chain) :
    compose (fun n => (source n).map (·.reword word)) chain =
      (compose source chain).map (·.reword word) := by
  have hsource : ∀ n, Option.Rel (Related (Rewords word)) (source n) ((source n).map (·.reword word)) := by
    intro n
    cases source n with
    | none => exact .none
    | some t => exact .some (related_reword t)
  exact ((compose_related splices_rewords hsource chain).mono fun _ _ => Resolved.eq_of_rewords).map_eq

end ClassScribe.Template
