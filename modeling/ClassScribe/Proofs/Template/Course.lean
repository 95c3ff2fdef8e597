import Mathlib.Logic.Relation
import Mathlib.Data.List.Perm.Subperm
import Mathlib.Data.Nat.Init
import ClassScribe.Proofs.Expr.Faults
import ClassScribe.Proofs.Outcome
import ClassScribe.Template.Course

/-! # How far a rendering goes

A rendering fails just if it comes to a stage at which it cannot go on (`outcome_eq_error_iff`). In every
stage that it comes to, the blocks that are being rendered are different blocks of the template, so that
the slots of a rendering are never deeper inside each other than the template has blocks
(`render_ends`). It halts only at an expression that overflows (`halts_of_render`). -/

namespace ClassScribe.Template

/-- Whether a stage is another one, or comes after it. -/
abbrev Resolved.Leads (r : Resolved) (className : String) : Stage → Stage → Prop :=
  Relation.ReflTransGen (r.Step className)

section
variable {r : Resolved} {className : String} {s s' : Stage} {err : Error} {active : List String}
  {scope : Scope} {site : Site}

/-! ### Expressions -/

/-- The faults of an expression whose value is missing, or is not of the kind that is needed. -/
inductive Faults (e : Expr) (scope : Scope) : RenderFault → Prop
  | eval {cause : Expr.EvalError} : e.eval scope.lookup = .error (.error cause) →
      Faults e scope (.eval cause)
  | print {v : Value} : e.eval scope.lookup = .ok v → v.display? = none →
      Faults e scope (.print e.describe v.kind)
  | iterate {v : Value} : e.eval scope.lookup = .ok v → (∀ items, v ≠ .sequence items) →
      Faults e scope (.iterate e.describe v.kind)

/-- The error of a fault at a place. -/
def Site.error (site : Site) (fault : RenderFault) : Error :=
  .render site.className site.template site.block fault

/-- How rendering ends at an expression: by a fault, which has its place in the error, or by a halt. -/
inductive Site.EndsAt (site : Site) (e : Expr) (scope : Scope) : Error → Prop
  | fault {fault : RenderFault} : Faults e scope fault → EndsAt site e scope (site.error fault)
  | halt {halt : Halt} : e.eval scope.lookup = .error (.halt halt) → EndsAt site e scope (.halted halt)

theorem eval_of_site_eval {e : Expr} {v : Value} (h : site.eval scope e = .ok v) :
    e.eval scope.lookup = .ok v := by
  unfold Site.eval at h
  split at h
  · next u hu =>
      cases h
      exact hu
  · cases h
  · cases h

theorem endsAt_of_eval {e : Expr} (h : site.eval scope e = .error err) : site.EndsAt e scope err := by
  unfold Site.eval at h
  split at h
  · cases h
  · next cause hcause =>
      cases h
      exact .fault (.eval hcause)
  · next halt hhalt =>
      cases h
      exact .halt hhalt

theorem endsAt_of_print {e : Expr} (h : site.print scope e = .error err) : site.EndsAt e scope err := by
  rcases bind_eq_error.mp h with h | ⟨v, hv, h⟩
  · exact endsAt_of_eval h
  · split at h
    · cases h
    · next hnone =>
        cases h
        exact .fault (.print (eval_of_site_eval hv) hnone)

theorem endsAt_of_items {e : Expr} (h : site.items scope e = .error err) : site.EndsAt e scope err := by
  rcases bind_eq_error.mp h with h | ⟨v, hv, h⟩
  · exact endsAt_of_eval h
  · split at h
    · cases h
    · next hother =>
        cases h
        exact .fault (.iterate (eval_of_site_eval hv) hother)

/-! ### Choices and loops -/

theorem renderBranches_append {skipped : List (Expr × List Element)} (h : site.Rejects scope skipped)
    (more : List (Expr × List Element)) :
    renderBranches site scope (skipped ++ more) = renderBranches site scope more := by
  induction skipped with
  | nil => rfl
  | cons branch skipped ih =>
      obtain ⟨⟨v, hv, hfalse⟩, hskipped⟩ := List.forall_mem_cons.mp h
      show (site.eval scope branch.1 >>= _) = _
      rw [hv]
      show (if v.truthy = true then _ else _) = _
      rw [if_neg (by rw [hfalse]; exact Bool.false_ne_true)]
      exact ih hskipped

theorem renderBranches_of_rejects {branches : List (Expr × List Element)}
    (h : site.Rejects scope branches) : renderBranches site scope branches = .ok none := by
  have happend := renderBranches_append h []
  rwa [List.append_nil] at happend

theorem rejects_of_renderBranches {branches : List (Expr × List Element)}
    (h : renderBranches site scope branches = .ok none) : site.Rejects scope branches := by
  induction branches with
  | nil => exact List.forall_mem_nil _
  | cons branch branches ih =>
      obtain ⟨v, hv, h⟩ := bind_eq_ok.mp h
      by_cases htruthy : v.truthy = true
      · rw [if_pos htruthy] at h
        obtain ⟨result, -, h⟩ := bind_eq_ok.mp h
        cases h
      · rw [if_neg htruthy] at h
        exact List.forall_mem_cons.mpr ⟨⟨v, hv, by simpa using htruthy⟩, ih h⟩

theorem Site.Rejects.append_singleton {skipped : List (Expr × List Element)}
    (h : site.Rejects scope skipped) {condition : Expr} {v : Value}
    (hv : site.eval scope condition = .ok v) (hfalse : v.truthy = false) (body : List Element) :
    site.Rejects scope (skipped ++ [(condition, body)]) := by
  intro branch hbranch
  rcases List.mem_append.mp hbranch with hbranch | hbranch
  · exact h branch hbranch
  · rw [List.mem_singleton.mp hbranch]
    exact ⟨v, hv, hfalse⟩

theorem renderRounds_eq_error_iff {round : Nat → Value → Except Error String} {values : List Value}
    {start : Nat} :
    renderRounds round start values = .error err ↔
      ∃ k item, values[k]? = some item ∧ round (start + k) item = .error err ∧
        ∀ j earlier, j < k → values[j]? = some earlier → ∃ text, round (start + j) earlier = .ok text := by
  induction values generalizing start with
  | nil =>
      constructor
      · intro h
        cases h
      · rintro ⟨k, item, hk, -⟩
        cases hk
  | cons item rest ih =>
      have hsucc : ∀ k, start + 1 + k = start + (k + 1) := fun k => by omega
      rw [renderRounds, bind_eq_error]
      constructor
      · rintro (h | ⟨text, hfirst, h⟩)
        · exact ⟨0, item, rfl, h, fun j _ hj => absurd hj (Nat.not_lt_zero j)⟩
        · rcases bind_eq_error.mp h with h | ⟨_, -, h⟩
          · obtain ⟨k, late, hk, hfail, hbefore⟩ := ih.mp h
            rw [hsucc] at hfail
            refine ⟨k + 1, late, hk, hfail, fun j earlier hj hearlier => ?_⟩
            cases j with
            | zero =>
                cases hearlier
                exact ⟨text, hfirst⟩
            | succ j =>
                have := hbefore j earlier (Nat.lt_of_succ_lt_succ hj) hearlier
                rwa [hsucc] at this
          · cases h
      · rintro ⟨k, late, hk, hfail, hbefore⟩
        cases k with
        | zero =>
            cases hk
            exact .inl hfail
        | succ k =>
            obtain ⟨text, hfirst⟩ := hbefore 0 item (Nat.succ_pos k) rfl
            refine .inr ⟨text, hfirst, bind_eq_error.mpr (.inl (ih.mpr ⟨k, late, hk, ?_, ?_⟩))⟩
            · rwa [hsucc]
            · intro j earlier hj hearlier
              rw [hsucc]
              exact hbefore (j + 1) earlier (Nat.succ_lt_succ hj) hearlier

theorem renderRounds_eq_ok_iff {round : Nat → Value → Except Error String} {values : List Value}
    {start : Nat} {text : String} :
    renderRounds round start values = .ok text ↔
      ∃ texts, List.Forall₂ (fun item t => round item.2 item.1 = .ok t) (values.zipIdx start) texts ∧
        text = String.join texts := by
  induction values generalizing start text with
  | nil =>
      constructor
      · intro h
        cases h
        exact ⟨[], .nil, rfl⟩
      · rintro ⟨_, _ | _, rfl⟩
        rfl
  | cons item rest ih =>
      rw [renderRounds, List.zipIdx_cons, bind_eq_ok]
      constructor
      · rintro ⟨first, hfirst, h⟩
        obtain ⟨more, hmore, h⟩ := bind_eq_ok.mp h
        cases h
        obtain ⟨texts, htexts, rfl⟩ := ih.mp hmore
        exact ⟨first :: texts, .cons hfirst htexts, String.join_cons.symm⟩
      · rintro ⟨_, _ | ⟨hfirst, htexts⟩, rfl⟩
        rw [String.join_cons]
        exact ⟨_, hfirst, bind_eq_ok.mpr ⟨_, ih.mpr ⟨_, htexts, rfl⟩, rfl⟩⟩

/-! ### What comes of a step -/

theorem renderElements_singleton (site : Site) (scope : Scope) (e : Element) :
    renderElements site scope [e] = renderElement site scope e := by
  rw [renderElements]
  cases renderElement site scope e with
  | error err => rfl
  | ok result =>
      show Except.ok (result.1 ++ "", result.2) = _
      rw [String.append_empty]

theorem renderElements_of_head {e : Element} (h : renderElement site scope e = .error err)
    (rest : List Element) : renderElements site scope (e :: rest) = .error err :=
  bind_eq_error.mpr (.inl h)

theorem renderSlot_of_mem {name : String} (hn : name ∈ active) (scope : Scope) :
    renderSlot r className active scope name = .error (.resolution r.name (some name) .recursiveBlock) := by
  rw [renderSlot, dif_pos (by simpa using hn)]

theorem renderSlot_of_block {name : String} {b : ResolvedBlock} (hn : name ∉ active)
    (hb : r.block? name = some b) (scope : Scope) :
    renderSlot r className active scope name =
      (renderElements (r.site className (name :: active)) (scope.enter []) b.body).map (·.1) := by
  rw [renderSlot, dif_neg (by simpa using hn)]
  split
  · next hnone =>
      rw [hb] at hnone
      cases hnone
  · next c hc =>
      obtain rfl : b = c := Option.some.inj (hb.symm.trans hc)
      rfl

theorem renderSlot_of_no_block {name : String} (hn : name ∉ active) (hb : r.block? name = none)
    (scope : Scope) : renderSlot r className active scope name = .ok "" := by
  rw [renderSlot, dif_neg (by simpa using hn)]
  split
  · rfl
  · next b hb' =>
      rw [hb] at hb'
      cases hb'

theorem Resolved.Step.fails (h : r.Step className s s') (hfail : s'.outcome r className = .error err) :
    s.outcome r className = .error err := by
  unfold Stage.outcome at hfail ⊢
  cases h with
  | next he => exact bind_eq_error.mpr (.inr ⟨_, he, bind_eq_error.mpr (.inl hfail)⟩)
  | @branch active scope skipped more condition body otherwise rest v hskipped hv htruthy =>
      refine renderElements_of_head (bind_eq_error.mpr (.inl ?_)) _
      rw [renderBranches_append hskipped]
      refine bind_eq_error.mpr (.inr ⟨v, hv, ?_⟩)
      rw [if_pos htruthy]
      exact bind_eq_error.mpr (.inl hfail)
  | otherwise hbranches =>
      exact renderElements_of_head
        (bind_eq_error.mpr (.inr ⟨none, renderBranches_of_rejects hbranches, hfail⟩)) _
  | @round active scope target items body rest values k item hvalues hk hbefore =>
      refine renderElements_of_head (bind_eq_error.mpr (.inr ⟨values, hvalues, ?_⟩)) _
      refine bind_eq_error.mpr (.inl (renderRounds_eq_error_iff.mpr ⟨k, item, hk, ?_, ?_⟩))
      · rw [Nat.zero_add]
        exact bind_eq_error.mpr (.inl hfail)
      · intro j earlier hj hearlier
        obtain ⟨result, hresult⟩ := hbefore j earlier hj hearlier
        rw [Nat.zero_add]
        exact ⟨result.1, bind_eq_ok.mpr ⟨result, hresult, rfl⟩⟩
  | block hn hb =>
      refine renderElements_of_head (bind_eq_error.mpr (.inl ?_)) _
      show renderSlot r className _ _ _ = _
      rw [renderSlot_of_block hn hb, hfail]
      rfl

theorem Resolved.Leads.fails (h : r.Leads className s s')
    (hfail : s'.outcome r className = .error err) : s.outcome r className = .error err := by
  induction h with
  | refl => exact hfail
  | tail _ hstep ih => exact ih (hstep.fails hfail)

theorem Resolved.Stops.fails (h : r.Stops className s err) : s.outcome r className = .error err := by
  unfold Stage.outcome
  cases h with
  | output hprint => exact renderElements_of_head (bind_eq_error.mpr (.inl hprint)) _
  | super => exact renderElements_of_head rfl _
  | condition hskipped heval =>
      refine renderElements_of_head (bind_eq_error.mpr (.inl ?_)) _
      rw [renderBranches_append hskipped]
      exact bind_eq_error.mpr (.inl heval)
  | items hitems => exact renderElements_of_head (bind_eq_error.mpr (.inl hitems)) _
  | assign heval => exact renderElements_of_head (bind_eq_error.mpr (.inl heval)) _
  | @slot active scope name rest hmem =>
      refine renderElements_of_head (bind_eq_error.mpr (.inl ?_)) _
      exact renderSlot_of_mem hmem scope

/-- Where rendering stops, it ends at an expression that is asked for, or at a slot or a `super()`. -/
theorem Resolved.Stops.cases (h : r.Stops className s err) :
    (∃ e, s.Asks e ∧ (r.site className s.active).EndsAt e s.scope err) ∨
    (∃ rest, s.elements = .super :: rest ∧ err = .resolution r.name s.active.head? .unexpandedSuper) ∨
    ∃ name rest, s.elements = .slot name :: rest ∧ name ∈ s.active ∧
      err = .resolution r.name (some name) .recursiveBlock := by
  cases h with
  | output hprint => exact .inl ⟨_, .output, endsAt_of_print hprint⟩
  | super => exact .inr (.inl ⟨_, rfl, rfl⟩)
  | @condition _ _ skipped more condition body _ _ _ _ heval =>
      have hbranch : (condition, body) ∈ skipped ++ (condition, body) :: more := by simp
      exact .inl ⟨_, .condition hbranch, endsAt_of_eval heval⟩
  | items hitems => exact .inl ⟨_, .items, endsAt_of_items hitems⟩
  | assign heval => exact .inl ⟨_, .assign, endsAt_of_eval heval⟩
  | slot hmem => exact .inr (.inr ⟨_, _, rfl, hmem, rfl⟩)

theorem Resolved.Stops.slot_of_recursive {name : String}
    (h : r.Stops className s (.resolution r.name (some name) .recursiveBlock)) :
    ∃ rest, s.elements = .slot name :: rest ∧ name ∈ s.active := by
  rcases h.cases with ⟨_, -, hends⟩ | ⟨_, -, herr⟩ | ⟨_, rest, helements, hmem, herr⟩
  · cases hends
  · injection herr with _ _ hfault
    cases hfault
  · cases herr
    exact ⟨rest, helements, hmem⟩

/-- Where rendering halts, an expression is asked for that overflows. -/
theorem Resolved.Stops.overflows {halt : Halt} (h : r.Stops className s (.halted halt)) : s.Overflows halt := by
  rcases h.cases with ⟨e, hasks, hends⟩ | ⟨_, -, herr⟩ | ⟨_, _, -, -, herr⟩
  · cases hends with
    | halt heval => exact ⟨e, hasks, Expr.exists_overflows_of_eval heval⟩
  · cases herr
  · cases herr

/-! ### Where a failure comes from -/

/-- Whether a stage leads to one at which rendering cannot go on. -/
def Resolved.Strands (r : Resolved) (className : String) (s : Stage) (err : Error) : Prop :=
  ∃ s', r.Leads className s s' ∧ r.Stops className s' err

theorem Resolved.Step.strands (h : r.Step className s s') (h' : r.Strands className s' err) :
    r.Strands className s err := by
  obtain ⟨s'', hleads, hstops⟩ := h'
  exact ⟨s'', hleads.head h, hstops⟩

theorem Resolved.Stops.strands (h : r.Stops className s err) : r.Strands className s err :=
  ⟨s, .refl, h⟩

/-- Whether the slots of blocks fail by leading to a stage at which rendering cannot go on. -/
def Resolved.SlotsStrand (r : Resolved) (className : String) (active : List String) : Prop :=
  ∀ {scope : Scope} {name : String} {err : Error} (rest : List Element),
    renderSlot r className active scope name = .error err →
    r.Strands className ⟨active, scope, .slot name :: rest⟩ err

/-! Inside a block the induction is on the elements. For branches, `skipped` are the ones before. -/

mutual
theorem strands_of_renderElement (hslots : r.SlotsStrand className active) :
    ∀ (e : Element) (rest : List Element) {scope : Scope},
    renderElement (r.site className active) scope e = .error err →
    r.Strands className ⟨active, scope, e :: rest⟩ err
  | .text _, _, _, h => by cases h
  | .output e, rest, scope, h => by
      rcases bind_eq_error.mp h with h | ⟨_, -, h⟩
      · exact (Resolved.Stops.output h).strands
      · cases h
  | .super, rest, scope, h => by
      cases h
      exact Resolved.Stops.super.strands
  | .choice branches otherwise, rest, scope, h => by
      rcases bind_eq_error.mp h with h | ⟨found, hfound, h⟩
      · exact strands_of_renderBranches hslots branches [] otherwise rest (List.forall_mem_nil _) h
      · cases found with
        | some result => cases h
        | none =>
            exact (Resolved.Step.otherwise (rejects_of_renderBranches hfound)).strands
              (strands_of_renderElements hslots otherwise h)
  | .loop target items body, rest, scope, h => by
      rcases bind_eq_error.mp h with h | ⟨values, hvalues, h⟩
      · exact (Resolved.Stops.items h).strands
      · rcases bind_eq_error.mp h with h | ⟨_, -, h⟩
        · obtain ⟨k, item, hk, hround, hbefore⟩ := renderRounds_eq_error_iff.mp h
          rw [Nat.zero_add] at hround
          have hcompletes : (r.site className active).Completes scope target values body k := by
            intro j earlier hj hearlier
            obtain ⟨text, hround⟩ := hbefore j earlier hj hearlier
            rw [Nat.zero_add] at hround
            obtain ⟨result, hresult, -⟩ := bind_eq_ok.mp hround
            exact ⟨result, hresult⟩
          rcases bind_eq_error.mp hround with hround | ⟨_, -, hround⟩
          · exact (Resolved.Step.round hvalues hk hcompletes).strands
              (strands_of_renderElements hslots body hround)
          · cases hround
        · cases h
  | .assign name value, rest, scope, h => by
      rcases bind_eq_error.mp h with h | ⟨_, -, h⟩
      · exact (Resolved.Stops.assign h).strands
      · cases h
  | .slot name, rest, scope, h => by
      rcases bind_eq_error.mp h with h | ⟨_, -, h⟩
      · exact hslots rest h
      · cases h
theorem strands_of_renderElements (hslots : r.SlotsStrand className active) :
    ∀ (es : List Element) {scope : Scope},
    renderElements (r.site className active) scope es = .error err →
    r.Strands className ⟨active, scope, es⟩ err
  | [], _, h => by cases h
  | e :: rest, scope, h => by
      rcases bind_eq_error.mp h with h | ⟨result, he, h⟩
      · exact strands_of_renderElement hslots e rest h
      · rcases bind_eq_error.mp h with h | ⟨_, -, h⟩
        · exact (Resolved.Step.next he).strands (strands_of_renderElements hslots rest h)
        · cases h
theorem strands_of_renderBranches (hslots : r.SlotsStrand className active) :
    ∀ (branches skipped : List (Expr × List Element)) (otherwise rest : List Element) {scope : Scope},
    (r.site className active).Rejects scope skipped →
    renderBranches (r.site className active) scope branches = .error err →
    r.Strands className ⟨active, scope, .choice (skipped ++ branches) otherwise :: rest⟩ err
  | [], _, _, _, _, _, h => by cases h
  | (condition, body) :: more, skipped, otherwise, rest, scope, hskipped, h => by
      rcases bind_eq_error.mp h with h | ⟨v, hv, h⟩
      · exact (Resolved.Stops.condition hskipped h).strands
      · by_cases htruthy : v.truthy = true
        · rw [if_pos htruthy] at h
          rcases bind_eq_error.mp h with h | ⟨_, -, h⟩
          · exact (Resolved.Step.branch hskipped hv htruthy).strands
              (strands_of_renderElements hslots body h)
          · cases h
        · rw [if_neg htruthy] at h
          have hmore := strands_of_renderBranches hslots more (skipped ++ [(condition, body)])
            otherwise rest (hskipped.append_singleton hv (by simpa using htruthy) body) h
          rwa [List.append_assoc] at hmore
end

/-- Slots lead to where they fail. The induction is on the number of blocks that can be entered. -/
theorem slotsStrand (r : Resolved) (className : String) (active : List String) :
    r.SlotsStrand className active := by
  induction hn : (idle r active).length using Nat.strong_induction_on generalizing active with
  | _ n ih =>
      intro scope name err rest h
      by_cases hmem : name ∈ active
      · rw [renderSlot_of_mem hmem] at h
        cases h
        exact (Resolved.Stops.slot hmem).strands
      · cases hb : r.block? name with
        | none =>
            rw [renderSlot_of_no_block hmem hb] at h
            cases h
        | some b =>
            rw [renderSlot_of_block hmem hb, map_eq_error] at h
            have hlt := idle_cons_lt hb (by simpa using hmem)
            exact (Resolved.Step.block hmem hb).strands
              (strands_of_renderElements (ih _ (by rwa [← hn]) _ rfl) b.body h)

/-- A stage fails just if it leads to one at which rendering cannot go on, and with the error there. -/
theorem outcome_eq_error_iff :
    s.outcome r className = .error err ↔
      ∃ s', r.Leads className s s' ∧ r.Stops className s' err := by
  constructor
  · exact strands_of_renderElements (slotsStrand r className s.active) s.elements
  · rintro ⟨s', hleads, hstops⟩
    exact hleads.fails hstops.fails

theorem render_eq_error_iff {context : Frame} :
    render r className context = .error err ↔
      ∃ s, r.Leads className (r.start context) s ∧ r.Stops className s err := by
  rw [← outcome_eq_error_iff]
  constructor
  · intro h
    rcases bind_eq_error.mp h with h | ⟨_, -, h⟩
    · exact h
    · cases h
  · intro h
    exact bind_eq_error.mpr (.inl h)

/-! ### The blocks that are being rendered -/

/-- Whether the blocks that are being rendered are different blocks of a template. -/
structure Stage.Proper (s : Stage) (r : Resolved) : Prop where
  nodup : s.active.Nodup
  known : ∀ name ∈ s.active, ∃ b ∈ r.blocks, b.name = name

theorem Stage.Proper.start (r : Resolved) (context : Frame) : (r.start context).Proper r :=
  ⟨List.nodup_nil, List.forall_mem_nil _⟩

/-- Only the step into a block changes the blocks that are being rendered. -/
theorem Stage.Proper.step (hs : s.Proper r) (h : r.Step className s s') : s'.Proper r := by
  cases h with
  | next _ => exact ⟨hs.nodup, hs.known⟩
  | branch _ _ _ => exact ⟨hs.nodup, hs.known⟩
  | otherwise _ => exact ⟨hs.nodup, hs.known⟩
  | round _ _ _ => exact ⟨hs.nodup, hs.known⟩
  | @block active scope name b rest hn hb =>
      have hname : b.name = name := by simpa using List.find?_some hb
      exact ⟨List.nodup_cons.mpr ⟨hn, hs.nodup⟩,
        List.forall_mem_cons.mpr ⟨⟨b, List.mem_of_find?_eq_some hb, hname⟩, hs.known⟩⟩

theorem Stage.Proper.leads (hs : s.Proper r) (h : r.Leads className s s') : s'.Proper r := by
  induction h with
  | refl => exact hs
  | tail _ hstep ih => exact ih.step hstep

theorem Stage.Proper.length_le (hs : s.Proper r) : s.active.length ≤ r.blocks.length := by
  have hsub : s.active ⊆ r.blocks.map (·.name) := by
    intro name hname
    obtain ⟨b, hb, rfl⟩ := hs.known name hname
    exact List.mem_map_of_mem hb
  have hle := (hs.nodup.subperm hsub).length_le
  rwa [List.length_map] at hle

/-- With a greater depth than there are blocks left to enter, nothing stands deeper. -/
theorem renderSlotWithin_eq (deeper : Except Error String) :
    ∀ (depth : Nat) (active : List String), (idle r active).length < depth →
      renderSlotWithin r className deeper depth active = renderSlot r className active
  | 0, _, h => absurd h (Nat.not_lt_zero _)
  | depth + 1, active, h => by
      funext scope name
      rw [renderSlotWithin]
      by_cases hmem : name ∈ active
      · rw [if_pos (by simpa using hmem), renderSlot_of_mem hmem]
      · rw [if_neg (by simpa using hmem)]
        cases hb : r.block? name with
        | none => rw [renderSlot_of_no_block hmem hb]
        | some b =>
            have hlt := idle_cons_lt hb (by simpa using hmem)
            have hdeeper := renderSlotWithin_eq deeper depth (name :: active) (by omega)
            rw [renderSlot_of_block hmem hb, hdeeper]
            rfl

theorem renderWithin_eq (deeper : Except Error String) {depth : Nat} (h : r.blocks.length < depth)
    (context : Frame) : renderWithin r className deeper depth context = render r className context := by
  have hidle : (idle r []).length ≤ r.blocks.length := List.length_filter_le _ _
  unfold renderWithin render
  rw [renderSlotWithin_eq deeper depth [] (by omega)]

end

/-- Whether a rendering comes to an expression that overflows. -/
def Resolved.Halts (r : Resolved) (className : String) (context : Frame) (halt : Halt) : Prop :=
  ∃ s, r.Leads className (r.start context) s ∧ s.Overflows halt

theorem halts_of_render {r : Resolved} {className : String} {context : Frame} {halt : Halt}
    (h : render r className context = .error (.halted halt)) : r.Halts className context halt := by
  obtain ⟨s, hleads, hstops⟩ := render_eq_error_iff.mp h
  exact ⟨s, hleads, hstops.overflows⟩

/-- Rendering ends. In every stage that it comes to, the blocks that are being rendered are different
blocks of the template, so that they are never more than the template has. A depth of slots that is
greater than this number is therefore never used up, whatever stood there. There is a text or an error,
unless the program halts because the rendering has come to an expression that overflows; and the error
that a block is rendered inside itself comes just from a slot of that block inside it. -/
theorem render_ends (r : Resolved) (className : String) (context : Frame) :
    (∀ s, r.Leads className (r.start context) s →
      s.active.Nodup ∧ (∀ name ∈ s.active, ∃ b ∈ r.blocks, b.name = name) ∧
        s.active.length ≤ r.blocks.length) ∧
    (∀ deeper depth, r.blocks.length < depth →
      renderWithin r className deeper depth context = render r className context) ∧
    ((∃ text, render r className context = .ok text) ∨
      (∃ err, (∀ halt, err ≠ .halted halt) ∧ render r className context = .error err) ∨
      ∃ halt, r.Halts className context halt ∧ render r className context = .error (.halted halt)) ∧
    ∀ name, render r className context = .error (.resolution r.name (some name) .recursiveBlock) ↔
      ∃ s rest, r.Leads className (r.start context) s ∧ s.elements = .slot name :: rest ∧
        name ∈ s.active := by
  refine ⟨fun s h => ?_, fun deeper depth h => renderWithin_eq deeper h context, ?_, fun name => ?_⟩
  · have hs := (Stage.Proper.start r context).leads h
    exact ⟨hs.nodup, hs.known, hs.length_le⟩
  · cases h : render r className context with
    | ok text => exact .inl ⟨text, rfl⟩
    | error err =>
        cases err with
        | halted halt => exact .inr (.inr ⟨halt, halts_of_render h, rfl⟩)
        | _ =>
            refine .inr (.inl ⟨_, ?_, rfl⟩)
            nofun
  · rw [render_eq_error_iff]
    constructor
    · rintro ⟨s, hleads, hstops⟩
      obtain ⟨rest, helements, hmem⟩ := hstops.slot_of_recursive
      exact ⟨s, rest, hleads, helements, hmem⟩
    · rintro ⟨s, rest, hleads, helements, hmem⟩
      obtain ⟨active, scope, elements⟩ := s
      cases helements
      exact ⟨_, hleads, .slot hmem⟩

/-- Two blocks that stand in each other. -/
def entwined : Resolved :=
  ⟨⟨"page", []⟩, [.slot "a"], [⟨"a", "page", [.slot "b"]⟩, ⟨"b", "page", [.slot "a"]⟩]⟩

theorem leads_entwined : entwined.Leads "Page" (entwined.start [])
    ⟨["b", "a"], ⟨[], [[], [], []]⟩, [.slot "a"]⟩ := by
  have houter : entwined.Step "Page" (entwined.start []) ⟨["a"], ⟨[], [[], []]⟩, [.slot "b"]⟩ :=
    .block (b := ⟨"a", "page", [.slot "b"]⟩) List.not_mem_nil rfl
  have hinner : entwined.Step "Page" ⟨["a"], ⟨[], [[], []]⟩, [.slot "b"]⟩
      ⟨["b", "a"], ⟨[], [[], [], []]⟩, [.slot "a"]⟩ :=
    .block (b := ⟨"b", "page", [.slot "a"]⟩) (by decide) rfl
  exact (Relation.ReflTransGen.single houter).tail hinner

/-- The first block is rendered, the second one in it, and there rendering stops. -/
theorem render_ends_entwined :
    (["b", "a"].Nodup ∧ (∀ name ∈ ["b", "a"], ∃ b ∈ entwined.blocks, b.name = name) ∧
      2 ≤ entwined.blocks.length) ∧
    (entwined.blocks.length < 3 ∧
      renderWithin entwined "Page" (.ok "") 3 [] = render entwined "Page" []) ∧
    render entwined "Page" [] = .error (.resolution "page" (some "a") .recursiveBlock) := by
  obtain ⟨hstages, hdepth, -, hrecursive⟩ := render_ends entwined "Page" []
  exact ⟨hstages _ leads_entwined, ⟨by decide, hdepth (.ok "") 3 (by decide)⟩,
    (hrecursive "a").mpr ⟨_, [], leads_entwined, rfl, by decide⟩⟩

/-- A text is padded by a number of spaces that the context gives. -/
def padded : Resolved :=
  ⟨⟨"t", []⟩, [.output (.filter (.literal (.text "a")) "indent" [.var "w"])], []⟩

/-- Padding by one space more than a signed word counts gives neither a text nor an error. -/
theorem render_halts_padded :
    render padded "Test" [("w", .int 0x8000000000000000)] = .error (.halted .capacity) := by
  rfl

end ClassScribe.Template
