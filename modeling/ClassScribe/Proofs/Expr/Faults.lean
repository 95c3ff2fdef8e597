import Mathlib.Tactic.Common
import ClassScribe.Expr.Stopping
import ClassScribe.Proofs.Outcome

/-! # How evaluation can fail

Where the evaluation of an expression stops, it stops at a part of the expression whose operands have values
(`Expr.exists_stops_of_eval`). So it fails for want of a filter only if the expression names one that is not known
(`Expr.knowsFilters_of_eval`), and it halts only at a part that overflows (`Expr.exists_overflows_of_eval`). -/

namespace ClassScribe

namespace Filter

variable {filter : Filter} {input : Value} {args : List Value} {name : String} {stop : Stop Error}

/-- A filter that is applied has no result by its input or by an argument, or for want of memory. -/
inductive Stops (filter : Filter) (input : Value) (args : List Value) : Stop Error → Prop
  | input {expected : Expected} : Stops filter input args (.error (.invalidInput filter expected input.kind))
  | argument {fault : Fault} : Stops filter input args (.error (.invalidArgument filter fault))
  | memory {text : String} {n : Number} {width : Nat} {more : List Value} :
      filter = .indent → input = .text text → args = .number n :: more → n.unsigned? = some width →
      capacity ≤ width → Stops filter input args (.halt .capacity)

theorem stops_of_onText {f : List Char → List Char} (h : onText filter f input = .error stop) :
    Stops filter input args stop := by
  cases input with
  | text s => cases h
  | _ =>
      cases h
      exact .input

theorem stops_of_lengthOf (h : lengthOf input = .error stop) : Stops .length input args stop := by
  unfold lengthOf at h
  split at h <;> cases h
  exact .input

theorem stops_of_formatText (h : formatText input args = .error stop) : Stops .format input args stop := by
  unfold formatText at h
  split at h
  · split at h <;> cases h
    exact .argument
  · cases h
    exact .input

theorem stops_of_joinItems (h : joinItems input args = .error stop) : Stops .join input args stop := by
  unfold joinItems at h
  split at h
  · split at h <;> cases h
    exact .argument
  · cases h
    exact .input

theorem stops_of_padding {text : String} (h : padding args.head? = .error stop) :
    Stops .indent (.text text) args stop := by
  unfold padding at h
  split at h
  · cases h
  · next n hn =>
      obtain ⟨more, rfl⟩ : ∃ more, args = .number n :: more := by
        cases args with
        | nil => cases hn
        | cons _ more =>
            cases hn
            exact ⟨more, rfl⟩
      split at h
      · next width hwidth =>
          unfold spaces at h
          split at h
          · cases h
          · next hlarge =>
              cases h
              exact .memory rfl rfl rfl hwidth (Nat.le_of_not_lt hlarge)
      · cases h
        exact .argument
  · cases h
  · cases h
    exact .argument

theorem stops_of_indentText (h : indentText input args = .error stop) : Stops .indent input args stop := by
  unfold indentText at h
  split at h
  · rcases bind_eq_error.mp h with h | ⟨pad, -, h⟩
    · exact stops_of_padding h
    · rcases bind_eq_error.mp h with h | ⟨first, -, h⟩
      · unfold padsFirst at h
        split at h <;> cases h
        exact .argument
      · cases h
  · cases h
    exact .input

theorem stops_of_apply (h : filter.apply input args = .error stop) : Stops filter input args stop := by
  cases filter with
  | length => exact stops_of_lengthOf h
  | format => exact stops_of_formatText h
  | indent => exact stops_of_indentText h
  | join => exact stops_of_joinItems h
  | default => cases input <;> cases h
  | _ => exact stops_of_onText h

theorem name_of_ofName? (h : ofName? name = some filter) : filter.name = name := by
  simpa using List.find?_some h

theorem applyName_ne_unknown (h : isKnown name = true) (unknown : String) :
    applyName name input args ≠ .error (.error (.unknown unknown)) := by
  obtain ⟨filter, hfilter⟩ := Option.isSome_iff_exists.mp h
  unfold applyName
  rw [hfilter]
  intro h
  cases stops_of_apply h

/-- A filter halts just as `indent` does, by a number of spaces that no memory holds. -/
theorem halt_of_applyName {halt : Halt} (h : applyName name input args = .error (.halt halt)) :
    name = "indent" ∧ halt = .capacity ∧ ∃ text n width more, input = .text text ∧
      args = .number n :: more ∧ n.unsigned? = some width ∧ capacity ≤ width := by
  unfold applyName at h
  split at h
  · next filter hfilter =>
      cases stops_of_apply h with
      | memory hindent hinput hargs hwidth hle =>
          subst hindent
          exact ⟨(name_of_ofName? hfilter).symm, rfl, _, _, _, _, hinput, hargs, hwidth, hle⟩
  · cases h

end Filter

namespace Expr

variable {scope : Lookup} {e : Expr} {stop : Stop EvalError} {cause : EvalError}

/-! ### Parts that stop -/

theorem bind_operand_eq_error {α : Type} {k : Value → Except (Stop EvalError) α} :
    (find scope e >>= fun v => require e v >>= k) = .error stop ↔
      e.eval scope = .error stop ∨ ∃ v, e.eval scope = .ok v ∧ k v = .error stop := by
  rw [← bind_assoc, bind_eq_error]
  rfl

theorem exists_stops_of_subset {ps qs : List Expr} (hsub : ps ⊆ qs) (h : ∃ p ∈ ps, p.Stops scope stop) :
    ∃ p ∈ qs, p.Stops scope stop :=
  h.imp fun _ => And.imp_left (hsub ·)

/-- An expression without a value stops in a part of it, or misses its target itself. -/
theorem exists_stops_of_operand (h : e.eval scope = .error stop)
    (hfind : find scope e = .error stop → ∃ p ∈ e.parts, p.Stops scope stop) :
    ∃ p ∈ e.parts, p.Stops scope stop := by
  rcases bind_eq_error.mp h with h | ⟨v, hv, h⟩
  · exact hfind h
  · cases v with
    | some v => cases h
    | none =>
        cases h
        exact ⟨e, self_mem_parts e, .missing hv⟩

mutual
theorem exists_stops_of_find : ∀ (e : Expr), find scope e = .error stop → ∃ p ∈ e.parts, p.Stops scope stop
  | .literal _, h => by cases h
  | .list items, h => by
      rcases bind_eq_error.mp h with h | ⟨_, -, h⟩
      · exact exists_stops_of_subset (List.subset_cons_self _ _) (exists_stops_of_evalItems items h)
      · cases h
  | .var _, h => by cases h
  | .attr base _, h => by
      rcases bind_eq_error.mp h with h | ⟨v, -, h⟩
      · exact exists_stops_of_subset (List.subset_cons_self _ _) (exists_stops_of_find base h)
      · split at h <;> cases h
  | .index base key, h => by
      have hbase : base.parts ⊆ (index base key).parts :=
        List.subset_cons_of_subset _ (List.subset_append_left _ _)
      have hkey : key.parts ⊆ (index base key).parts :=
        List.subset_cons_of_subset _ (List.subset_append_right _ _)
      rcases bind_eq_error.mp h with h | ⟨v, -, h⟩
      · exact exists_stops_of_subset hbase (exists_stops_of_find base h)
      · cases v with
        | none => cases h
        | some container =>
            rcases bind_operand_eq_error.mp h with h | ⟨_, -, h⟩
            · exact exists_stops_of_subset hkey (exists_stops_of_operand h (exists_stops_of_find key))
            · cases h
  | .filter input name args, h => by
      have hinput : input.parts ⊆ (filter input name args).parts :=
        List.subset_cons_of_subset _ (List.subset_append_left _ _)
      have hargs : partsOf args ⊆ (filter input name args).parts :=
        List.subset_cons_of_subset _ (List.subset_append_right _ _)
      have happly : ∀ v, (name ≠ "default" → input.eval scope = .ok v) → (do
          let vs ← evalItems scope args
          match Filter.applyName name v vs with
          | .ok v => return some v
          | .error cause => throw (cause.map (.filter input.describe))) = Except.error stop →
          ∃ p ∈ (filter input name args).parts, p.Stops scope stop := by
        intro v hv h
        rcases bind_eq_error.mp h with h | ⟨vs, hvs, h⟩
        · exact exists_stops_of_subset hargs (exists_stops_of_evalItems args h)
        · split at h
          · cases h
          · next cause hcause =>
              cases h
              exact ⟨_, self_mem_parts _, .filter hv hvs hcause⟩
      rcases bind_eq_error.mp h with h | ⟨found, hfound, h⟩
      · exact exists_stops_of_subset hinput (exists_stops_of_find input h)
      · dsimp only at h
        split at h
        · next hdefault => exact happly _ (absurd hdefault) h
        · rcases bind_eq_error.mp h with h | ⟨v, hv, h⟩
          · exact exists_stops_of_subset hinput (exists_stops_of_operand
              (bind_eq_error.mpr (.inr ⟨found, hfound, h⟩)) (exists_stops_of_find input))
          · exact happly v (fun _ => bind_eq_ok.mpr ⟨found, hfound, hv⟩) h
  | .test input _ _, h => by
      rcases bind_eq_error.mp h with h | ⟨_, -, h⟩
      · exact exists_stops_of_subset (List.subset_cons_self _ _) (exists_stops_of_find input h)
      · cases h
  | .not operand, h => by
      rcases bind_operand_eq_error.mp h with h | ⟨_, -, h⟩
      · exact exists_stops_of_subset (List.subset_cons_self _ _)
          (exists_stops_of_operand h (exists_stops_of_find operand))
      · cases h
  | .neg operand, h => by
      rcases bind_operand_eq_error.mp h with h | ⟨v, hv, h⟩
      · exact exists_stops_of_subset (List.subset_cons_self _ _)
          (exists_stops_of_operand h (exists_stops_of_find operand))
      · split at h
        · next n =>
            split at h
            · cases h
            · next halt hhalt =>
                cases h
                exact ⟨_, self_mem_parts _, .negative hv hhalt⟩
        · cases h
          exact ⟨_, self_mem_parts _, .negation hv⟩
  | .binary op left right, h => by
      have hleft : left.parts ⊆ (binary op left right).parts :=
        List.subset_cons_of_subset _ (List.subset_append_left _ _)
      have hright : right.parts ⊆ (binary op left right).parts :=
        List.subset_cons_of_subset _ (List.subset_append_right _ _)
      rcases bind_operand_eq_error.mp h with h | ⟨l, hl, h⟩
      · exact exists_stops_of_subset hleft (exists_stops_of_operand h (exists_stops_of_find left))
      split at h
      · cases h
      · cases h
      · rcases bind_operand_eq_error.mp h with h | ⟨r, hr, h⟩
        · exact exists_stops_of_subset hright (exists_stops_of_operand h (exists_stops_of_find right))
        split at h
        · cases h
        · next fault hfault =>
            cases h
            exact ⟨_, self_mem_parts _, .operator hl hr hfault⟩
  | .conditional yes condition no, h => by
      have hsub : ∀ ps, ps ⊆ yes.parts ++ condition.parts ++ no.parts → ps ⊆ (conditional yes condition no).parts :=
        fun _ => List.subset_cons_of_subset _
      rcases bind_operand_eq_error.mp h with h | ⟨v, -, h⟩
      · exact exists_stops_of_subset (hsub _ (List.subset_append_of_subset_left _ (List.subset_append_right _ _)))
          (exists_stops_of_operand h (exists_stops_of_find condition))
      split at h
      · rcases bind_operand_eq_error.mp h with h | ⟨_, -, h⟩
        · exact exists_stops_of_subset (hsub _ (List.subset_append_of_subset_left _ (List.subset_append_left _ _)))
            (exists_stops_of_operand h (exists_stops_of_find yes))
        · cases h
      · rcases bind_operand_eq_error.mp h with h | ⟨_, -, h⟩
        · exact exists_stops_of_subset (hsub _ (List.subset_append_right _ _))
            (exists_stops_of_operand h (exists_stops_of_find no))
        · cases h
theorem exists_stops_of_evalItems : ∀ (es : List Expr), evalItems scope es = .error stop →
    ∃ p ∈ partsOf es, p.Stops scope stop
  | [], h => by cases h
  | e :: rest, h => by
      rcases bind_operand_eq_error.mp h with h | ⟨v, -, h⟩
      · exact exists_stops_of_subset (List.subset_append_left _ _)
          (exists_stops_of_operand h (exists_stops_of_find e))
      · rcases bind_eq_error.mp h with h | ⟨_, -, h⟩
        · exact exists_stops_of_subset (List.subset_append_right _ _) (exists_stops_of_evalItems rest h)
        · cases h
end

/-- Where the evaluation of an expression stops, a part of it has no value although its operands have theirs. -/
theorem exists_stops_of_eval (h : e.eval scope = .error stop) : ∃ p ∈ e.parts, p.Stops scope stop :=
  exists_stops_of_operand h (exists_stops_of_find e)

/-! ### Filters that are not known -/

/-- Whether an error says nothing of a filter that is not known. -/
def EvalError.KnowsFilters (cause : EvalError) : Prop :=
  ∀ subject name, cause ≠ .filter subject (.unknown name)

mutual
theorem mem_filterNames_of_part {input : Expr} {name : String} {args : List Expr} :
    ∀ (e : Expr), filter input name args ∈ e.parts → name ∈ e.filterNames
  | .literal _, h | .var _, h => by simp [parts] at h
  | .list items, h => by
      simp only [parts, List.mem_cons, reduceCtorEq, false_or] at h
      exact mem_filterNamesOf_of_part items h
  | .attr base _, h | .test base _ _, h | .not base, h | .neg base, h => by
      simp only [parts, List.mem_cons, reduceCtorEq, false_or] at h
      exact mem_filterNames_of_part base h
  | .index left right, h | .binary _ left right, h => by
      simp only [parts, List.mem_cons, reduceCtorEq, false_or, List.mem_append] at h
      exact List.mem_append.mpr (h.imp (mem_filterNames_of_part left) (mem_filterNames_of_part right))
  | .filter inner _ args, h => by
      rcases List.mem_cons.mp h with h | h
      · cases h
        exact List.mem_cons_self
      · exact List.mem_cons_of_mem _ (List.mem_append.mpr ((List.mem_append.mp h).imp
          (mem_filterNames_of_part inner) (mem_filterNamesOf_of_part args)))
  | .conditional yes condition no, h => by
      simp only [parts, List.mem_cons, reduceCtorEq, false_or, List.mem_append] at h
      exact List.mem_append.mpr (h.imp (fun h => List.mem_append.mpr
        (h.imp (mem_filterNames_of_part yes) (mem_filterNames_of_part condition))) (mem_filterNames_of_part no))
theorem mem_filterNamesOf_of_part {input : Expr} {name : String} {args : List Expr} :
    ∀ (es : List Expr), filter input name args ∈ partsOf es → name ∈ filterNamesOf es
  | [], h => by cases h
  | e :: rest, h => List.mem_append.mpr ((List.mem_append.mp h).imp
      (mem_filterNames_of_part e) (mem_filterNamesOf_of_part rest))
end

/-- If all filters of an expression are known, then it does not fail for want of one. -/
theorem knowsFilters_of_eval (hn : ∀ name ∈ e.filterNames, Filter.isKnown name = true)
    (h : e.eval scope = .error (.error cause)) : cause.KnowsFilters := by
  obtain ⟨p, hp, hstops⟩ := exists_stops_of_eval h
  intro subject unknown heq
  subst heq
  generalize hstop : Stop.error (EvalError.filter subject (.unknown unknown)) = stop at hstops
  cases hstops with
  | missing _ | negation _ | operator _ _ _ | negative _ _ => cases hstop
  | @filter _ name _ _ _ stop _ _ happly =>
      cases stop with
      | halt _ => cases hstop
      | error cause =>
          cases hstop
          exact Filter.applyName_ne_unknown (hn name (mem_filterNames_of_part e hp)) _ happly

/-! ### Halts -/

theorem inSignedRange_of_signed? {n : Number} {i : Int} (h : n.signed? = some i) : Number.InSignedRange i := by
  unfold Number.signed? at h
  split at h
  · split at h
    · next hrange =>
        cases h
        exact hrange
    · cases h
  · cases h

theorem halt_of_negate {n : Number} {halt : Halt} (h : negate n = .error halt) :
    halt = .negation ∧ n.signed? = some (-0x8000000000000000) := by
  unfold negate at h
  split at h
  · next i hi =>
      split at h
      · cases h
      · next hlarge =>
          cases h
          have hrange := inSignedRange_of_signed? hi
          rw [hi]
          unfold Number.InSignedRange at hlarge hrange
          exact ⟨rfl, congrArg some (by omega)⟩
  · cases h

/-- An evaluation halts only at a part of the expression that overflows. -/
theorem exists_overflows_of_eval {halt : Halt} (h : e.eval scope = .error (.halt halt)) :
    ∃ p ∈ e.parts, p.Overflows scope halt := by
  obtain ⟨p, hp, hstops⟩ := exists_stops_of_eval h
  refine ⟨p, hp, ?_⟩
  generalize hstop : (Stop.halt halt : Stop EvalError) = stop at hstops
  cases hstops with
  | missing _ | negation _ | operator _ _ _ => cases hstop
  | negative hv hnegate =>
      cases hstop
      obtain ⟨rfl, hn⟩ := halt_of_negate hnegate
      exact .negation hv hn
  | @filter _ name _ _ _ stop hv hvs happly =>
      cases stop with
      | error _ => cases hstop
      | halt _ =>
          cases hstop
          obtain ⟨rfl, rfl, text, n, width, more, rfl, rfl, hwidth, hle⟩ := Filter.halt_of_applyName happly
          exact .capacity (hv (by decide)) hvs hwidth hle

end Expr
end ClassScribe
