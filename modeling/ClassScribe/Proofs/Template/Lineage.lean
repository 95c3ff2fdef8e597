import Mathlib.Data.List.Chain
import Mathlib.Logic.Relation
import ClassScribe.Proofs.Outcome
import ClassScribe.Proofs.Template.Reading
import ClassScribe.Template.Validation

/-! # Lineages

Following the parents from a template comes to a root, comes round to a template again, or comes to
a parent that is not there (`walk_cases`). The check of a library goes from the leaves only. What it
says of the other templates rests on going the other way: from child to child one comes to a leaf,
unless the template that one started from extends itself over some others (`exists_leaf`). -/

namespace ClassScribe.Template.Library

variable {l : Library} {a b c name leaf : String} {path : List String} {t u : Template}

/-- A template extends another one, whether that is there or not. -/
def Extends (l : Library) (child parent : String) : Prop :=
  ∃ t, l.get? child = some t ∧ t.parent = some parent

/-- A template is another one or extends it, directly or over others. -/
abbrev DescendsFrom (l : Library) : String → String → Prop := Relation.ReflTransGen l.Extends

/-- A template extends itself, directly or over others. -/
abbrev Cyclic (l : Library) (name : String) : Prop := Relation.TransGen l.Extends name name

/-- Following the parents from a template comes to a root. -/
inductive Rooted (l : Library) : String → Prop
  | root {name : String} {t : Template} : l.get? name = some t → t.parent = none → Rooted l name
  | child {name parent : String} {t : Template} : l.get? name = some t → t.parent = some parent →
      Rooted l parent → Rooted l name

/-! ### Templates by name -/

theorem name_of_get? (h : l.get? name = some t) : t.name = name := by
  simpa using List.find?_some h

theorem mem_of_get? (h : l.get? name = some t) : t ∈ l.templates := List.mem_of_find?_eq_some h

theorem get?_of_mem (h : t ∈ l.templates) : l.get? t.name = some t := by
  have hs := l.sorted
  unfold get?
  generalize l.templates = ts at h hs
  induction ts with
  | nil => cases h
  | cons s ts ih =>
      rw [List.pairwise_cons] at hs
      rcases List.mem_cons.mp h with rfl | h
      · rw [List.find?_cons, beq_self_eq_true]
      · have hne : s.name ≠ t.name := fun he => String.lt_irrefl _ (he ▸ hs.1 t h)
        rw [List.find?_cons, beq_false_of_ne hne]
        exact ih h hs.2

theorem get?_insert_of_ne (hname : name ≠ t.name) : (l.insert t).get? name = l.get? name := by
  have hself : (t.name == name) = false := beq_false_of_ne (Ne.symm hname)
  show (insertInto t l.templates).find? (·.name == name) = l.templates.find? (·.name == name)
  generalize l.templates = ts
  induction ts with
  | nil => rw [insertInto, List.find?_cons, hself]
  | cons s rest ih =>
      rw [insertInto]
      split
      · next hs =>
          rw [List.find?_cons, List.find?_cons, ← hs, hself]
      · split
        · rw [List.find?_cons, hself]
        · rw [List.find?_cons, List.find?_cons, ih]

theorem Extends.unique (h : l.Extends a b) (h' : l.Extends a c) : b = c := by
  obtain ⟨t, ht, hb⟩ := h
  obtain ⟨u, hu, hc⟩ := h'
  obtain rfl : t = u := Option.some.inj (ht.symm.trans hu)
  exact Option.some.inj (hb.symm.trans hc)

/-! ### Roots and cycles -/

theorem Rooted.extends (h : l.Rooted a) (hab : l.Extends a b) : l.Rooted b := by
  obtain ⟨u, hu, hb⟩ := hab
  cases h with
  | root ht hnone =>
      obtain rfl := Option.some.inj (hu.symm.trans ht)
      rw [hnone] at hb
      cases hb
  | child ht hp hr =>
      obtain rfl := Option.some.inj (hu.symm.trans ht)
      obtain rfl := Option.some.inj (hb.symm.trans hp)
      exact hr

theorem Rooted.of_descends (h : l.Rooted a) (hab : l.DescendsFrom a b) : l.Rooted b := by
  induction hab with
  | refl => exact h
  | tail _ hbc ih => exact ih.extends hbc

/-- What a template on a cycle extends is on the cycle. -/
theorem cyclic_of_descends (h : l.Cyclic a) (hab : l.DescendsFrom a b) : l.Cyclic b := by
  induction hab with
  | refl => exact h
  | @tail b c _ hbc ih =>
      obtain ⟨d, hbd, hdb⟩ := Relation.TransGen.head'_iff.mp ih
      obtain rfl := hbc.unique hbd
      exact Relation.TransGen.tail' hdb hbc

theorem Rooted.not_cyclic (h : l.Rooted a) : ¬l.Cyclic a := by
  induction h with
  | root ht hnone =>
      intro hc
      obtain ⟨_, ⟨u, hu, hp⟩, -⟩ := Relation.TransGen.head'_iff.mp hc
      obtain rfl := Option.some.inj (hu.symm.trans ht)
      rw [hnone] at hp
      cases hp
  | child ht hp _ ih =>
      intro hc
      exact ih (cyclic_of_descends hc (.single ⟨_, ht, hp⟩))

/-! ### Chains -/

theorem walk_of_root (h : t.parent = none) : l.walk leaf path t = .ok path := by
  rw [walk]
  split
  · rfl
  · next parent hp =>
      rw [h] at hp
      cases hp

theorem walk_of_parent {parent : String} (hp : t.parent = some parent)
    (hn : path.contains parent = false) (hu : l.get? parent = some u) :
    l.walk leaf path t = l.walk leaf (parent :: path) u := by
  rw [walk]
  split
  · next hnone =>
      rw [hp] at hnone
      cases hnone
  · next above hp' =>
      obtain rfl : parent = above := Option.some.inj (hp.symm.trans hp')
      rw [dif_neg (by rw [hn]; decide)]
      split
      · next hnone =>
          rw [hu] at hnone
          cases hnone
      · next v hv =>
          obtain rfl : u = v := Option.some.inj (hu.symm.trans hv)
          rfl

theorem walk_of_seen {parent : String} (hp : t.parent = some parent) (hn : path.contains parent = true) :
    l.walk leaf path t = .error (.resolution leaf none (.cycle (parent :: path))) := by
  rw [walk]
  split
  · next hnone =>
      rw [hp] at hnone
      cases hnone
  · next above hp' =>
      obtain rfl : parent = above := Option.some.inj (hp.symm.trans hp')
      rw [dif_pos hn]

theorem walk_of_missing {parent : String} (hp : t.parent = some parent)
    (hn : path.contains parent = false) (hu : l.get? parent = none) :
    l.walk leaf path t = .error (.resolution t.name none (.unknownParent parent)) := by
  rw [walk]
  split
  · next hnone =>
      rw [hp] at hnone
      cases hnone
  · next above hp' =>
      obtain rfl : parent = above := Option.some.inj (hp.symm.trans hp')
      rw [dif_neg (by rw [hn]; decide)]
      split
      · rfl
      · next v hv =>
          rw [hu] at hv
          cases hv

/-- How a walk along the parents can end. -/
inductive WalkEnds (l : Library) (leaf name : String) : Except Error (List String) → Prop
  | root {names : List String} : l.Rooted name → WalkEnds l leaf name (.ok names)
  | cycle {p : String} {names : List String} : l.DescendsFrom name p → l.Cyclic p →
      WalkEnds l leaf name (.error (.resolution leaf none (.cycle names)))
  | unknown {u : Template} {p : String} : l.DescendsFrom name u.name → l.Extends u.name p →
      l.get? p = none → WalkEnds l leaf name (.error (.resolution u.name none (.unknownParent p)))

theorem WalkEnds.of_extends {r : Except Error (List String)} (hab : l.Extends a b)
    (h : WalkEnds l leaf b r) : WalkEnds l leaf a r := by
  obtain ⟨t, ht, hp⟩ := hab
  cases h with
  | root hr => exact .root (.child ht hp hr)
  | cycle hd hc => exact .cycle (.head ⟨t, ht, hp⟩ hd) hc
  | unknown hd hu hnone => exact .unknown (.head ⟨t, ht, hp⟩ hd) hu hnone

/-- A walk that has come along `path` ends at a root, at a parent that it has come along, or at one
that is not there. -/
theorem walk_cases (ht : l.get? name = some t) (hpath : ∀ q ∈ path, l.DescendsFrom q name) :
    WalkEnds l leaf name (l.walk leaf path t) := by
  fun_induction walk l leaf path t generalizing name with
  | case1 path t hnone => exact .root (.root ht hnone)
  | case2 path t parent hp hmem =>
      have hext : l.Extends name parent := ⟨t, ht, hp⟩
      have hback := hpath parent (List.contains_iff_mem.mp hmem)
      exact .cycle (.single hext) (Relation.TransGen.tail' hback hext)
  | case3 path t parent hp _ hnone =>
      have hname : t.name = name := name_of_get? ht
      exact .unknown (hname ▸ .refl) ⟨t, hname ▸ ht, hp⟩ hnone
  | case4 path t parent hp _ u hu ih =>
      have hext : l.Extends name parent := ⟨t, ht, hp⟩
      refine .of_extends hext (ih hu fun q hq => ?_)
      rcases List.mem_cons.mp hq with rfl | hq
      · exact .refl
      · exact (hpath q hq).tail hext

theorem chainFor_eq (ht : l.get? name = some t) :
    l.chainFor name = (l.walk name [name] t).map fun names =>
      match names with
      | [] => ⟨name, []⟩
      | base :: overrides => ⟨base, overrides⟩ := by
  unfold chainFor
  rw [ht]
  dsimp only
  cases l.walk name [name] t with
  | error e => rfl
  | ok names => cases names <;> rfl

/-- A template has a chain just if its parents lead to a root. -/
theorem chainFor_ok_iff (ht : l.get? name = some t) :
    (∃ chain, l.chainFor name = .ok chain) ↔ l.Rooted name := by
  have hends : WalkEnds l name name (l.walk name [name] t) :=
    walk_cases ht fun q hq => by rw [List.mem_singleton.mp hq]
  rw [chainFor_eq ht]
  generalize l.walk name [name] t = r at hends
  constructor
  · rintro ⟨chain, h⟩
    obtain ⟨names, rfl, -⟩ := map_eq_ok.mp h
    cases hends with
    | root hr => exact hr
  · intro hr
    cases hends with
    | root _ => exact ⟨_, rfl⟩
    | cycle hd hc => exact absurd hc (hr.of_descends hd).not_cyclic
    | unknown hd hext hnone =>
        cases (hr.of_descends hd).extends hext with
        | root hp _ | child hp _ _ =>
            rw [hnone] at hp
            cases hp

/-! ### Leaves -/

theorem mem_leaves : name ∈ l.leaves ↔ name ∈ l.names ∧ ∀ child, ¬l.Extends child name := by
  unfold leaves
  rw [List.mem_filter]
  refine and_congr_right fun _ => ?_
  rw [Bool.not_eq_true', List.any_eq_false]
  constructor
  · rintro h c ⟨t, ht, hp⟩
    exact h t (mem_of_get? ht) (by rw [hp]; exact beq_self_eq_true _)
  · intro h t ht hp
    exact h t.name ⟨t, get?_of_mem ht, eq_of_beq hp⟩

/-- Going from child to child comes to a leaf, if the template that it starts from is on no cycle. The
induction is on the templates that have not been come along: a child that has been come along would
close a cycle, and that would lead to the first template. -/
theorem exists_leaf (hn : ¬l.Cyclic name) (path : List String) {c : String} (hc : c ∈ l.names)
    (hfrom : ∀ q ∈ path, l.DescendsFrom c q ∧ l.DescendsFrom q name) (hmem : c ∈ path) :
    ∃ leaf ∈ l.leaves, l.DescendsFrom leaf c := by
  by_cases hleaf : c ∈ l.leaves
  · exact ⟨c, hleaf, .refl⟩
  · rw [mem_leaves] at hleaf
    push Not at hleaf
    obtain ⟨d, hd⟩ := hleaf hc
    have hdname : l.DescendsFrom d name := .head hd (hfrom c hmem).2
    have hvisited : path.contains d = false := by
      rw [← Bool.not_eq_true, List.contains_iff_mem]
      intro hdp
      exact hn (cyclic_of_descends (Relation.TransGen.head' hd (hfrom d hdp).1) hdname)
    obtain ⟨t, ht, _⟩ := id hd
    have hlt := unvisited_cons_lt ht hvisited
    have hdl : d ∈ l.names := List.mem_map.mpr ⟨t, mem_of_get? ht, name_of_get? ht⟩
    obtain ⟨leaf, hleaf, hdesc⟩ := exists_leaf hn (d :: path) hdl
      (fun q hq => by
        rcases List.mem_cons.mp hq with rfl | hq
        · exact ⟨.refl, hdname⟩
        · exact ⟨.head hd (hfrom q hq).1, (hfrom q hq).2⟩)
      List.mem_cons_self
    exact ⟨leaf, hleaf, hdesc.tail hd⟩
termination_by (l.unvisited path).length

/-- A template is on a cycle, or there is a leaf that descends from it. -/
theorem exists_leaf_of_mem (ht : t ∈ l.templates) (hn : ¬l.Cyclic t.name) :
    ∃ leaf ∈ l.leaves, l.DescendsFrom leaf t.name := by
  refine exists_leaf hn [t.name] (List.mem_map_of_mem ht) (fun q hq => ?_) List.mem_cons_self
  rw [List.mem_singleton.mp hq]
  exact ⟨.refl, .refl⟩

/-! ### Checked libraries -/

/-- A library that passes the check has a chain for each of its leaves, and the chains that the check
returns are such chains and can be composed. -/
theorem leaves_of_validate {chains : List Chain} (h : l.validate = .ok chains) :
    (∀ leaf ∈ l.leaves, ∃ chain, l.chainFor leaf = .ok chain) ∧
      ∀ chain ∈ chains, ∃ leaf ∈ l.leaves, l.chainFor leaf = .ok chain ∧ ∃ r, l.resolve chain = .ok r := by
  unfold validate at h
  obtain ⟨_, -, hchains⟩ := bind_eq_ok.mp h
  constructor
  · intro leaf hleaf
    obtain ⟨_, hb⟩ := mapM_ok_iff.mp ⟨chains, hchains⟩ leaf hleaf
    obtain ⟨chain, hchain, -⟩ := bind_eq_ok.mp hb
    exact ⟨chain, hchain⟩
  · intro chain hmem
    obtain ⟨leaf, hleaf, hb⟩ := exists_of_mem_mapM hchains hmem
    obtain ⟨chain', hchain, hb⟩ := bind_eq_ok.mp hb
    obtain ⟨r, hr, hb⟩ := bind_eq_ok.mp hb
    cases hb
    exact ⟨leaf, hleaf, hchain, r, hr⟩

theorem rooted_of_leaf {chains : List Chain} (h : l.validate = .ok chains) (hleaf : leaf ∈ l.leaves)
    (hd : l.DescendsFrom leaf name) : l.Rooted name := by
  obtain ⟨t, ht, rfl⟩ := List.mem_map.mp (mem_leaves.mp hleaf).1
  exact ((chainFor_ok_iff (get?_of_mem ht)).mp ((leaves_of_validate h).1 t.name hleaf)).of_descends hd

theorem parent_mem_names {chains : List Chain} (h : l.validate = .ok chains) (hab : l.Extends a b) :
    b ∈ l.names := by
  obtain ⟨t, ht, hp⟩ := id hab
  by_cases hc : l.Cyclic a
  · obtain ⟨c, hac, hca⟩ := Relation.TransGen.head'_iff.mp hc
    obtain rfl := hab.unique hac
    -- The parent extends something itself.
    obtain ⟨d, ⟨u, hu, -⟩, -⟩ := Relation.TransGen.head'_iff.mp (cyclic_of_descends hc (.single hab))
    exact List.mem_map.mpr ⟨u, mem_of_get? hu, name_of_get? hu⟩
  · obtain rfl := name_of_get? ht
    obtain ⟨leaf, hleaf, hd⟩ := exists_leaf_of_mem (mem_of_get? ht) hc
    cases rooted_of_leaf h hleaf (hd.tail hab) with
    | root hu _ | child hu _ _ => exact List.mem_map.mpr ⟨_, mem_of_get? hu, name_of_get? hu⟩

/-- A template on a cycle has no chain, and the message says so if every parent is there. -/
theorem chainFor_of_cyclic {chains : List Chain} (h : l.validate = .ok chains)
    (ht : l.get? name = some t) (hc : l.Cyclic name) :
    ∃ names, l.chainFor name = .error (.resolution name none (.cycle names)) := by
  have hends : WalkEnds l name name (l.walk name [name] t) :=
    walk_cases ht fun q hq => by rw [List.mem_singleton.mp hq]
  rw [chainFor_eq ht]
  generalize l.walk name [name] t = r at hends
  cases hends with
  | root hr => exact absurd hc hr.not_cyclic
  | cycle _ _ => exact ⟨_, rfl⟩
  | unknown _ hext hnone =>
      obtain ⟨u, hu, rfl⟩ := List.mem_map.mp (parent_mem_names h hext)
      rw [get?_of_mem hu] at hnone
      cases hnone

/-- In a library that passes the check every parent is there, and a template either has a chain, and is
in the chain of a leaf then, or extends itself and has no chain for that reason. So all templates
have chains just if there are no cycles. -/
theorem validated_lineages {chains : List Chain} (h : l.validate = .ok chains) :
    (∀ t ∈ l.templates, ∀ p, t.parent = some p → p ∈ l.names) ∧
      (∀ t ∈ l.templates,
        ((∃ chain, l.chainFor t.name = .ok chain) ∧ ∃ leaf ∈ l.leaves, l.DescendsFrom leaf t.name) ∨
          ((∃ names, l.chainFor t.name = .error (.resolution t.name none (.cycle names))) ∧
            l.Cyclic t.name)) ∧
      ((∀ t ∈ l.templates, ∃ chain, l.chainFor t.name = .ok chain) ↔ ∀ name, ¬l.Cyclic name) := by
  refine ⟨fun t ht p hp => parent_mem_names h ⟨t, get?_of_mem ht, hp⟩, fun t ht => ?_, ?_, ?_⟩
  · by_cases hc : l.Cyclic t.name
    · exact .inr ⟨chainFor_of_cyclic h (get?_of_mem ht) hc, hc⟩
    · obtain ⟨leaf, hleaf, hd⟩ := exists_leaf_of_mem ht hc
      exact .inl ⟨(chainFor_ok_iff (get?_of_mem ht)).mpr (rooted_of_leaf h hleaf hd), leaf, hleaf, hd⟩
  · intro hall name hc
    obtain ⟨_, ⟨u, hu, -⟩, -⟩ := Relation.TransGen.head'_iff.mp hc
    obtain rfl := name_of_get? hu
    exact ((chainFor_ok_iff hu).mp (hall u (mem_of_get? hu))).not_cyclic hc
  · intro hacyclic t ht
    obtain ⟨leaf, hleaf, hd⟩ := exists_leaf_of_mem ht (hacyclic t.name)
    exact (chainFor_ok_iff (get?_of_mem ht)).mpr (rooted_of_leaf h hleaf hd)

/-! ### A cycle that no leaf leads to -/

/-- A root, a template that extends it, and one that extends itself. -/
def kin : Library :=
  ⟨[⟨"base", none, [], []⟩, ⟨"leaf", some "base", [], []⟩, ⟨"loop", some "loop", [], []⟩], by decide⟩

theorem chainFor_kin_leaf : kin.chainFor "leaf" = .ok ⟨"base", ["leaf"]⟩ := by
  rw [chainFor_eq (t := ⟨"leaf", some "base", [], []⟩) rfl,
    walk_of_parent (show _ = some "base" from rfl) (by decide) rfl, walk_of_root rfl]
  rfl

theorem validate_kin : kin.validate = .ok [⟨"base", ["leaf"]⟩] := by
  unfold validate
  rw [show kin.leaves = ["leaf"] by decide, List.mapM_cons, chainFor_kin_leaf]
  rfl

/-- The template that extends itself is the one without a chain. -/
theorem validated_lineages_kin :
    kin.validate = .ok [⟨"base", ["leaf"]⟩] ∧
      (∀ t ∈ kin.templates, ∀ p, t.parent = some p → p ∈ kin.names) ∧
      (∀ t ∈ kin.templates,
        ((∃ chain, kin.chainFor t.name = .ok chain) ∧
            ∃ leaf ∈ kin.leaves, kin.DescendsFrom leaf t.name) ∨
          ((∃ names, kin.chainFor t.name = .error (.resolution t.name none (.cycle names))) ∧
            kin.Cyclic t.name)) ∧
      ((∀ t ∈ kin.templates, ∃ chain, kin.chainFor t.name = .ok chain) ↔ ∀ name, ¬kin.Cyclic name) :=
  ⟨validate_kin, validated_lineages validate_kin⟩

theorem parse_kin :
    empty.addAll .standard [("base", ""), ("leaf", "\x7b% extends 'base' %\x7d"),
      ("loop", "\x7b% extends 'loop' %\x7d")] = .ok kin := by
  have hbase : parse .standard "base" "" = .ok ⟨"base", none, [], []⟩ :=
    parse_of_saysOutline (show saysOutline .standard none [] 1 _ = true by decide +kernel)
  have hleaf : parse .standard "leaf" "\x7b% extends 'base' %\x7d" = .ok ⟨"leaf", some "base", [], []⟩ :=
    parse_of_saysOutline (show saysOutline .standard (some "base") [] 2 _ = true by decide +kernel)
  have hloop : parse .standard "loop" "\x7b% extends 'loop' %\x7d" = .ok ⟨"loop", some "loop", [], []⟩ :=
    parse_of_saysOutline (show saysOutline .standard (some "loop") [] 2 _ = true by decide +kernel)
  simp only [addAll, add, hbase, hleaf, hloop]
  rfl

/-- The check lets a template pass that extends itself, as no leaf descends from it. -/
theorem validate_passes_cycle :
    ∃ l, empty.addAll .standard [("base", ""), ("leaf", "\x7b% extends 'base' %\x7d"),
        ("loop", "\x7b% extends 'loop' %\x7d")] = .ok l ∧
      l.validate = .ok [⟨"base", ["leaf"]⟩] ∧
      "loop" ∈ l.names ∧
      l.chainFor "loop" = .error (.resolution "loop" none (.cycle ["loop", "loop"])) := by
  refine ⟨kin, parse_kin, validate_kin, by decide, ?_⟩
  rw [chainFor_eq (t := ⟨"loop", some "loop", [], []⟩) rfl, walk]
  rfl

end ClassScribe.Template.Library
