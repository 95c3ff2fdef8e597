import ClassScribe.Emission.ClassText
import ClassScribe.Emission.Emitter
import ClassScribe.Emission.Outlines
import ClassScribe.Proofs.Expr.Evaluation
import ClassScribe.Proofs.Template.Rendering

/-! # The pieces of all classes

Groups of nodes of the shipped templates print the pieces of a class that they stand for, in every
scope that the context of the class can be seen from (`Sees`): loops and assignments of other names
do not hide it. The frame of all classes is printed around the texts of its three blocks
(`prints_base`), and a class is emitted exactly if all its methods have plans (`emit_eq`). -/

namespace ClassScribe.Shipped
open Template

/-! ### Contexts -/

/-- The variables of a context that templates use. -/
def contextNames : List String :=
  ["name", "description", "extends", "func", "imports", "scripts", "params", "methods"]

/-- The context of a class can be seen from a scope. -/
structure Sees (scope : Scope) (s : ClassSpec) (methods : List Value) : Prop where
  name : scope.lookup "name" = some (.text s.name)
  description : scope.lookup "description" = some (.text s.description)
  parent : scope.lookup "extends" = some (.text s.parent)
  func : scope.lookup "func" = some (.text (Context.functionName s))
  imports : scope.lookup "imports" = some (.sequence (s.imports.map Context.ofImport))
  scripts : scope.lookup "scripts" = some (Value.texts s.scripts)
  params : scope.lookup "params" = some (.sequence (s.params.map Context.ofParam))
  methods : scope.lookup "methods" = some (.sequence methods)

namespace Sees
variable {scope scope' : Scope} {s : ClassSpec} {ms : List Value}

theorem of_lookup_eq (h : Sees scope s ms)
    (hl : ∀ name ∈ contextNames, scope'.lookup name = scope.lookup name) : Sees scope' s ms where
  name := (hl _ (by decide)).trans h.name
  description := (hl _ (by decide)).trans h.description
  parent := (hl _ (by decide)).trans h.parent
  func := (hl _ (by decide)).trans h.func
  imports := (hl _ (by decide)).trans h.imports
  scripts := (hl _ (by decide)).trans h.scripts
  params := (hl _ (by decide)).trans h.params
  methods := (hl _ (by decide)).trans h.methods

theorem loop (h : Sees scope s ms) {target : String} (ht : target ∉ contextNames) (item : Value)
    (k n : Nat) : Sees (scope.enter (loopFrame target item k n)) s ms := by
  refine h.of_lookup_eq fun name hname => ?_
  refine Scope.lookup_loop_of_ne ?_ ?_
  · intro heq
    exact ht (by rw [← heq]; exact hname)
  · intro heq
    rw [heq] at hname
    exact absurd hname (by decide)

theorem enter (h : Sees scope s ms) : Sees (scope.enter []) s ms :=
  h.of_lookup_eq fun _ _ => Scope.lookup_enter []

theorem assign {frame : Frame} {outer : List Frame} (h : Sees ⟨frame, outer⟩ s ms) {target : String}
    (ht : target ∉ contextNames) (v : Value) :
    Sees ⟨Value.setField target v frame, outer⟩ s ms := by
  refine h.of_lookup_eq fun name hname => ?_
  refine Scope.lookup_assign_of_ne ?_ v frame outer
  intro heq
  exact ht (by rw [← heq]; exact hname)

end Sees

/-- The fields of the context of a class. -/
def contextFields (s : ClassSpec) (methods : List Value) : List (String × Value) :=
  [("name", .text s.name), ("kind", .text s.kind.name), ("description", .text s.description),
    ("extends", .text s.parent), ("func", .text (Context.functionName s)),
    ("imports", .sequence (s.imports.map Context.ofImport)), ("scripts", Value.texts s.scripts),
    ("params", .sequence (s.params.map Context.ofParam)), ("methods", .sequence methods)]

theorem ofSpec_eq (s : ClassSpec) (leaf : String) : Context.ofSpec s leaf =
    (Context.ofMethods s.name leaf 0 s.methods).map fun ms => Value.ofFields (contextFields s ms) := by
  unfold Context.ofSpec
  cases Context.ofMethods s.name leaf 0 s.methods with
  | error e => rfl
  | ok ms => rfl

theorem sees_context (s : ClassSpec) (ms : List Value) :
    Sees ⟨[], [Value.ofFields (contextFields s ms)]⟩ s ms := by
  have hn : ((contextFields s ms).map (·.1)).Nodup := by
    unfold contextFields
    simp
  constructor <;> exact Scope.lookup_context hn (by unfold contextFields; simp)

/-! ### Values -/

/-- A variable that stands for a mapping of fields of different keys. -/
structure Shows (lookup : Lookup) (item : String) (fields : List (String × Value)) : Prop where
  lookup_eq : lookup item = some (.mapping (Value.ofFields fields))
  nodup : (fields.map (·.1)).Nodup

namespace Shows
variable {lookup : Lookup} {scope : Scope} {item target : String} {fields : List (String × Value)}

theorem eval (h : Shows lookup item fields) {name : String} {v : Value} (hm : (name, v) ∈ fields) :
    (field item name).eval lookup = .ok v :=
  Expr.eval_attr (Expr.eval_var h.lookup_eq) (Value.field?_ofFields_of_mem h.nodup hm)

theorem loop (h : Shows scope.lookup item fields) (ht : item ≠ target) (hl : item ≠ "loop")
    (v : Value) (k n : Nat) : Shows (scope.enter (loopFrame target v k n)).lookup item fields :=
  ⟨(Scope.lookup_loop_of_ne ht hl).trans h.lookup_eq, h.nodup⟩

theorem assign {frame : Frame} {outer : List Frame} (h : Shows (Scope.mk frame outer).lookup item fields)
    (ht : item ≠ target) (v : Value) :
    Shows (Scope.mk (Value.setField target v frame) outer).lookup item fields :=
  ⟨(Scope.lookup_assign_of_ne ht v frame outer).trans h.lookup_eq, h.nodup⟩

end Shows

section
variable {site : Site} {scope : Scope} {rest : List Element} {t : String}

theorem prints_var {name u : String} (h : scope.lookup name = some (.text u))
    (hr : Prints site scope rest t) :
    Prints site scope (Node.element (.output (.var name)) :: rest) (u ++ t) :=
  prints_output (Expr.eval_var h) rfl hr

theorem prints_field {item name : String} {fields : List (String × Value)}
    (h : Shows scope.lookup item fields) (u : String) (hm : (name, .text u) ∈ fields)
    (hr : Prints site scope rest t) :
    Prints site scope (Node.element (.output (field item name)) :: rest) (u ++ t) :=
  prints_output (h.eval hm) rfl hr

/-- A condition on a text: what stands under it is printed unless the text is empty. -/
theorem prints_optional {e : Expr} {u a : String} {body : List Element}
    (he : e.eval scope.lookup = .ok (.text u)) (hb : Prints site scope body a)
    (hr : Prints site scope rest t) :
    Prints site scope (.choice [(e, body)] [] :: rest) ((if u.isEmpty then "" else a) ++ t) := by
  refine prints_choice he ?_ hr
  show Prints site scope (if (!u.isEmpty) = true then body else []) _
  cases u.isEmpty with
  | true => exact prints_nil
  | false => exact hb

theorem prints_nodes {ns more : List Node} {a : String} (hn : Prints site scope (Node.elements ns) a)
    (hm : Prints site scope (Node.elements more) t) :
    Prints site scope (Node.elements (ns ++ more)) (a ++ t) := by
  rw [Node.elements_append]
  exact renderElements_append hn hm

theorem eval_braced {e : Expr} {t : String} (h : e.eval scope.lookup = .ok (.text t)) :
    (braced e).eval scope.lookup = .ok (.text (ClassText.braced t)) := by
  have hs : Filter.substitute "\x7b%s\x7d".toList [.text t] =
      .ok ('\x7b' :: (t.toList ++ ['\x7d'])) := rfl
  refine Expr.eval_filter (Expr.eval_literal _) (Expr.evalItems_cons h Expr.evalItems_nil) (by decide)
    ((Expr.applyName_format hs).trans ?_)
  rw [ClassText.braced]
  congr 2
  rw [← String.toList_inj]
  simp

end

/-- The fields of the record of a loop round. -/
def loopFields (k n : Nat) : List (String × Value) :=
  [("index", .int (k + 1)), ("index0", .int k), ("first", .bool (k == 0)),
    ("last", .bool (k + 1 == n)), ("length", .int n)]

theorem shows_loop (scope : Scope) (target : String) (item : Value) (k n : Nat) :
    Shows (scope.enter (loopFrame target item k n)).lookup "loop" (loopFields k n) :=
  ⟨Scope.lookup_loop, by unfold loopFields; simp⟩

/-! ### Imports -/

/-- The fields of an import. -/
def importFields (i : Import) : List (String × Value) :=
  [("what", .text i.what), ("wherefrom", .text i.wherefrom)]

/-- What is put behind the last round of a loop stands behind all of them. -/
theorem join_mapIdx_last {α : Type} (g : α → String) (tail : String) :
    ∀ (l : List α) (start n : Nat), n = start + l.length →
      String.join (l.mapIdx fun k a => g a ++ if start + k + 1 == n then tail else "") =
        String.join (l.map g) ++ if l.isEmpty then "" else tail
  | [], _, _, _ => rfl
  | [a], start, n, hn => by
      rw [hn]
      simp
  | a :: b :: l, start, n, hn => by
      have ih := join_mapIdx_last g tail (b :: l) (start + 1) n (by
        rw [hn]
        simp only [List.length_cons]
        omega)
      have hne : (start + 0 + 1 == n) = false := by
        rw [hn]
        simp
      rw [List.mapIdx_cons, String.join_cons, hne, List.map_cons, String.join_cons]
      have hstep : ∀ k, start + (k + 1) + 1 = start + 1 + k + 1 := by omega
      simp only [hstep]
      rw [ih]
      simp [String.append_assoc]

section
variable {site : Site} {scope : Scope} {s : ClassSpec} {ms : List Value}

theorem prints_importRound {i : Import} {k n : Nat} :
    Prints site (scope.enter (loopFrame "i" (Context.ofImport i) k n)) (Node.elements importRound)
      (ClassText.importLine i ++ if k + 1 == n then "\n" else "") := by
  have hi : Shows (scope.enter (loopFrame "i" (Context.ofImport i) k n)).lookup "i" (importFields i) :=
    ⟨Scope.lookup_target (by decide), by unfold importFields; simp⟩
  have hloop := shows_loop scope "i" (Context.ofImport i) k n
  have hlast : Prints site (scope.enter (loopFrame "i" (Context.ofImport i) k n))
      (if (Value.bool (k + 1 == n)).truthy then Node.elements [.text "\n"] else [])
      (if k + 1 == n then "\n" else "") := by
    cases k + 1 == n with
    | true => exact prints_text "\n" prints_nil
    | false => exact prints_nil
  refine Prints.of_eq (prints_text _ (prints_field hi i.what (by simp [importFields])
    (prints_text _ (prints_field hi i.wherefrom (by simp [importFields])
      (prints_text _ (prints_choice (hloop.eval (by simp [loopFields])) hlast prints_nil)))))) ?_
  simp [ClassText.importLine, String.append_assoc]

theorem prints_imports (h : Sees scope s ms) :
    Prints site scope (Node.elements importNodes) (ClassText.imports s.imports) := by
  have hj := join_mapIdx_last ClassText.importLine "\n" s.imports 0 s.imports.length (by simp)
  simp only [Nat.zero_add] at hj
  refine Prints.of_eq (prints_rounds _ (Expr.eval_var h.imports) (fun k i _ => ⟨_, prints_importRound⟩)
    prints_nil) ?_
  rw [String.append_empty, hj]
  rfl

theorem prints_class (h : Sees scope s ms) :
    Prints site scope (Node.elements classNodes) (ClassText.classLine s) := by
  refine Prints.of_eq (prints_text _ (prints_var h.name (prints_optional (Expr.eval_var h.parent)
    (prints_text _ (prints_var h.parent prints_nil)) (prints_text _ prints_nil)))) ?_
  simp [ClassText.classLine, String.append_assoc]

theorem prints_export (h : Sees scope s ms) :
    Prints site scope (Node.elements exportNodes) (ClassText.exportLine s) := by
  refine Prints.of_eq (prints_text _ (prints_var h.name (prints_text _ prints_nil))) ?_
  simp [ClassText.exportLine, String.append_assoc]

/-- The fields of a parameter constant. -/
def paramFields (p : Param) : List (String × Value) :=
  [("key", .text p.key), ("value", .text p.value.literal), ("raw", .text p.value.lookupText),
    ("type", .text p.value.tag), ("description", Value.texts p.description)]

theorem shows_param {p : Param} {k n : Nat} :
    Shows (scope.enter (loopFrame "p" (Context.ofParam p) k n)).lookup "p" (paramFields p) :=
  ⟨Scope.lookup_target (by decide), by unfold paramFields; simp⟩

/-- The frame of all classes around the texts of its blocks. -/
theorem prints_base {typedef body properties : String} (h : Sees scope s ms)
    (ht : site.slot scope "typedef" = .ok typedef) (hb : site.slot scope "body" = .ok body)
    (hp : site.slot scope "properties" = .ok properties) :
    Prints site scope (Node.elements baseNodes)
      (ClassText.header ++ ClassText.imports s.imports ++ typedef ++ ClassText.classLine s ++ body ++
        "\x7d\n" ++ properties ++ ClassText.exportLine s) := by
  refine Prints.of_eq (prints_nodes (prints_nodes (prints_nodes (prints_text _ (prints_imports h))
    (prints_slot ht (prints_class h))) (prints_slot hb (prints_text _ (prints_slot hp prints_nil))))
      (prints_export h)) ?_
  simp [ClassText.header, String.append_assoc]

end

/-! ### Emission -/

/-- The methods are seen exactly if all of them have plans, each with its plan. -/
theorem ofMethods_eq_ok {className leaf : String} {index : Nat} {methods : List Method}
    {vs : List Value} : Context.ofMethods className leaf index methods = .ok vs ↔
      ∃ plans, methods.mapM Method.plan = .ok plans ∧ vs = List.zipWith Context.ofMethod methods plans := by
  simp only [mapM_eq_ok]
  induction methods generalizing index vs with
  | nil => simp [Context.ofMethods, eq_comm]
  | cons m methods ih =>
      rw [Context.ofMethods]
      cases hm : m.plan with
      | error cause =>
          constructor
          · intro h
            cases h
          · rintro ⟨_, hall, _⟩
            cases hall with
            | cons hp _ =>
                rw [hm] at hp
                cases hp
      | ok plan =>
          dsimp only
          rw [bind_eq_ok]
          constructor
          · rintro ⟨more, hmore, hvs⟩
            obtain ⟨plans, hall, rfl⟩ := ih.mp hmore
            cases hvs
            exact ⟨plan :: plans, .cons hm hall, rfl⟩
          · rintro ⟨_, hall, rfl⟩
            cases hall with
            | cons hp hall =>
                obtain rfl := Except.ok.inj (hm.symm.trans hp)
                exact ⟨_, ih.mpr ⟨_, hall, rfl⟩, rfl⟩

/-- A class is emitted exactly if all its methods have plans, with the text that rendering its context
has then. -/
theorem emit_eq {e : Emitter} {s : ClassSpec} {chain : Chain} {t : Resolved}
    (text : List AccessorPlan → String) (hc : e.chainFor s.kind = .ok chain)
    (ht : e.library.resolve chain = .ok t)
    (hr : ∀ plans, s.methods.mapM Method.plan = .ok plans → Template.render t s.name
      (Value.ofFields (contextFields s (List.zipWith Context.ofMethod s.methods plans))) =
        .ok (text plans)) :
    ((∃ out, e.emit s = .ok out) ↔ ∀ m ∈ s.methods, ∃ plan, m.plan = .ok plan) ∧
      ∀ plans, s.methods.mapM Method.plan = .ok plans → e.emit s = .ok (text plans) := by
  have hemit : e.emit s = (Context.ofMethods s.name chain.leaf 0 s.methods >>= fun ms =>
      Template.render t s.name (Value.ofFields (contextFields s ms))) := by
    unfold Emitter.emit Emitter.render
    rw [hc]
    dsimp only [bind, Except.bind]
    rw [ht, ofSpec_eq]
    cases Context.ofMethods s.name chain.leaf 0 s.methods with
    | error cause => rfl
    | ok ms => rfl
  have hok : ∀ plans, s.methods.mapM Method.plan = .ok plans → e.emit s = .ok (text plans) := by
    intro plans hp
    rw [hemit, bind_eq_ok]
    exact ⟨_, ofMethods_eq_ok.mpr ⟨plans, hp, rfl⟩, hr plans hp⟩
  refine ⟨?_, hok⟩
  rw [← mapM_ok_iff]
  constructor
  · rintro ⟨out, hout⟩
    rw [hemit] at hout
    obtain ⟨ms, hms, _⟩ := bind_eq_ok.mp hout
    obtain ⟨plans, hp, _⟩ := ofMethods_eq_ok.mp hms
    exact ⟨plans, hp⟩
  · rintro ⟨plans, hp⟩
    exact ⟨_, hok plans hp⟩

end ClassScribe.Shipped
