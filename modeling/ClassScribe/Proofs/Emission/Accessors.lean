import Mathlib.Data.List.Forall2
import ClassScribe.Proofs.Emission.Pieces
import ClassScribe.Proofs.Emission.Scripts
import ClassScribe.Proofs.Emission.Shipped

/-! # The text of structures and functions

A structure or a function is emitted exactly if there is a decision for each of its methods, and its
text is then the one that its specification says (`ClassText.accessors`). -/

namespace ClassScribe.Shipped
open Template

/-! ### Comment, constructor and scripts -/

section
variable {site : Site} {scope : Scope} {s : ClassSpec} {ms : List Value}

theorem prints_description (h : Sees scope s ms) :
    Prints site scope (Node.elements descriptionNodes) (ClassText.description s) := by
  refine Prints.of_eq (prints_optional (Expr.eval_var h.description) (prints_text _
    (prints_var h.description (prints_text _ prints_nil))) prints_nil) ?_
  simp [ClassText.description, String.append_assoc]

theorem prints_structConstructor (hk : s.kind = .struct) :
    Prints site scope (Node.elements structConstructor) (ClassText.constructor s) := by
  refine Prints.of_eq (prints_text _ prints_nil) ?_
  simp [ClassText.constructor, hk]

theorem prints_functionConstructor (h : Sees scope s ms) (hk : s.kind = .function) :
    Prints site scope (Node.elements functionConstructor) (ClassText.constructor s) := by
  refine Prints.of_eq (prints_text _ (prints_var h.func (prints_text _ prints_nil))) ?_
  simp [ClassText.constructor, hk, String.append_assoc]

theorem prints_scriptRound {code : String} {k n : Nat} :
    Prints site (scope.enter (loopFrame "s" (.text code) k n)) (Node.elements scriptRound)
      (ClassText.script code) := by
  have hs : Script.printing.eval (scope.enter (loopFrame "s" (.text code) k n)).lookup =
      .ok (.text (Script.rebased code)) := Script.eval_printing (Scope.lookup_target (by decide))
  refine Prints.of_eq (prints_text _ (prints_output hs rfl (prints_text _ prints_nil))) ?_
  simp [ClassText.script, Script.rebased, Script.dedented, String.append_assoc]

theorem prints_constants (h : Sees scope s ms) :
    Prints site scope (Node.elements constantNodes) (ClassText.constants s) := by
  have hround (k : Nat) (p : Param) : Prints site
      (scope.enter (loopFrame "p" (Context.ofParam p) k s.params.length)) (Node.elements constantRound)
      (s.name ++ ".KEY_" ++ p.key ++ " = " ++ p.value.literal ++ ";\n") := by
    have hname : (scope.enter (loopFrame "p" (Context.ofParam p) k s.params.length)).lookup "name" =
        some (.text s.name) := (h.loop (by decide) _ k _).name
    refine Prints.of_eq (prints_var hname (prints_text _ (prints_field shows_param p.key
      (by simp [paramFields]) (prints_text _ (prints_field shows_param p.value.literal
        (by simp [paramFields]) (prints_text _ prints_nil)))))) ?_
    simp [String.append_assoc]
  have hparams := Expr.eval_var h.params
  refine Prints.of_eq (prints_choice hparams ?_ prints_nil) String.append_empty
  unfold ClassText.constants
  show Prints site scope (if (!(s.params.map Context.ofParam).isEmpty) = true then _ else _) _
  rw [List.isEmpty_map]
  cases s.params.isEmpty with
  | true => exact prints_nil
  | false =>
      exact (prints_text _ (prints_loop _ hparams (fun k p _ => ⟨_, hround k p⟩) prints_nil)).of_eq
        (by simp)

end

/-! ### Methods -/

/-- The fields of a method. -/
def methodFields (m : Method) (plan : AccessorPlan) : List (String × Value) :=
  [("key", .text m.key), ("param_name", .text m.argument), ("type", .text m.type.tag),
    ("method_title", .text m.title), ("description", Value.texts m.description),
    ("external", Value.optionalText m.external), ("origin", .text m.origin),
    ("validate_type", Value.optionalText plan.validate),
    ("object_keyed", .bool (plan.storage == .object)),
    ("read_type", Value.optionalText (Context.readType plan.read))]

theorem ne_empty_of_choose {type : ValueType} {foreign : Option String} {plan : AccessorPlan}
    (h : AccessorPlan.choose type foreign = .ok plan) :
    plan.validate ≠ some "" ∧ Context.readType plan.read ≠ some "" := by
  unfold AccessorPlan.choose at h
  by_cases he : foreign = some ""
  · rw [if_pos he] at h
    cases h
  · rw [if_neg he] at h
    have hread : Context.readType (AccessorPlan.readOf foreign) ≠ some "" := by
      cases foreign with
      | none =>
          intro hn
          cases hn
      | some f => exact he
    match type, foreign with
    | .scalar .number, _ | .scalar .boolean, _ | .array _, _ =>
        cases h
        exact ⟨Option.some_ne_none _ |>.symm, hread⟩
    | .scalar .string, some f | .named _, some f =>
        cases h
        exact ⟨he, he⟩
    | .scalar .string, none =>
        cases h
        exact ⟨by decide, by decide⟩
    | .named _, none => cases h

section
variable {site : Site} {scope : Scope} {s : ClassSpec} {ms : List Value} {m : Method}
  {plan : AccessorPlan}

theorem eval_width (h : Shows scope.lookup "e" (methodFields m plan))
    (hw : ClassText.column m ≤ 0x7FFFFFFFFFFFFFFF) :
    widthExpr.eval scope.lookup = .ok (.int (ClassText.column m)) := by
  have htype : (Expr.filter (field "e" "type") "length" []).eval scope.lookup =
      .ok (.int m.type.tag.length) :=
    Expr.eval_filter (h.eval (v := .text m.type.tag) (by simp [methodFields])) Expr.evalItems_nil
      (by decide) rfl
  have hargument : (Expr.filter (field "e" "param_name") "length" []).eval scope.lookup =
      .ok (.int m.argument.length) :=
    Expr.eval_filter (h.eval (v := .text m.argument) (by simp [methodFields])) Expr.evalItems_nil
      (by decide) rfl
  unfold ClassText.column at hw ⊢
  have hsum := Expr.eval_add htype hargument (by unfold Number.InSignedRange; omega)
    (by unfold Number.InSignedRange; omega) (by unfold Number.InSignedRange; omega)
  have htwelve : (Expr.literal (.number (.int 12))).eval scope.lookup = .ok (.int 12) := rfl
  have hall := Expr.eval_add hsum htwelve (by unfold Number.InSignedRange; omega)
    (by unfold Number.InSignedRange; omega) (by unfold Number.InSignedRange; omega)
  exact hall

theorem eval_argument (h : Shows scope.lookup "e" (methodFields m plan)) :
    argumentExpr.eval scope.lookup =
      .ok (.text (ClassText.braced m.type.tag ++ " " ++ m.argument)) := by
  have hs : Filter.substitute "\x7b%s\x7d %s".toList [.text m.type.tag, .text m.argument] =
      .ok ('\x7b' :: (m.type.tag.toList ++ '\x7d' :: ' ' :: (m.argument.toList ++ []))) := rfl
  refine Expr.eval_filter (Expr.eval_literal _)
    (Expr.evalItems_cons (h.eval (v := .text m.type.tag) (by simp [methodFields]))
      (Expr.evalItems_cons (h.eval (v := .text m.argument) (by simp [methodFields]))
        Expr.evalItems_nil)) (by decide) ((Expr.applyName_format hs).trans ?_)
  rw [ClassText.braced]
  congr 2
  rw [← String.toList_inj]
  simp

/-- A comment line on an argument: the first one stands behind its type and name. -/
theorem prints_argumentRound (h : Shows scope.lookup "e" (methodFields m plan))
    (hc : ClassText.column m ≤ 0x7FFFFFFFFFFFFFFF)
    (hw : scope.lookup "width" = some (.int (ClassText.column m))) {line : String} {k n : Nat} :
    Prints site (scope.enter (loopFrame "d" (.text line) k n)) (Node.elements argumentRound)
      (if k == 0 then
        "     * @param " ++ (ClassText.braced m.type.tag ++ " " ++ m.argument) ++ "  " ++ line ++ "\n"
      else "     * " ++ ClassText.indented (ClassText.column m) line ++ "\n") := by
  have hloop := shows_loop scope "d" (.text line) k n
  have he : Shows (scope.enter (loopFrame "d" (.text line) k n)).lookup "e" (methodFields m plan) :=
    h.loop (by decide) (by decide) (.text line) k n
  have hd : (scope.enter (loopFrame "d" (.text line) k n)).lookup "d" = some (.text line) :=
    Scope.lookup_target (by decide)
  have hwidth : (scope.enter (loopFrame "d" (.text line) k n)).lookup "width" =
      some (.int (ClassText.column m)) := (Scope.lookup_loop_of_ne (by decide) (by decide)).trans hw
  have hindent : (Expr.filter (.var "d") "indent" [.var "width", .literal (.bool true)]).eval
      (scope.enter (loopFrame "d" (.text line) k n)).lookup =
        .ok (.text (ClassText.indented (ClassText.column m) line)) :=
    Expr.eval_filter (Expr.eval_var hd) (Expr.evalItems_cons (Expr.eval_var hwidth)
      (Expr.evalItems_cons (Expr.eval_literal _) Expr.evalItems_nil)) (by decide)
      (Expr.applyName_indent (Nat.lt_succ_of_le hc) _)
  refine Prints.of_eq (prints_choice (hloop.eval (v := .bool (k == 0)) (by simp [loopFields])) ?_
    prints_nil) String.append_empty
  show Prints _ _ (if (k == 0) = true then _ else _) _
  cases k == 0 with
  | true =>
      refine Prints.of_eq (prints_text _ (prints_output (eval_argument he) rfl (prints_text _
        (prints_var hd (prints_text _ prints_nil))))) ?_
      simp [String.append_assoc]
  | false =>
      refine Prints.of_eq (prints_text _ (prints_output hindent rfl (prints_text _ prints_nil))) ?_
      simp [String.append_assoc]

theorem prints_arguments (h : Shows scope.lookup "e" (methodFields m plan))
    (hc : ClassText.column m ≤ 0x7FFFFFFFFFFFFFFF)
    (hw : scope.lookup "width" = some (.int (ClassText.column m))) :
    Prints site scope (Node.elements argumentNodes) (ClassText.argumentLines m) := by
  have hlines : (field "e" "description").eval scope.lookup =
      .ok (.sequence (m.description.map .text)) := h.eval (by simp [methodFields, Value.texts])
  have hnot := Expr.eval_not hlines
  have hempty : Prints site scope
      (if (Value.bool !(Value.sequence (m.description.map .text)).truthy).truthy then
        Node.elements [.text "     * @param ", .output argumentExpr, .text "\n"] else [])
      (if m.description.isEmpty then
        "     * @param " ++ (ClassText.braced m.type.tag ++ " " ++ m.argument) ++ "\n" else "") := by
    cases hd : m.description with
    | nil =>
        refine Prints.of_eq (prints_text _ (prints_output (eval_argument h) rfl (prints_text _
          prints_nil))) ?_
        simp [String.append_assoc]
    | cons line more => exact prints_nil
  refine Prints.of_eq (prints_rounds _ hlines
    (fun k line _ => ⟨_, prints_argumentRound h hc hw⟩) (prints_choice hnot hempty prints_nil)) ?_
  unfold ClassText.argumentLines
  cases m.description with
  | nil => simp
  | cons line more =>
      have hmore (g : String → String) : (more.mapIdx fun k l => if k + 1 == 0 then g l else
          "     * " ++ ClassText.indented (ClassText.column m) l ++ "\n") =
          more.map fun l => "     * " ++ ClassText.indented (ClassText.column m) l ++ "\n" :=
        List.mapIdx_eq_iff.mpr fun i => by simp
      rw [List.mapIdx_cons, String.join_cons, hmore]
      simp [String.append_assoc]

theorem prints_setter (hs : Sees scope s ms) (h : Shows scope.lookup "e" (methodFields m plan)) :
    Prints site scope (Node.elements setterNodes)
      ("     * @return " ++ ClassText.braced s.name ++ "\n     */\n    set" ++ m.title ++ " (" ++
        m.argument ++ ") \x7b\n") := by
  refine Prints.of_eq (prints_text _ (prints_output (eval_braced (Expr.eval_var hs.name)) rfl
    (prints_text _ (prints_field h m.title (by simp [methodFields]) (prints_text _
      (prints_field h m.argument (by simp [methodFields]) (prints_text _ prints_nil))))))) ?_
  simp [String.append_assoc]

theorem prints_check (h : Shows scope.lookup "e" (methodFields m plan))
    (hv : plan.validate ≠ some "") :
    Prints site scope (Node.elements checkNodes) (ClassText.check m plan) := by
  have hvalidate : (field "e" "validate_type").eval scope.lookup =
      .ok (Value.optionalText plan.validate) := h.eval (by simp [methodFields])
  unfold ClassText.check
  cases hp : plan.validate with
  | none =>
      rw [hp] at hvalidate
      exact Prints.of_eq (prints_choice hvalidate prints_nil prints_nil) String.append_empty
  | some type =>
      rw [hp] at hvalidate hv
      have hne : type ≠ "" := fun he => hv (congrArg some he)
      refine Prints.of_eq (prints_optional hvalidate (prints_text _ (prints_output hvalidate rfl
        (prints_text _ (prints_field h m.argument (by simp [methodFields])
          (prints_text _ prints_nil))))) prints_nil) ?_
      simp [hne, String.append_assoc]

theorem prints_stored (hs : Sees scope s ms) (h : Shows scope.lookup "e" (methodFields m plan)) :
    Prints site scope (Node.elements storedNodes)
      (s.name ++ ".KEY_" ++ m.key ++ ", " ++ m.argument ++ ");\n") := by
  refine Prints.of_eq (prints_var hs.name (prints_text _ (prints_field h m.key
    (by simp [methodFields]) (prints_text _ (prints_field h m.argument (by simp [methodFields])
      (prints_text _ prints_nil)))))) ?_
  simp [String.append_assoc]

theorem prints_store (hs : Sees scope s ms) (h : Shows scope.lookup "e" (methodFields m plan)) :
    Prints site scope (Node.elements storeNodes) (ClassText.storage plan.storage ++
      (s.name ++ ".KEY_" ++ m.key ++ ", " ++ m.argument ++ ");\n")) := by
  have hstorage : (field "e" "object_keyed").eval scope.lookup =
      .ok (.bool (plan.storage == .object)) := h.eval (by simp [methodFields])
  refine Prints.of_eq (prints_choice hstorage ?_ prints_nil) String.append_empty
  cases plan.storage with
  | object => exact prints_text _ (prints_stored hs h)
  | parameter => exact prints_text _ (prints_stored hs h)

theorem prints_getter (h : Shows scope.lookup "e" (methodFields m plan)) :
    Prints site scope (Node.elements getterNodes)
      ("        return this;\n    \x7d\n\n    /**\n     * @return " ++
        ClassText.braced m.type.tag ++ "\n     */\n    get" ++ m.title ++ " () \x7b\n") := by
  have htype : (field "e" "type").eval scope.lookup = .ok (.text m.type.tag) :=
    h.eval (by simp [methodFields])
  refine Prints.of_eq (prints_text _ (prints_output (eval_braced htype) rfl (prints_text _
    (prints_field h m.title (by simp [methodFields]) (prints_text _ prints_nil))))) ?_
  simp [String.append_assoc]

theorem prints_key (hs : Sees scope s ms) (h : Shows scope.lookup "e" (methodFields m plan)) :
    Prints site scope (Node.elements keyNodes) (s.name ++ ".KEY_" ++ m.key ++ ");\n") := by
  refine Prints.of_eq (prints_var hs.name (prints_text _ (prints_field h m.key
    (by simp [methodFields]) (prints_text _ prints_nil)))) ?_
  simp [String.append_assoc]

theorem prints_read (hs : Sees scope s ms) (h : Shows scope.lookup "e" (methodFields m plan))
    (hr : Context.readType plan.read ≠ some "") :
    Prints site scope (Node.elements readNodes)
      (ClassText.reading plan.read ++ (s.name ++ ".KEY_" ++ m.key ++ ");\n") ++ "    \x7d\n") := by
  have hread : (field "e" "read_type").eval scope.lookup =
      .ok (Value.optionalText (Context.readType plan.read)) := h.eval (by simp [methodFields])
  refine Prints.of_eq (prints_choice hread ?_ (prints_text "    \x7d\n" prints_nil))
    (congrArg _ String.append_empty)
  cases hp : plan.read with
  | parameter =>
      rw [if_neg (by decide)]
      exact prints_text "        return this.getParameter(" (prints_key hs h)
  | object foreign =>
      rw [hp] at hread hr
      have hne : foreign ≠ "" := fun he => hr (congrArg some he)
      have ht : (Value.text foreign).truthy = true := by
        show (!foreign.isEmpty) = true
        simp [hne]
      have hv : Value.optionalText (Context.readType (.object foreign)) = .text foreign := rfl
      rw [hv] at hread ⊢
      rw [if_pos ht]
      have hargs : Prints site scope (Node.elements (.output (field "e" "read_type") ::
          .text ", " :: keyNodes)) (foreign ++ (", " ++ (s.name ++ ".KEY_" ++ m.key ++ ");\n"))) :=
        prints_output hread rfl (prints_text _ (prints_key hs h))
      refine Prints.of_eq (prints_text "        return this.getObject(" hargs) ?_
      simp only [ClassText.reading_object, String.append_assoc]

theorem prints_pair (hs : Sees scope s ms) (h : Shows scope.lookup "e" (methodFields m plan))
    (hc : ClassText.column m ≤ 0x7FFFFFFFFFFFFFFF)
    (hw : scope.lookup "width" = some (.int (ClassText.column m))) (hp : m.plan = .ok plan) :
    Prints site scope (Node.elements pairNodes) (ClassText.method s.name m plan) := by
  obtain ⟨hvalidate, hread⟩ := ne_empty_of_choose hp
  refine Prints.of_eq (prints_text _ (prints_nodes (prints_arguments h hc hw)
    (prints_nodes (prints_setter hs h) (prints_nodes (prints_check h hvalidate)
      (prints_nodes (prints_store hs h) (prints_nodes (prints_getter h)
        (prints_read hs h hread))))))) ?_
  -- Some texts of the template go on into the next line of the class.
  have hset : "\n     */\n    set" = "\n     */\n" ++ "    set" := by decide
  have hget : "\n     */\n    get" = "\n     */\n" ++ "    get" := by decide
  have hreturn : "        return this;\n    \x7d\n\n    /**\n     * @return " =
      "        return this;\n    \x7d\n" ++ "\n    /**\n     * @return " := by decide
  have hend : ");\n    \x7d\n" = ");\n" ++ "    \x7d\n" := by decide
  unfold ClassText.method ClassText.setter ClassText.getter
  simp only [hset, hget, hreturn, hend, String.append_assoc, -String.reduceAppend]

/-- The round of a method. The width that it assigns is the only change to the variables. -/
theorem prints_method (hs : Sees scope s ms) (hw : ClassText.column m ≤ 0x7FFFFFFFFFFFFFFF)
    (hp : m.plan = .ok plan) (k n : Nat) : ∃ frame,
      renderElements site (scope.enter (loopFrame "e" (Context.ofMethod m plan) k n))
        (Node.elements methodNodes) = .ok (ClassText.method s.name m plan, frame) := by
  have h : Shows (scope.enter (loopFrame "e" (Context.ofMethod m plan) k n)).lookup "e"
      (methodFields m plan) :=
    ⟨Scope.lookup_target (by decide), by unfold methodFields; simp⟩
  have he : "e" ∉ contextNames := by decide
  have hwidth : "width" ∉ contextNames := by decide
  have hs' := (hs.loop he (Context.ofMethod m plan) k n).assign hwidth (.int (ClassText.column m))
  exact ⟨_, renderElements_assign (eval_width h hw) (prints_pair hs' (h.assign (by decide) _) hw
    (Scope.lookup_assign_self _ _ _) hp)⟩

/-- The scripts and the methods of a class with their plans. -/
theorem prints_members {plans : List AccessorPlan}
    (h : Sees scope s (List.zipWith Context.ofMethod s.methods plans))
    (hw : ∀ m ∈ s.methods, ClassText.column m ≤ 0x7FFFFFFFFFFFFFFF)
    (hp : s.methods.mapM Method.plan = .ok plans) :
    Prints site scope (Node.elements memberNodes) (String.join (s.scripts.map ClassText.script) ++
      String.join (List.zipWith (ClassText.method s.name) s.methods plans)) := by
  have hzip {β : Type} (g : Method → AccessorPlan → β) :
      List.zipWith g s.methods plans = (s.methods.zip plans).map fun x => g x.1 x.2 := by
    rw [List.zip_eq_zipWith, List.map_zipWith]
  have hmethods := Expr.eval_var h.methods
  rw [hzip] at hmethods
  have hround (k : Nat) : ∀ x ∈ s.methods.zip plans, ∃ frame,
      renderElements site
        (scope.enter (loopFrame "e" (Context.ofMethod x.1 x.2) k (s.methods.zip plans).length))
        (Node.elements methodNodes) = .ok (ClassText.method s.name x.1 x.2, frame) := by
    intro x hx
    have hplan : x.1.plan = .ok x.2 := List.forall₂_zip (mapM_eq_ok.mp hp) hx
    exact prints_method h (hw _ (List.of_mem_zip hx).1) hplan k _
  refine Prints.of_eq (prints_loop ClassText.script (Expr.eval_var h.scripts)
    (fun _ _ _ => ⟨_, prints_scriptRound⟩) (prints_loop _ hmethods hround prints_nil)) ?_
  rw [String.append_empty, hzip]

end

/-! ### Blocks -/

section
variable {scope : Scope} {s : ClassSpec} {plans : List AccessorPlan} {leaf : String}
  {constructor : List Node}

theorem render_accessors
    (hc : ∀ site scope, Sees scope s (List.zipWith Context.ofMethod s.methods plans) →
      Prints site scope (Node.elements constructor) (ClassText.constructor s))
    (hw : ∀ m ∈ s.methods, ClassText.column m ≤ 0x7FFFFFFFFFFFFFFF)
    (hp : s.methods.mapM Method.plan = .ok plans) :
    render (composedAccessors leaf constructor) s.name
      (Value.ofFields (contextFields s (List.zipWith Context.ofMethod s.methods plans))) =
        .ok (ClassText.accessors s plans) := by
  have hs := sees_context s (List.zipWith Context.ofMethod s.methods plans)
  have hbody : renderSlot (composedAccessors leaf constructor) s.name []
      ⟨[], [Value.ofFields (contextFields s (List.zipWith Context.ofMethod s.methods plans))]⟩ "body" =
        .ok (ClassText.constructorLines s ++ (String.join (s.scripts.map ClassText.script) ++
          String.join (List.zipWith (ClassText.method s.name) s.methods plans))) := by
    refine renderSlot_eq rfl rfl (Prints.of_eq (prints_text _ (prints_slot
      (renderSlot_eq (by decide) rfl (hc _ _ hs.enter.enter)) (prints_members hs.enter hw hp))) ?_)
    unfold ClassText.constructorLines constructorComment
    rw [String.append_assoc]
  refine render_eq (Prints.of_eq (prints_base hs (renderSlot_eq rfl rfl (prints_description hs.enter))
    hbody (renderSlot_eq rfl rfl (prints_constants hs.enter))) ?_)
  unfold ClassText.accessors
  simp only [String.append_assoc]

end

/-! ### Structures and functions -/

/-- A structure or a function is emitted exactly if all its methods have plans, and its text is then
the one that the specification and the plans say. The bound on the columns is the one that the sum in
the template checks: a signed word of 64 bits, which no text in memory is too long for. -/
theorem emit_accessors (s : ClassSpec) (hk : s.kind = .struct ∨ s.kind = .function)
    (hw : ∀ m ∈ s.methods, ClassText.column m ≤ 0x7FFFFFFFFFFFFFFF) :
    ∃ e, Emitter.shipped = .ok e ∧
      ((∃ text, e.emit s = .ok text) ↔ ∀ m ∈ s.methods, ∃ plan, m.plan = .ok plan) ∧
      ∀ plans, s.methods.mapM Method.plan = .ok plans →
        e.emit s = .ok (ClassText.accessors s plans) := by
  obtain ⟨e, he, ht, hn⟩ := shipped_standard
  refine ⟨e, he, ?_⟩
  rcases hk with hk | hk
  · have hc : e.chainFor s.kind = .ok ⟨"base_template", ["base_struct_function", "struct_template"]⟩ := by
      rw [Emitter.chainFor, hn, hk]
      exact chainFor_struct ht
    exact emit_eq _ hc (resolve_struct ht) fun plans hp =>
      render_accessors (fun _ _ _ => prints_structConstructor hk) hw hp
  · have hc : e.chainFor s.kind =
        .ok ⟨"base_template", ["base_struct_function", "function_template"]⟩ := by
      rw [Emitter.chainFor, hn, hk]
      exact chainFor_function ht
    exact emit_eq _ hc (resolve_function ht) fun plans hp =>
      render_accessors (fun _ _ hs => prints_functionConstructor hs hk) hw hp

/-- A structure with an import, a checked text and an object. -/
def button : ClassSpec :=
  ⟨"SoftButton", .struct, "", "RpcStruct", [⟨"RpcStruct", "../RpcStruct.js"⟩],
    [⟨"TEXT", .text "text", []⟩, ⟨"IMAGE", .text "image", []⟩],
    [⟨"TEXT", "text", .scalar .string, "Text", ["The button label,", "in one line"], none, "text"⟩,
      ⟨"IMAGE", "image", .named "Image", "Image", [], some "Image", "image"⟩],
    [], none⟩

theorem emit_accessors_button :
    (button.kind = .struct ∨ button.kind = .function) ∧
    (∀ m ∈ button.methods, ClassText.column m ≤ 0x7FFFFFFFFFFFFFFF) ∧
    ∃ e, Emitter.shipped = .ok e ∧ e.emit button = .ok
      ("/* Generated by classgen. Do not edit. */\n\n" ++
        "import \x7b RpcStruct \x7d from '../RpcStruct.js';\n\n" ++
        "class SoftButton extends RpcStruct \x7b\n    /**\n     * @constructor\n     */\n" ++
        "    constructor (parameters) \x7b\n        super(parameters);\n    \x7d\n\n" ++
        "    /**\n     * @param \x7bString\x7d text  The button label,\n" ++
        "     *                       in one line\n     * @return \x7bSoftButton\x7d\n     */\n" ++
        "    setText (text) \x7b\n        this.validateType(String, text);\n" ++
        "        this.setParameter(SoftButton.KEY_TEXT, text);\n        return this;\n    \x7d\n\n" ++
        "    /**\n     * @return \x7bString\x7d\n     */\n" ++
        "    getText () \x7b\n        return this.getParameter(SoftButton.KEY_TEXT);\n    \x7d\n\n" ++
        "    /**\n     * @param \x7bImage\x7d image\n     * @return \x7bSoftButton\x7d\n     */\n" ++
        "    setImage (image) \x7b\n        this.validateType(Image, image);\n" ++
        "        this.setValue(SoftButton.KEY_IMAGE, image);\n        return this;\n    \x7d\n\n" ++
        "    /**\n     * @return \x7bImage\x7d\n     */\n" ++
        "    getImage () \x7b\n        return this.getObject(Image, SoftButton.KEY_IMAGE);\n    \x7d\n" ++
        "\x7d\n\nSoftButton.KEY_TEXT = 'text';\nSoftButton.KEY_IMAGE = 'image';\n\n" ++
        "export \x7b SoftButton \x7d;\n") := by
  have hk : button.kind = .struct ∨ button.kind = .function := .inl rfl
  have hw : ∀ m ∈ button.methods, ClassText.column m ≤ 0x7FFFFFFFFFFFFFFF := by decide +kernel
  obtain ⟨e, he, _, htext⟩ := emit_accessors button hk hw
  refine ⟨hk, hw, e, he, ?_⟩
  rw [htext [⟨.parameter, some "String", .parameter⟩, ⟨.object, some "Image", .object "Image"⟩] rfl]
  refine congrArg Except.ok ?_
  decide +kernel

end ClassScribe.Shipped
