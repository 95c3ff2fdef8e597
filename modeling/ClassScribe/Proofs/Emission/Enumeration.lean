import ClassScribe.Proofs.Emission.Pieces
import ClassScribe.Proofs.Emission.Shipped

/-! # The text of enumerations

An enumeration is emitted exactly if there is a decision for each of its methods, though it shows none
of them. Its text is the one that its specification says (`ClassText.enumeration`), where the getters,
the map and the table of the enumeration have the same keys. -/

namespace ClassScribe.Shipped
open Template

section
variable {site : Site} {scope : Scope} {s : ClassSpec} {ms : List Value}

theorem prints_typedef (h : Sees scope s ms) :
    Prints site scope (Node.elements typedefNodes) (ClassText.typedef s) := by
  refine Prints.of_eq (prints_text _ (prints_optional (Expr.eval_var h.description)
    (prints_text _ (prints_var h.description (prints_text _ prints_nil)))
    (prints_text _ (prints_output (eval_braced (Expr.eval_var h.parent)) rfl
      (prints_text _ (prints_var h.name (prints_text _ prints_nil))))))) ?_
  simp [ClassText.typedef, String.append_assoc]

theorem prints_entry (h : Sees scope s ms) (p : Param) (k n : Nat) :
    Prints site (scope.enter (loopFrame "p" (Context.ofParam p) k n)) (Node.elements entryNodes)
      (ClassText.EntryGetter.text s.name ⟨p.key, p.value.tag, p.description⟩) := by
  have hp : Shows (scope.enter (loopFrame "p" (Context.ofParam p) k n)).lookup "p" (paramFields p) :=
    shows_param
  have hname : (scope.enter (loopFrame "p" (Context.ofParam p) k n)).lookup "name" =
      some (.text s.name) := (h.loop (by decide) _ k n).name
  have hlines : (field "p" "description").eval
      (scope.enter (loopFrame "p" (Context.ofParam p) k n)).lookup =
        .ok (.sequence (p.description.map .text)) := hp.eval (by simp [paramFields, Value.texts])
  have htype : (field "p" "type").eval (scope.enter (loopFrame "p" (Context.ofParam p) k n)).lookup =
      .ok (.text p.value.tag) := hp.eval (by simp [paramFields])
  have hgetter : Prints site (scope.enter (loopFrame "p" (Context.ofParam p) k n)) (Node.elements
      [.text "     * @return ", .output (braced (field "p" "type")), .text "\n     */\n    static get ",
        .output (field "p" "key"), .text " () \x7b\n        return ", .output (.var "name"),
        .text "._MAP.", .output (field "p" "key"), .text ";\n    \x7d\n"])
      ("     * @return " ++ ClassText.braced p.value.tag ++ "\n     */\n    static get " ++ p.key ++
        " () \x7b\n        return " ++ s.name ++ "._MAP." ++ p.key ++ ";\n    \x7d\n") := by
    refine Prints.of_eq (prints_text _ (prints_output (eval_braced htype) rfl (prints_text _
      (prints_field hp p.key (by simp [paramFields]) (prints_text _ (prints_var hname (prints_text _
        (prints_field hp p.key (by simp [paramFields]) (prints_text _ prints_nil))))))))) ?_
    simp [String.append_assoc]
  refine Prints.of_eq (prints_text _ (prints_loop (fun line => "     * " ++ (line ++ "\n")) hlines
    (fun _ _ _ => ⟨_, prints_text _ (prints_var (Scope.lookup_target (by decide))
      (prints_text _ prints_nil))⟩) hgetter)) ?_
  unfold ClassText.EntryGetter.text
  simp [String.append_assoc]

theorem prints_lookup (h : Sees scope s ms) :
    Prints site scope (Node.elements lookupNodes) (ClassText.valueForString s.name) := by
  refine Prints.of_eq (prints_text _ (prints_var h.name (prints_text _ (prints_var h.name
    (prints_text _ prints_nil))))) ?_
  unfold ClassText.valueForString
  simp [String.append_assoc]

theorem prints_map (h : Sees scope s ms) :
    Prints site scope (Node.elements mapNodes) (ClassText.map s) := by
  have hround (k n : Nat) (p : Param) : Prints site
      (scope.enter (loopFrame "p" (Context.ofParam p) k n)) (Node.elements mapRound)
      (ClassText.MapEntry.text ⟨p.key, p.value.literal⟩) := by
    refine Prints.of_eq (prints_text _ (prints_field shows_param p.key (by simp [paramFields])
      (prints_text _ (prints_field shows_param p.value.literal (by simp [paramFields])
        (prints_text _ prints_nil))))) ?_
    simp [ClassText.MapEntry.text, String.append_assoc]
  refine Prints.of_eq (prints_text _ (prints_var h.name (prints_text _ (prints_loop _
    (Expr.eval_var h.params) (fun k p _ => ⟨_, hround k _ p⟩) (prints_text _ prints_nil))))) ?_
  unfold ClassText.map ClassText.entries
  rw [List.map_map]
  simp [String.append_assoc, Function.comp_def]

theorem prints_enumerationBody (h : Sees scope s ms) (hk : s.kind = .enum) :
    Prints site scope (Node.elements enumerationBody) (ClassText.constructorLines s ++
      String.join ((ClassText.getters s.params).map (ClassText.EntryGetter.text s.name)) ++
      ClassText.valueForString s.name) := by
  refine Prints.of_eq (prints_text _ (prints_loop _ (Expr.eval_var h.params)
    (fun k p _ => ⟨_, prints_entry h p k _⟩) (prints_lookup h))) ?_
  have hconstructor : constructorComment ++ enumConstructor = ClassText.constructorLines s := by
    unfold ClassText.constructorLines ClassText.constructor
    rw [hk]
    rfl
  rw [hconstructor, ClassText.getters, List.map_map, String.append_assoc]
  rfl

end

theorem render_enumeration {s : ClassSpec} (hk : s.kind = .enum) (ms : List Value) :
    render composedEnumeration s.name (Value.ofFields (contextFields s ms)) =
      .ok (ClassText.enumeration s) := by
  have hs := sees_context s ms
  refine render_eq (Prints.of_eq (prints_base hs (renderSlot_eq rfl rfl (prints_typedef hs.enter))
    (renderSlot_eq rfl rfl (prints_enumerationBody hs.enter hk))
    (renderSlot_eq rfl rfl (prints_map hs.enter))) ?_)
  unfold ClassText.enumeration
  simp only [String.append_assoc]

/-- An enumeration is emitted exactly if all its methods have plans, and its text is then the one that
the specification says. The getters, the map and the table go through the same keys. -/
theorem emit_enumeration (s : ClassSpec) (hk : s.kind = .enum) :
    ∃ e, Emitter.shipped = .ok e ∧
      ((∃ text, e.emit s = .ok text) ↔ ∀ m ∈ s.methods, ∃ plan, m.plan = .ok plan) ∧
      ((∀ m ∈ s.methods, ∃ plan, m.plan = .ok plan) → e.emit s = .ok (ClassText.enumeration s)) ∧
      (ClassText.getters s.params).map (·.key) = (ClassText.entries s.params).map (·.key) ∧
      (ClassText.entries s.params).map (·.key) = (EnumTable.ofParams s.params).keys := by
  obtain ⟨e, he, ht, hn⟩ := shipped_standard
  have hc : e.chainFor s.kind = .ok ⟨"base_template", ["enum_template"]⟩ := by
    rw [Emitter.chainFor, hn, hk]
    exact chainFor_enum ht
  obtain ⟨hiff, htext⟩ := emit_eq (fun _ => ClassText.enumeration s) hc (resolve_enum ht)
    fun _ _ => render_enumeration hk _
  refine ⟨e, he, hiff, ?_, ?_, ?_⟩
  · intro hall
    obtain ⟨plans, hp⟩ := mapM_ok_iff.mpr hall
    exact htext plans hp
  · simp [ClassText.getters, ClassText.entries]
  · simp [ClassText.entries, EnumTable.ofParams, EnumTable.keys]

/-- An enumeration of two numbers, the first one with a comment, and with a method that it does not
show. -/
def light : ClassSpec :=
  ⟨"Light", .enum, "", "Enum", [],
    [⟨"FOO", .number (.int 1), ["The first light mode"]⟩, ⟨"BAR", .number (.int 2), []⟩],
    [⟨"FOO", "foo", .scalar .number, "Foo", [], none, "foo"⟩], [], none⟩

theorem emit_enumeration_light :
    light.kind = .enum ∧ ∃ e, Emitter.shipped = .ok e ∧ e.emit light = .ok
      ("/* Generated by classgen. Do not edit. */\n\n/**\n * @typedef \x7bEnum\x7d Light\n" ++
        " * @property \x7bObject\x7d _MAP\n */\nclass Light extends Enum \x7b\n" ++
        "    /**\n     * @constructor\n     */\n    constructor () \x7b\n        super();\n    \x7d\n\n" ++
        "    /**\n     * The first light mode\n     * @return \x7bNumber\x7d\n     */\n" ++
        "    static get FOO () \x7b\n        return Light._MAP.FOO;\n    \x7d\n\n" ++
        "    /**\n     * @return \x7bNumber\x7d\n     */\n" ++
        "    static get BAR () \x7b\n        return Light._MAP.BAR;\n    \x7d\n\n" ++
        "    /**\n     * Get the key whose value matches, in declaration order\n" ++
        "     * @param \x7bString\x7d value\n" ++
        "     * @return \x7bnull|String\x7d - Returns null if no enum value matches\n     */\n" ++
        "    static valueForString (value) \x7b\n        for (const key in Light._MAP) \x7b\n" ++
        "            if (String(Light._MAP[key]) === value) \x7b\n" ++
        "                return key;\n            \x7d\n        \x7d\n" ++
        "        return null;\n    \x7d\n\x7d\n\n" ++
        "Light._MAP = Object.freeze(\x7b\n    'FOO': 1,\n    'BAR': 2,\n\x7d);\n\n" ++
        "export \x7b Light \x7d;\n") ∧
      (EnumTable.ofParams light.params).keys = ["FOO", "BAR"] := by
  have hk : light.kind = .enum := rfl
  obtain ⟨e, he, _, htext, hgetters, hentries⟩ := emit_enumeration light hk
  have hplan : ∀ m ∈ light.methods, ∃ plan, m.plan = .ok plan := by
    intro m hm
    rw [List.mem_singleton.mp hm]
    exact ⟨_, rfl⟩
  refine ⟨hk, e, he, ?_, ?_⟩
  · rw [htext hplan]
    refine congrArg Except.ok ?_
    decide +kernel
  · rw [← hentries, ← hgetters]
    rfl

end ClassScribe.Shipped
