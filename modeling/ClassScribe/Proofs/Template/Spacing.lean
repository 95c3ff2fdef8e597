import ClassScribe.Proofs.Template.Likeness
import ClassScribe.Proofs.Text.Splitting

/-! # Options for white space

The options for white space change nothing but white space. Reading parts with other texts gives the
template with these texts (`run_reword`), and without white space the parts are the same under all
options (`inked_apply`); so a source is parsed to templates that are the same without white space, and these
are composed and rendered alike (`render_spacing`). -/

namespace ClassScribe.Template

/-! ### Reading parts with other texts -/

namespace Progress

variable {word : Wording} {p : Progress}

theorem push_reword {e : Element} (he : rewordElement word e = [e]) :
    (p.push e).reword word = (p.reword word).push e := by
  unfold push reword
  rw [rewordElements_append, rewordElements, he]
  rfl

theorem push_text_reword (s : String) : Except.ok ((p.push (.text s)).reword word) =
    (p.reword word).run ((word s).toList.map (.text ·.toList)) := by
  have helements : (p.push (.text s)).reword word =
      { p.reword word with
        elements := rewordElements word p.elements ++ (word s).toList.map .text } := by
    unfold push reword
    rw [rewordElements_append, rewordElements, rewordElement, rewordElements, List.append_nil]
  rw [helements]
  cases word s with
  | none =>
      show Except.ok (Progress.mk _ _ _ (_ ++ [])) = _
      rw [List.append_nil]
      rfl
  | some t =>
      show _ = Except.ok (push _ (.text (String.ofList t.toList)))
      rw [String.ofList_toList]
      rfl

theorem leave_reword (outer : List Opened) (before : List Element) {e e' : Element}
    (he : rewordElement word e = [e']) :
    (p.leave outer before e).reword word =
      (p.reword word).leave (outer.map (·.reword word)) (rewordElements word before) e' := by
  unfold leave reword
  rw [rewordElements_append]
  show _ = Progress.mk _ _ _ (_ ++ [e'])
  rw [rewordElements, he]
  rfl

theorem enter_reword {construct : Construct} (hc : Construct.reword word construct = construct)
    (line : Nat) : (p.enter construct line).reword word = (p.reword word).enter construct line := by
  unfold enter reword
  rw [List.map_cons, Opened.reword, hc]
  rfl

theorem readExtends_reword (rest : List Char) (line : Nat) :
    readExtends (p.reword word) rest line = (readExtends p rest line).map (·.reword word) := by
  unfold readExtends
  show (if !(p.opened.map (·.reword word)).isEmpty then _ else if p.parent.isSome then _ else _) = _
  rw [List.isEmpty_map]
  split
  · rfl
  · split
    · rfl
    · split <;> rfl

theorem openBlock_reword (name : String) (required : Bool) (line : Nat) :
    openBlock (p.reword word) name required line =
      (openBlock p name required line).map (·.reword word) := by
  have hnames : (p.reword word).blocks.any (·.name == name) = p.blocks.any (·.name == name) := by
    show (p.blocks.map (·.reword word)).any (·.name == name) = _
    rw [List.any_map]
    rfl
  unfold openBlock
  rw [hnames]
  split
  · rfl
  · show _ = Except.ok ((Progress.enter _ (.block name) line).reword word)
    rw [enter_reword rfl]
    unfold reword
    rw [List.map_append]
    rfl

theorem readBlock_reword (rest : List Char) (line : Nat) :
    readBlock (p.reword word) rest line = (readBlock p rest line).map (·.reword word) := by
  unfold readBlock
  split
  · rfl
  · split
    · rfl
    · split
      · exact openBlock_reword _ _ _
      · split
        · exact openBlock_reword _ _ _
        · rfl

theorem readFor_reword (rest : List Char) (line : Nat) :
    readFor (p.reword word) rest line = (readFor p rest line).map (·.reword word) := by
  unfold readFor
  split
  · rfl
  · next target items _ =>
      dsimp only
      split
      · rfl
      · cases expression items line with
        | error err => rfl
        | ok e => exact congrArg Except.ok (enter_reword rfl line).symm

theorem readIf_reword (rest : List Char) (line : Nat) :
    readIf (p.reword word) rest line = (readIf p rest line).map (·.reword word) := by
  unfold readIf
  cases expression rest line with
  | error err => rfl
  | ok e => exact congrArg Except.ok (enter_reword rfl line).symm

theorem readSet_reword (rest : List Char) (line : Nat) :
    readSet (p.reword word) rest line = (readSet p rest line).map (·.reword word) := by
  unfold readSet
  split
  · rfl
  · next name value _ =>
      dsimp only
      split
      · rfl
      · cases expression value line with
        | error err => rfl
        | ok e => exact congrArg Except.ok (push_reword rfl).symm

theorem readOther_reword (keyword rest : List Char) (line : Nat) :
    readOther (p.reword word) keyword rest line =
      (readOther p keyword rest line).map (·.reword word) := by
  unfold readOther
  dsimp only
  rw [readExtends_reword, readBlock_reword, readFor_reword, readIf_reword, readSet_reword]
  split_ifs <;> rfl

theorem setBody_reword (name : String) (body : List Element) (blocks : List Block) :
    (setBody name body blocks).map (·.reword word) =
      setBody name (rewordElements word body) (blocks.map (·.reword word)) := by
  unfold setBody
  rw [List.map_map, List.map_map]
  apply List.map_congr_left
  intro b _
  show Block.reword (if b.name = name then _ else _) word = if b.name = name then _ else _
  split <;> rfl

theorem readInside_reword (o : Opened) (outer : List Opened) (keyword rest : List Char) (line : Nat) :
    readInside (p.reword word) (o.reword word) (outer.map (·.reword word)) keyword rest line =
      (readInside p o outer keyword rest line).map (·.reword word) := by
  obtain ⟨construct, opening, before⟩ := o
  unfold readInside
  dsimp only
  cases construct with
  | block name =>
      dsimp only [Opened.reword, Construct.reword]
      rw [readOther_reword]
      split_ifs
      · rfl
      · show _ = Except.ok ((Progress.leave _ outer before (.slot name)).reword word)
        rw [leave_reword outer before rfl]
        unfold reword
        rw [setBody_reword]
        rfl
      · rfl
  | loop target items =>
      dsimp only [Opened.reword, Construct.reword]
      rw [readOther_reword]
      split_ifs
      · exact congrArg Except.ok (leave_reword outer before rfl).symm
      · rfl
  | branch done condition =>
      have hbranches : rewordBranches word (done ++ [(condition, p.elements)]) =
          rewordBranches word done ++ [(condition, (p.reword word).elements)] :=
        rewordBranches_append done [(condition, p.elements)]
      have he : rewordElement word (.choice (done ++ [(condition, p.elements)]) []) =
          [.choice (rewordBranches word (done ++ [(condition, p.elements)])) []] := rfl
      dsimp only [Opened.reword, Construct.reword]
      rw [readOther_reword, ← hbranches]
      split_ifs
      · cases expression rest line with
        | error err => rfl
        | ok next => rfl
      · rfl
      · exact congrArg Except.ok (leave_reword outer before he).symm
      · rfl
  | otherwise branches =>
      dsimp only [Opened.reword, Construct.reword]
      rw [readOther_reword]
      split_ifs
      · exact congrArg Except.ok (leave_reword outer before rfl).symm
      · rfl

theorem readStatement_reword (source : List Char) (line : Nat) :
    readStatement (p.reword word) source line = (readStatement p source line).map (·.reword word) := by
  obtain ⟨parent, blocks, opened, elements⟩ := p
  cases opened with
  | nil => exact readOther_reword _ _ _
  | cons o outer => exact readInside_reword o outer _ _ _

theorem insideBlock_reword : (p.reword word).insideBlock = p.insideBlock := by
  unfold insideBlock
  show (p.opened.map (·.reword word)).any _ = _
  rw [List.any_map]
  congr 1
  funext o
  obtain ⟨construct, line, before⟩ := o
  cases construct <;> rfl

theorem readOutput_reword (source : List Char) (line : Nat) :
    readOutput (p.reword word) source line = (readOutput p source line).map (·.reword word) := by
  unfold readOutput
  rw [insideBlock_reword]
  split_ifs
  · exact congrArg Except.ok (push_reword rfl).symm
  · rfl
  · cases expression source line with
    | error err => rfl
    | ok e => exact congrArg Except.ok (push_reword rfl).symm

theorem run_singleton (p : Progress) (part : Part) : p.run [part] = p.step part := by
  rw [run]
  cases p.step part <;> rfl

theorem run_append (p : Progress) (ps qs : List Part) : p.run (ps ++ qs) = p.run ps >>= (·.run qs) := by
  induction ps generalizing p with
  | nil => rfl
  | cons part ps ih =>
      rw [List.cons_append, run, run]
      cases p.step part with
      | error err => rfl
      | ok q => exact ih q

theorem step_reword (part : Part) :
    (p.reword word).run (Part.reword word part) = (p.step part).map (·.reword word) := by
  cases part with
  | text s => exact (push_text_reword (String.ofList s)).symm
  | output source line =>
      show (p.reword word).run [.output source line] = _
      rw [run_singleton]
      exact readOutput_reword source line
  | statement source line =>
      show (p.reword word).run [.statement source line] = _
      rw [run_singleton]
      exact readStatement_reword source line

theorem run_reword (parts : List Part) :
    (p.reword word).run (parts.flatMap (Part.reword word)) = (p.run parts).map (·.reword word) := by
  induction parts generalizing p with
  | nil => rfl
  | cons part parts ih =>
      rw [List.flatMap_cons, run_append, step_reword, run]
      exact bind_map_result fun q => ih

theorem finish_reword (name : String) :
    (p.reword word).finish name = (p.finish name).map (·.reword word) := by
  obtain ⟨parent, blocks, opened, elements⟩ := p
  cases opened with
  | nil => rfl
  | cons o outer =>
      obtain ⟨construct, line, before⟩ := o
      cases construct <;> rfl

end Progress

/-! ### Texts without white space -/

section
open Text

namespace Spacing

theorem ink_of_dropLineEnd? {s rest : List Char} (h : dropLineEnd? s = some rest) :
    ink rest = ink s := by
  unfold dropLineEnd? at h
  split at h
  · next more =>
      cases h
      have hblank : AllBlank ['\r', '\n'] := List.all_eq_true.mp (by decide)
      show ink rest = ink (['\r', '\n'] ++ rest)
      rw [ink_append, ink_of_allBlank hblank, List.nil_append]
  · next more =>
      cases h
      have hblank : AllBlank ['\n'] := List.all_eq_true.mp (by decide)
      show ink rest = ink (['\n'] ++ rest)
      rw [ink_append, ink_of_allBlank hblank, List.nil_append]
  · cases h

theorem isBlank_of_isIndentation {c : Char} (h : isIndentation c = true) : isBlank c = true := by
  rcases Bool.or_eq_true_iff.mp h with hc | hc
  · rw [beq_iff_eq.mp hc]
    decide
  · rw [beq_iff_eq.mp hc]
    decide

theorem ink_dropIndentation (atLineStart : Bool) (s : List Char) :
    ink (dropIndentation atLineStart s) = ink s := by
  unfold dropIndentation
  dsimp only
  split
  · next h =>
      have hall := List.all_eq_true.mp (Bool.and_eq_true_iff.mp h).2
      have hblank : AllBlank (s.reverse.takeWhile (· != '\n')).reverse := by
        intro c hc
        exact isBlank_of_isIndentation (hall c (List.mem_reverse.mp hc))
      have hs : s = (s.reverse.dropWhile (· != '\n')).reverse ++
          (s.reverse.takeWhile (· != '\n')).reverse := by
        rw [← List.reverse_append, List.takeWhile_append_dropWhile, List.reverse_reverse]
      conv_rhs => rw [hs, ink_append, ink_of_allBlank hblank, List.append_nil]
  · rfl

theorem ink_after (options : Spacing) (tag : Tag) (s : List Char) :
    ink (after options tag s).1 = ink s := by
  unfold after
  split_ifs
  · exact ink_trimStart s
  · split
    · next hrest => exact ink_of_dropLineEnd? hrest
    · rfl
  · rfl

theorem ink_before (options : Spacing) (tag : Tag) (atLineStart : Bool) (s : List Char) :
    ink (before options tag atLineStart s) = ink s := by
  unfold before
  split_ifs
  · exact ink_trimEnd s
  · exact ink_dropIndentation atLineStart s
  · rfl

/-- What the options take away between two tags is white space. -/
theorem ink_between (options : Spacing) (previous next : Option Tag) (s : List Char) :
    ink (between options previous next s) = ink s := by
  unfold between
  cases previous with
  | none =>
      cases next with
      | none => rfl
      | some tag => exact ink_before options tag true s
  | some last =>
      have hafter := ink_after options last s
      cases next with
      | none => exact hafter
      | some tag => exact (ink_before options tag _ _).trans hafter

theorem inked_ofList (s : List Char) :
    inked (String.ofList s) = if (ink s).isEmpty then none else some (String.ofList (ink s)) := by
  unfold inked
  rw [String.toList_ofList]

theorem inked_textParts (s : List Char) :
    (textParts s).flatMap (Part.reword inked) = textParts (ink s) := by
  unfold textParts
  cases s with
  | nil => rfl
  | cons c s =>
      show (inked (String.ofList (c :: s))).toList.map (Part.text ·.toList) ++ [] = _
      rw [List.append_nil, inked_ofList]
      split
      · rfl
      · show [Part.text (String.ofList (ink (c :: s))).toList] = _
        rw [String.toList_ofList]

/-- Without white space, the parts of pieces are the same under all options. -/
theorem inked_applyFrom (options options' : Spacing) (pieces : List Piece) (previous previous' : Option Tag) :
    (applyFrom options previous pieces).flatMap (Part.reword inked) =
      (applyFrom options' previous' pieces).flatMap (Part.reword inked) := by
  induction pieces generalizing previous previous' with
  | nil => rfl
  | cons piece pieces ih =>
      cases piece with
      | tag tag =>
          rw [applyFrom, applyFrom, List.flatMap_append, List.flatMap_append, ih (some tag) (some tag)]
      | text s =>
          rw [applyFrom, applyFrom, List.flatMap_append, List.flatMap_append, ih none none,
            inked_textParts, inked_textParts, ink_between, ink_between]

end Spacing
end

/-! ### Sources -/

theorem parseChars_inked (options options' : Spacing) (name : String) (source : List Char) :
    (parseChars options name source).map (·.reword inked) =
      (parseChars options' name source).map (·.reword inked) := by
  unfold parseChars
  cases Piece.cut source with
  | error fault => rfl
  | ok pieces =>
      have hrun : (Progress.start.run (options.apply pieces)).map (·.reword inked) =
          (Progress.start.run (options'.apply pieces)).map (·.reword inked) := by
        rw [← Progress.run_reword, ← Progress.run_reword]
        exact congrArg _ (Spacing.inked_applyFrom options options' pieces none none)
      have hfinish (x : Progress.Result Progress) :
          (x >>= (·.finish name)).map (·.reword inked) = x.map (·.reword inked) >>= (·.finish name) :=
        (bind_map_result fun p => p.finish_reword name).symm
      show (Progress.start.run (options.apply pieces) >>= (·.finish name)).map _ =
        (Progress.start.run (options'.apply pieces) >>= (·.finish name)).map _
      rw [hfinish, hfinish, hrun]

/-- A source is parsed under all options to the same template without white space, or fails under all of
them. -/
theorem parse_inked (options options' : Spacing) (name content : String) :
    Alike Eq (fun t t' => t.reword inked = t'.reword inked) (parse options name content)
      (parse options' name content) := by
  have h := Alike.of_map_eq (parseChars_inked options options' name content.toList)
  unfold parse
  generalize parseChars options name content.toList = x at h
  generalize parseChars options' name content.toList = x' at h
  cases h with
  | ok ht => exact .ok ht
  | error he =>
      rw [he]
      exact .error rfl

/-! ### Chains -/

/-- The templates that named sources are parsed to under some options. -/
def parsed (options : Spacing) (contents : String → Option String) : String → Option Template :=
  fun name => (contents name).bind fun content => (parse options name content).toOption

theorem parsed_inked (options options' : Spacing) (contents : String → Option String) :
    (fun name => (parsed options contents name).map (·.reword inked)) =
      fun name => (parsed options' contents name).map (·.reword inked) := by
  funext name
  unfold parsed
  cases contents name with
  | none => rfl
  | some content =>
      have h := parse_inked options options' name content
      show (parse options name content).toOption.map _ = (parse options' name content).toOption.map _
      generalize parse options name content = x at h
      generalize parse options' name content = x' at h
      cases h with
      | ok ht => exact congrArg some ht
      | error _ => rfl

theorem inked_keeps : Wording.Keeps (!Text.isBlank ·) inked := by
  intro s
  show Text.ink s.toList = Text.ink ((inked s).getD "").toList
  unfold inked
  split
  · next hempty => exact List.isEmpty_iff.mp hempty
  · rw [Option.getD_some, String.toList_ofList, Text.ink_ink]

/-- What is composed under two options is rendered alike, if it is the same without white space. -/
theorem render_inked {r r' : Resolved} (h : r.reword inked = r'.reword inked) (className : String)
    (context : Frame) :
    Alike Eq (fun s t => Text.ink s.toList = Text.ink t.toList) (render r className context)
      (render r' className context) := by
  have halike (r : Resolved) : Alike Eq (SameKept (!Text.isBlank ·)) (render r className context)
      (render (r.reword inked) className context) :=
    render_alike (.reword r inked) ⟨fun _ _ _ => rfl, fun _ _ => rfl, fun _ => rfl⟩ inked_keeps className context
  have hright := halike r'
  rw [← h] at hright
  apply (halike r).join hright
  · rintro e d _ rfl rfl
    rfl
  · intro s t _ hs ht
    exact hs.trans ht.symm

/-- The options for white space change nothing but white space. A source is parsed under two options, or
fails under both with the same error. A chain of the templates is composed under both, or fails with the
same error; and for every class and context the two have texts that are equal without their white space, or
fail with the same error. -/
theorem spacing_spares_ink (contents : String → Option String) (options options' : Spacing) :
    (∀ name content, Alike Eq (fun t t' => t.reword inked = t'.reword inked)
      (parse options name content) (parse options' name content)) ∧
    ∀ chain, Alike Eq (fun r r' => ∀ className context,
        Alike Eq (fun s t => Text.ink s.toList = Text.ink t.toList) (render r className context)
          (render r' className context))
      (compose (parsed options contents) chain) (compose (parsed options' contents) chain) := by
  constructor
  · intro name content
    exact parse_inked options options' name content
  · intro chain
    have h : (compose (parsed options contents) chain).map (·.reword inked) =
        (compose (parsed options' contents) chain).map (·.reword inked) := by
      rw [← compose_reword, ← compose_reword, parsed_inked]
    apply (Alike.of_map_eq h).mono
    intro r r' hr className context
    exact render_inked hr className context

end ClassScribe.Template
