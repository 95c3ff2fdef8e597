import ClassScribe.Proofs.Outcome
import ClassScribe.Proofs.Text.Splitting
import ClassScribe.Template.Grammar

/-! # What statements do

Every text that is a statement has one effect on what has been read (`Moves`), and the parser takes
just the texts that are statements and can have their effect (`step_statement_iff`). -/

namespace ClassScribe.Template

/-! ### Texts of statements -/

namespace Part

/-- The first word of a statement. -/
def keyword (source : List Char) : List Char := (Text.splitAtBlank source).1

/-- What follows the first word of a statement. -/
def argument (source : List Char) : List Char := Text.trim (Text.splitAtBlank source).2

end Part

open Progress Template.Part

variable {p q : Progress} {source s : List Char} {line : Nat} {e : Expr}

/-- The words that close or continue a construct. -/
def closers : List String := ["endblock", "endfor", "endif", "elif", "else"]

/-- The words of statements that open something or stand alone. -/
def openers : List String := ["extends", "block", "for", "if", "set"]

theorem Statement.isIdentifier_keyword (st : Statement) :
    Text.isIdentifier st.keyword.toList = true := by
  have hall : ∀ w ∈ openers ++ closers, Text.isIdentifier w.toList = true := by decide
  refine hall st.keyword ?_
  cases st <;> simp [Statement.keyword, openers, closers]

/-- The first word of a text, and what follows it without white space at the ends. -/
theorem Statement.says_iff {st : Statement} {passed : List (List Char)} :
    st.Says source passed ↔
      Part.keyword source = st.keyword.toList ∧ st.Argument (argument source) passed := by
  unfold Part.keyword argument
  constructor
  · rintro ⟨tail, rfl, htail, harg⟩
    have hword := Text.noBlank_of_isIdentifier st.isIdentifier_keyword
    rw [Text.splitAtBlank_append hword htail]
    exact ⟨rfl, by rwa [Text.trim_drop_one htail]⟩
  · rintro ⟨hword, harg⟩
    obtain ⟨tail, hsource, htail, hrest⟩ := Text.exists_splitAtBlank source
    refine ⟨tail, by rw [← hword, ← hsource], htail, ?_⟩
    rwa [← hrest, Text.trim_drop_one htail] at harg

theorem expression_eq_ok : expression source line = .ok e ↔ Expresses source e := by
  unfold expression Expresses
  cases Expr.parse source with
  | error cause =>
      constructor
      · intro h
        cases h
      · rintro ⟨h, -⟩
        cases h
  | ok e' =>
      dsimp only
      cases hf : e'.filterNames.find? (!Filter.isKnown ·) with
      | some name =>
          constructor
          · intro h
            cases h
          · rintro ⟨h, hall⟩
            cases h
            have hname := List.find?_some hf
            rw [hall name (List.mem_of_find?_eq_some hf)] at hname
            cases hname
      | none =>
          rw [List.find?_eq_none] at hf
          constructor
          · intro h
            cases h
            exact ⟨rfl, fun name hname => by simpa using hf name hname⟩
          · rintro ⟨h, -⟩
            cases h
            rfl

/-! ### Effects -/

/-- What a statement at a line does to what has been read. -/
inductive Moves (line : Nat) : Statement → Progress → Progress → Prop
  | parent {p : Progress} {name : String} : p.opened = [] → p.parent = none →
      Moves line (.parent name) p { p with parent := some name }
  | block {p : Progress} {name : String} {required : Bool} :
      p.blocks.any (·.name == name) = false →
      Moves line (.block name required) p
        ({ p with blocks := p.blocks ++ [Block.mk name required []] }.enter (.block name) line)
  | loop {p : Progress} {target : String} {items : Expr} :
      Moves line (.loop target items) p (p.enter (.loop target items) line)
  | branch {p : Progress} {condition : Expr} :
      Moves line (.branch condition) p (p.enter (.branch [] condition) line)
  | assign {p : Progress} {name : String} {value : Expr} :
      Moves line (.assign name value) p (p.push (.assign name value))
  | endblock {p : Progress} {label : Option String} {name : String} {opening : Nat}
      {before : List Element} {outer : List Opened} :
      p.opened = ⟨.block name, opening, before⟩ :: outer → (∀ l ∈ label, l = name) →
      Moves line (.endblock label) p
        ({ p with blocks := setBody name p.elements p.blocks }.leave outer before (.slot name))
  | endfor {p : Progress} {target : String} {items : Expr} {opening : Nat}
      {before : List Element} {outer : List Opened} :
      p.opened = ⟨.loop target items, opening, before⟩ :: outer →
      Moves line .endfor p (p.leave outer before (.loop target items p.elements))
  | elif {p : Progress} {done : List (Expr × List Element)} {condition next : Expr} {opening : Nat}
      {before : List Element} {outer : List Opened} :
      p.opened = ⟨.branch done condition, opening, before⟩ :: outer →
      Moves line (.elif next) p { p with
        opened := ⟨.branch (done ++ [(condition, p.elements)]) next, opening, before⟩ :: outer
        elements := [] }
  | otherwise {p : Progress} {done : List (Expr × List Element)} {condition : Expr} {opening : Nat}
      {before : List Element} {outer : List Opened} :
      p.opened = ⟨.branch done condition, opening, before⟩ :: outer →
      Moves line .otherwise p { p with
        opened := ⟨.otherwise (done ++ [(condition, p.elements)]), opening, before⟩ :: outer
        elements := [] }
  | endifBranch {p : Progress} {done : List (Expr × List Element)} {condition : Expr} {opening : Nat}
      {before : List Element} {outer : List Opened} :
      p.opened = ⟨.branch done condition, opening, before⟩ :: outer →
      Moves line .endif p (p.leave outer before (.choice (done ++ [(condition, p.elements)]) []))
  | endifOtherwise {p : Progress} {branches : List (Expr × List Element)} {opening : Nat}
      {before : List Element} {outer : List Opened} :
      p.opened = ⟨.otherwise branches, opening, before⟩ :: outer →
      Moves line .endif p (p.leave outer before (.choice branches p.elements))

/-- A statement with the keyword has an effect that leads from one state to another. -/
def Takes (word : String) (s : List Char) (line : Nat) (p q : Progress) : Prop :=
  ∃ st passed, Statement.keyword st = word ∧ st.Argument s passed ∧ Moves line st p q

/-! ### Statements that open or stand alone -/

theorem readExtends_iff : readExtends p s line = .ok q ↔ Takes "extends" s line p q := by
  unfold readExtends
  constructor
  · intro h
    by_cases ho : p.opened = []
    case neg =>
      rw [if_pos (by simpa using ho)] at h
      cases h
    rw [if_neg (by simpa using ho)] at h
    cases hp : p.parent with
    | some above =>
        rw [hp] at h
        cases h
    | none =>
        rw [hp] at h
        cases hs : dropQuotes s with
        | nil =>
            rw [hs] at h
            cases h
        | cons c name =>
            rw [hs] at h
            cases h
            rw [← hs]
            exact ⟨_, _, rfl, .parent (by rw [hs]; exact List.cons_ne_nil _ _), .parent ho hp⟩
  · rintro ⟨st, passed, hword, harg, hmove⟩
    cases hmove with
    | parent ho hp =>
        cases harg with
        | parent hne =>
            rw [ho, hp]
            cases hs : dropQuotes s with
            | nil => exact absurd hs hne
            | cons c name => rfl
    | _ => simp [Statement.keyword] at hword

theorem openBlock_iff {name : String} {required : Bool} :
    openBlock p name required line = .ok q ↔ Moves line (.block name required) p q := by
  unfold openBlock
  constructor
  · intro h
    by_cases hn : p.blocks.any (·.name == name) = true
    · rw [if_pos hn] at h
      cases h
    · rw [if_neg hn] at h
      cases h
      exact .block (Bool.eq_false_iff.mpr hn)
  · intro h
    cases h with
    | block hn =>
        rw [hn]
        rfl

theorem readBlock_iff : readBlock p s line = .ok q ↔ Takes "block" s line p q := by
  unfold readBlock
  constructor
  · intro h
    split at h
    · cases h
    · next name more hwords =>
        by_cases hid : Text.isIdentifier name = true
        case neg =>
          rw [if_pos (by simpa using hid)] at h
          cases h
        rw [if_neg (by simpa using hid)] at h
        have hid' : Text.isIdentifier (String.ofList name).toList = true := by
          rwa [String.toList_ofList]
        have hname : name = (String.ofList name).toList := String.toList_ofList.symm
        split at h
        · exact ⟨_, _, rfl, .block hid' (by rw [← hname, hwords]), openBlock_iff.mp h⟩
        · next word more =>
            by_cases hw : word = "required".toList
            case neg =>
              rw [if_neg hw] at h
              cases h
            rw [if_pos hw] at h
            exact ⟨_, _, rfl, .required hid' (by rw [← hname, hwords, hw]), openBlock_iff.mp h⟩
  · rintro ⟨st, passed, hword, harg, hmove⟩
    cases harg with
    | block hid hwords =>
        rw [hwords]
        dsimp only
        rw [hid, String.ofList_toList]
        exact openBlock_iff.mpr hmove
    | required hid hwords =>
        rw [hwords]
        dsimp only
        rw [hid, String.ofList_toList, if_pos rfl]
        exact openBlock_iff.mpr hmove
    | _ => simp [Statement.keyword] at hword

/-- What stands before a separator in a trimmed text is a word and white space, if it is an identifier
without the white space at its ends. -/
theorem eq_append_of_trim {before rest name : List Char}
    (hs : Text.trim s = s) (heq : s = before ++ rest) (htrim : Text.trim before = name) :
    ∃ blank, Text.AllBlank blank ∧ before = name ++ blank := by
  obtain ⟨l, r, hl, hr, hbefore⟩ := Text.exists_trim before
  rw [htrim] at hbefore
  cases l with
  | nil => exact ⟨r, hr, hbefore⟩
  | cons c l =>
      have hhead : Text.trim s = c :: (l ++ (name ++ r) ++ rest) := by
        rw [hs, heq, hbefore]
        rfl
      have hc := hl c List.mem_cons_self
      rw [(Text.trimmed_trim s).1 c (by rw [hhead]; rfl)] at hc
      cases hc

theorem argument_loop {target : String} {before after : List Char} (hs : Text.trim s = s)
    (hsplit : Text.splitOnce " in ".toList s = some (before, after))
    (htarget : Text.trim before = target.toList) (hid : Text.isIdentifier target.toList = true)
    (he : Expresses after e) : (Statement.loop target e).Argument s [] := by
  have heq := Text.eq_of_splitOnce hsplit
  obtain ⟨blank, hblank, hbefore⟩ := eq_append_of_trim hs heq htarget
  rw [heq, hbefore]
  exact .loop hid hblank he

theorem argument_assign {name : String} {before after : List Char} (hs : Text.trim s = s)
    (hsplit : Text.splitOnce ['='] s = some (before, after))
    (hname : Text.trim before = name.toList) (hid : Text.isIdentifier name.toList = true)
    (he : Expresses after e) : (Statement.assign name e).Argument s [] := by
  have heq := Text.eq_of_splitOnce hsplit
  obtain ⟨blank, hblank, hbefore⟩ := eq_append_of_trim hs heq hname
  rw [heq, hbefore]
  exact .assign hid hblank he

theorem readFor_iff (hs : Text.trim s = s) : readFor p s line = .ok q ↔ Takes "for" s line p q := by
  unfold readFor
  constructor
  · intro h
    split at h
    · cases h
    · next target items hsplit =>
        generalize hw : Text.trim target = w at h
        by_cases hid : Text.isIdentifier w = true
        case neg =>
          rw [if_pos (by simpa using hid)] at h
          cases h
        rw [if_neg (by simpa using hid)] at h
        obtain ⟨e, he, h⟩ := bind_eq_ok.mp h
        cases h
        refine ⟨.loop (String.ofList w) e, [], rfl, ?_, .loop⟩
        refine argument_loop hs hsplit ?_ ?_ (expression_eq_ok.mp he)
        · rw [hw, String.toList_ofList]
        · rwa [String.toList_ofList]
  · rintro ⟨st, passed, hword, harg, hmove⟩
    cases harg with
    | @loop target items blank source hid hblank he =>
        rw [Text.splitOnce_in (Text.noBlank_of_isIdentifier hid) hblank]
        dsimp only
        rw [Text.trim_append (Text.noBlank_of_isIdentifier hid) hblank, hid, expression_eq_ok.mpr he,
          String.ofList_toList]
        cases hmove
        rfl
    | _ => simp [Statement.keyword] at hword

theorem readSet_iff (hs : Text.trim s = s) : readSet p s line = .ok q ↔ Takes "set" s line p q := by
  unfold readSet
  constructor
  · intro h
    split at h
    · cases h
    · next name value hsplit =>
        generalize hw : Text.trim name = w at h
        by_cases hid : Text.isIdentifier w = true
        case neg =>
          rw [if_pos (by simpa using hid)] at h
          cases h
        rw [if_neg (by simpa using hid)] at h
        obtain ⟨e, he, h⟩ := bind_eq_ok.mp h
        cases h
        refine ⟨.assign (String.ofList w) e, [], rfl, ?_, .assign⟩
        refine argument_assign hs hsplit ?_ ?_ (expression_eq_ok.mp he)
        · rw [hw, String.toList_ofList]
        · rwa [String.toList_ofList]
  · rintro ⟨st, passed, hword, harg, hmove⟩
    cases harg with
    | @assign name value blank source hid hblank he =>
        have hnot : '=' ∉ name.toList ++ blank := by
          intro h
          rcases List.mem_append.mp h with h | h
          · exact (Text.isIdentPart_spec (Text.isIdentPart_of_mem hid h)).2.1 rfl
          · exact absurd (hblank _ h) (by decide)
        rw [Text.splitOnce_char hnot]
        dsimp only
        rw [Text.trim_append (Text.noBlank_of_isIdentifier hid) hblank, hid, expression_eq_ok.mpr he,
          String.ofList_toList]
        cases hmove
        rfl
    | _ => simp [Statement.keyword] at hword

theorem readIf_iff : readIf p s line = .ok q ↔ Takes "if" s line p q := by
  unfold readIf
  constructor
  · intro h
    obtain ⟨e, he, h⟩ := bind_eq_ok.mp h
    cases h
    exact ⟨.branch e, [], rfl, .branch (expression_eq_ok.mp he), .branch⟩
  · rintro ⟨st, passed, hword, harg, hmove⟩
    cases harg with
    | branch he =>
        cases hmove
        exact bind_eq_ok.mpr ⟨_, expression_eq_ok.mpr he, rfl⟩
    | _ => simp [Statement.keyword] at hword

theorem readOther_iff (hs : Text.trim s = s) {word : List Char} :
    readOther p word s line = .ok q ↔
      String.ofList word ∈ openers ∧ Takes (String.ofList word) s line p q := by
  unfold readOther openers
  dsimp only
  generalize String.ofList word = w
  by_cases hparent : w = "extends"
  · rw [if_pos hparent, readExtends_iff, hparent]
    simp
  rw [if_neg hparent]
  by_cases hblock : w = "block"
  · rw [if_pos hblock, readBlock_iff, hblock]
    simp
  rw [if_neg hblock]
  by_cases hfor : w = "for"
  · rw [if_pos hfor, readFor_iff hs, hfor]
    simp
  rw [if_neg hfor]
  by_cases hif : w = "if"
  · rw [if_pos hif, readIf_iff, hif]
    simp
  rw [if_neg hif]
  by_cases hset : w = "set"
  · rw [if_pos hset, readSet_iff hs, hset]
    simp
  rw [if_neg hset]
  constructor
  · intro h
    split at h
    · cases h
    · cases h
  · rintro ⟨hw, -⟩
    simp only [List.mem_cons, List.not_mem_nil, or_false] at hw
    rcases hw with hw | hw | hw | hw | hw
    · exact absurd hw hparent
    · exact absurd hw hblock
    · exact absurd hw hfor
    · exact absurd hw hif
    · exact absurd hw hset

/-! ### Statements that close or continue -/

theorem readStatement_of_opened {o : Opened} {outer : List Opened} (ho : p.opened = o :: outer) :
    p.readStatement source line =
      p.readInside o outer (keyword source) (argument source) line := by
  unfold readStatement
  rw [ho]
  rfl

/-- The keywords of the statements that close or continue a construct. -/
def Construct.followers : Construct → List String
  | .block _ => ["endblock"]
  | .loop _ _ => ["endfor"]
  | .branch _ _ => ["elif", "else", "endif"]
  | .otherwise _ => ["endif"]

/-- A statement has an effect only if it opens something or stands alone, or closes or continues the
innermost construct. -/
theorem Moves.keyword_mem {st : Statement} (h : Moves line st p q) :
    st.keyword ∈ openers ∨
      ∃ o outer, p.opened = o :: outer ∧ st.keyword ∈ Construct.followers o.construct := by
  cases h with
  | endblock ho _ => exact .inr ⟨_, _, ho, by simp [Construct.followers, Statement.keyword]⟩
  | endfor ho => exact .inr ⟨_, _, ho, by simp [Construct.followers, Statement.keyword]⟩
  | elif ho => exact .inr ⟨_, _, ho, by simp [Construct.followers, Statement.keyword]⟩
  | otherwise ho => exact .inr ⟨_, _, ho, by simp [Construct.followers, Statement.keyword]⟩
  | endifBranch ho => exact .inr ⟨_, _, ho, by simp [Construct.followers, Statement.keyword]⟩
  | endifOtherwise ho => exact .inr ⟨_, _, ho, by simp [Construct.followers, Statement.keyword]⟩
  | _ => exact .inl (by simp [openers, Statement.keyword])

theorem readInside_of_not_mem {o : Opened} {outer : List Opened} {word : List Char}
    (h : String.ofList word ∉ Construct.followers o.construct) :
    readInside p o outer word s line = readOther p word s line := by
  unfold readInside
  cases hc : o.construct with
  | block name =>
      rw [hc] at h
      exact if_neg (by simpa [Construct.followers] using h)
  | loop target items =>
      rw [hc] at h
      exact if_neg (by simpa [Construct.followers] using h)
  | branch done condition =>
      rw [hc] at h
      simp only [Construct.followers, List.mem_cons, List.not_mem_nil, or_false, not_or] at h
      dsimp only
      rw [if_neg h.1, if_neg h.2.1, if_neg h.2.2]
  | otherwise branches =>
      rw [hc] at h
      exact if_neg (by simpa [Construct.followers] using h)

section
variable {opening : Nat} {before : List Element} {outer : List Opened}

theorem readInside_endblock_iff {name : String}
    (ho : p.opened = ⟨.block name, opening, before⟩ :: outer) :
    readInside p ⟨.block name, opening, before⟩ outer "endblock".toList s line = .ok q ↔
      Takes "endblock" s line p q := by
  unfold readInside
  rw [String.ofList_toList]
  dsimp only
  rw [if_pos rfl]
  constructor
  · intro h
    by_cases hs : s = []
    · subst hs
      cases h
      exact ⟨.endblock none, [], rfl, .endblock, .endblock ho (by simp)⟩
    · by_cases hname : String.ofList s = name
      · rw [if_neg (by simp [hname])] at h
        cases h
        refine ⟨.endblock (some name), [], rfl, ?_, .endblock ho (by simp)⟩
        have hs' : s = name.toList := by rw [← hname, String.toList_ofList]
        rw [hs']
        exact .endblockName (by rwa [← hs'])
      · rw [if_pos (by simp [hname, hs])] at h
        cases h
  · rintro ⟨st, passed, hword, harg, hmove⟩
    cases hmove with
    | endblock ho' hlabel =>
        obtain ⟨heq, rfl⟩ := List.cons.inj (ho.symm.trans ho')
        cases heq
        cases harg with
        | endblock => rfl
        | @endblockName label _ =>
            rw [hlabel label rfl, if_neg (by simp)]
    | _ => simp [Statement.keyword] at hword

theorem readInside_endfor_iff {target : String} {items : Expr}
    (ho : p.opened = ⟨.loop target items, opening, before⟩ :: outer) :
    readInside p ⟨.loop target items, opening, before⟩ outer "endfor".toList s line = .ok q ↔
      Takes "endfor" s line p q := by
  constructor
  · intro h
    cases h
    exact ⟨_, _, rfl, .endfor, .endfor ho⟩
  · rintro ⟨st, passed, hword, harg, hmove⟩
    cases hmove with
    | endfor ho' =>
        obtain ⟨heq, rfl⟩ := List.cons.inj (ho.symm.trans ho')
        cases heq
        rfl
    | _ => simp [Statement.keyword] at hword

theorem readInside_elif_iff {done : List (Expr × List Element)} {condition : Expr}
    (ho : p.opened = ⟨.branch done condition, opening, before⟩ :: outer) :
    readInside p ⟨.branch done condition, opening, before⟩ outer "elif".toList s line = .ok q ↔
      Takes "elif" s line p q := by
  unfold readInside
  rw [String.ofList_toList]
  dsimp only
  rw [if_pos rfl]
  constructor
  · intro h
    obtain ⟨e, he, h⟩ := bind_eq_ok.mp h
    cases h
    exact ⟨_, _, rfl, .elif (expression_eq_ok.mp he), .elif ho⟩
  · rintro ⟨st, passed, hword, harg, hmove⟩
    cases hmove with
    | elif ho' =>
        obtain ⟨heq, rfl⟩ := List.cons.inj (ho.symm.trans ho')
        cases heq
        cases harg with
        | elif he => exact bind_eq_ok.mpr ⟨_, expression_eq_ok.mpr he, rfl⟩
    | _ => simp [Statement.keyword] at hword

theorem readInside_else_iff {done : List (Expr × List Element)} {condition : Expr}
    (ho : p.opened = ⟨.branch done condition, opening, before⟩ :: outer) :
    readInside p ⟨.branch done condition, opening, before⟩ outer "else".toList s line = .ok q ↔
      Takes "else" s line p q := by
  constructor
  · intro h
    cases h
    exact ⟨_, _, rfl, .otherwise, .otherwise ho⟩
  · rintro ⟨st, passed, hword, harg, hmove⟩
    cases hmove with
    | otherwise ho' =>
        obtain ⟨heq, rfl⟩ := List.cons.inj (ho.symm.trans ho')
        cases heq
        rfl
    | _ => simp [Statement.keyword] at hword

theorem readInside_endif_branch_iff {done : List (Expr × List Element)} {condition : Expr}
    (ho : p.opened = ⟨.branch done condition, opening, before⟩ :: outer) :
    readInside p ⟨.branch done condition, opening, before⟩ outer "endif".toList s line = .ok q ↔
      Takes "endif" s line p q := by
  constructor
  · intro h
    cases h
    exact ⟨_, _, rfl, .endif, .endifBranch ho⟩
  · rintro ⟨st, passed, hword, harg, hmove⟩
    cases hmove with
    | endifBranch ho' =>
        obtain ⟨heq, rfl⟩ := List.cons.inj (ho.symm.trans ho')
        cases heq
        rfl
    | endifOtherwise ho' => cases (List.cons.inj (ho.symm.trans ho')).1
    | _ => simp [Statement.keyword] at hword

theorem readInside_endif_otherwise_iff {branches : List (Expr × List Element)}
    (ho : p.opened = ⟨.otherwise branches, opening, before⟩ :: outer) :
    readInside p ⟨.otherwise branches, opening, before⟩ outer "endif".toList s line = .ok q ↔
      Takes "endif" s line p q := by
  constructor
  · intro h
    cases h
    exact ⟨_, _, rfl, .endif, .endifOtherwise ho⟩
  · rintro ⟨st, passed, hword, harg, hmove⟩
    cases hmove with
    | endifOtherwise ho' =>
        obtain ⟨heq, rfl⟩ := List.cons.inj (ho.symm.trans ho')
        cases heq
        rfl
    | endifBranch ho' => cases (List.cons.inj (ho.symm.trans ho')).1
    | _ => simp [Statement.keyword] at hword

end

theorem readInside_iff_of_mem {o : Opened} {outer : List Opened} (ho : p.opened = o :: outer)
    {word : String} (hw : word ∈ Construct.followers o.construct) :
    readInside p o outer word.toList s line = .ok q ↔ Takes word s line p q := by
  obtain ⟨construct, opening, before⟩ := o
  cases construct with
  | block name =>
      obtain rfl := List.mem_singleton.mp hw
      exact readInside_endblock_iff ho
  | loop target items =>
      obtain rfl := List.mem_singleton.mp hw
      exact readInside_endfor_iff ho
  | branch done condition =>
      simp only [Construct.followers, List.mem_cons, List.not_mem_nil, or_false] at hw
      rcases hw with rfl | rfl | rfl
      · exact readInside_elif_iff ho
      · exact readInside_else_iff ho
      · exact readInside_endif_branch_iff ho
  | otherwise branches =>
      obtain rfl := List.mem_singleton.mp hw
      exact readInside_endif_otherwise_iff ho

/-! ### All statements -/

/-- A text is taken just if it is a statement, and with the effect of that. -/
theorem step_statement_iff :
    p.step (.statement source line) = .ok q ↔
      ∃ st passed, Statement.Says st source passed ∧ Moves line st p q := by
  have hs : Text.trim (argument source) = argument source := Text.trim_trim _
  have htakes : (∃ st passed, Statement.Says st source passed ∧ Moves line st p q) ↔
      Takes (String.ofList (keyword source)) (argument source) line p q := by
    refine exists_congr fun st => exists_congr fun passed => ?_
    rw [Statement.says_iff, and_assoc]
    refine and_congr_left fun _ => ?_
    constructor
    · intro h
      rw [h, String.ofList_toList]
    · intro h
      rw [h, String.toList_ofList]
  rw [htakes]
  show p.readStatement source line = .ok q ↔ _
  by_cases hfollow : ∃ o outer, p.opened = o :: outer ∧
      String.ofList (keyword source) ∈ Construct.followers o.construct
  · obtain ⟨o, outer, ho, hw⟩ := hfollow
    rw [readStatement_of_opened ho]
    have hiff : readInside p o outer (String.ofList (keyword source)).toList (argument source) line =
        .ok q ↔ _ := readInside_iff_of_mem ho hw
    rwa [String.toList_ofList] at hiff
  · have hother : p.readStatement source line =
        p.readOther (keyword source) (argument source) line := by
      cases ho : p.opened with
      | nil =>
          unfold readStatement
          rw [ho]
          rfl
      | cons o outer =>
          rw [readStatement_of_opened ho]
          exact readInside_of_not_mem fun hw => hfollow ⟨o, outer, ho, hw⟩
    rw [hother, readOther_iff hs, and_iff_right_iff_imp]
    rintro ⟨st, passed, hword, -, hmove⟩
    rw [← hword] at hfollow ⊢
    exact hmove.keyword_mem.resolve_right hfollow

/-! ### Outputs -/

/-- An output is taken if it is an expression, or `super()` inside a block. -/
theorem step_output_iff :
    p.step (.output source line) = .ok q ↔
      (source = "super()".toList ∧ p.insideBlock = true ∧ q = p.push .super) ∨
      (source ≠ "super()".toList ∧ ∃ e, Expresses source e ∧ q = p.push (.output e)) := by
  show p.readOutput source line = .ok q ↔ _
  unfold readOutput
  by_cases hsuper : source = "super()".toList
  · rw [if_pos hsuper]
    by_cases hinside : p.insideBlock = true
    · rw [if_pos hinside]
      simp [hsuper, hinside, eq_comm]
    · rw [if_neg hinside]
      simp [hsuper, hinside]
  · rw [if_neg hsuper]
    constructor
    · intro h
      obtain ⟨e, he, h⟩ := bind_eq_ok.mp h
      cases h
      exact .inr ⟨hsuper, e, expression_eq_ok.mp he, rfl⟩
    · rintro (⟨h, -⟩ | ⟨-, e, he, rfl⟩)
      · exact absurd h hsuper
      · exact bind_eq_ok.mpr ⟨e, expression_eq_ok.mpr he, rfl⟩

end ClassScribe.Template
