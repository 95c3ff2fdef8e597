import Mathlib.Data.List.DropRight
import Mathlib.Data.List.Infix
import Mathlib.Data.List.Nodup
import ClassScribe.Proofs.Schema.ConstantKey
import ClassScribe.Schema.ClassSpec

/-! # Names of arguments

The argument of an accessor has the last word of its name. The shortest ending that is such a word is taken, and so
of three or more capitals at the end only two are left (`argumentName_eq`). A name without capitals is its own
argument, and so an argument that several accessors share is never the name that another one falls back to: falling
back makes the arguments of a class different (`resolveCollisions_derived`). -/

namespace ClassScribe
namespace Naming
open Text

variable {name s t u w : List Char} {p q : List Char → Bool} {c d : Char}

/-! ### Endings -/

/-- The shortest ending of a text with a property. -/
def lastEnding? (p : List Char → Bool) (s : List Char) : Option (List Char) := (s.tails.filter p).getLast?

/-- A capital and a small letter with anything behind. -/
def startsHump : List Char → Bool
  | c :: d :: _ => isCapital c && isSmall d
  | _ => false

/-- The last word of a name: the capitals at its end, if there are two or more; or else what the last capital before
a small letter starts; or else the whole name. -/
def endingWord (name : List Char) : List Char :=
  if 2 ≤ (name.rtakeWhile isCapital).length then name.rtakeWhile isCapital
  else (lastEnding? startsHump name).getD name

theorem lastEnding?_cons (p : List Char → Bool) (c : Char) (s : List Char) :
    lastEnding? p (c :: s) = (lastEnding? p s).or (if p (c :: s) then some (c :: s) else none) := by
  unfold lastEnding?
  rw [List.tails_cons]
  by_cases h : p (c :: s) = true
  · rw [List.filter_cons_of_pos h, List.getLast?_cons, if_pos h]
    cases (s.tails.filter p).getLast? <;> rfl
  · rw [List.filter_cons_of_neg h, if_neg h, Option.or_none]

theorem lastEnding?_congr (h : ∀ w, w <:+ s → p w = q w) : lastEnding? p s = lastEnding? q s := by
  unfold lastEnding?
  rw [List.filter_congr fun w hw => h w ((List.mem_tails w s).mp hw)]

theorem lastEnding?_eq_none (h : ∀ w, w <:+ s → p w = false) : lastEnding? p s = none := by
  unfold lastEnding?
  rw [List.getLast?_eq_none_iff, List.filter_eq_nil_iff]
  intro w hw
  rw [h w ((List.mem_tails w s).mp hw)]
  exact Bool.false_ne_true

theorem suffix_of_lastEnding? (h : lastEnding? p s = some w) : w <:+ s :=
  (List.mem_tails w s).mp (List.mem_of_mem_filter (List.mem_of_getLast? h))

theorem isLastWord_eq (w : List Char) :
    isLastWord w = (startsHump w || (decide (2 ≤ w.length) && w.all isCapital)) := by
  rcases w with _ | ⟨c, _ | ⟨d, w⟩⟩ <;> rfl

/-- The last word of a name is its shortest ending that is one. -/
theorem lastWord?_eq (s : List Char) : lastWord? s = lastEnding? isLastWord s := by
  induction s with
  | nil => rfl
  | cons c s ih =>
      rw [lastWord?, ih, lastEnding?_cons]
      cases lastEnding? isLastWord s <;> rfl

/-! ### Capitals at the end -/

/-- Capitals that end a name are among those at its end. -/
theorem length_le_rtakeWhile (hw : w <:+ s) (hall : ∀ c ∈ w, isCapital c = true) :
    w.length ≤ (s.rtakeWhile isCapital).length := by
  obtain ⟨front, rfl⟩ := hw
  have hall' : ∀ c ∈ w.reverse, isCapital c = true := fun c hc => hall c (List.mem_reverse.mp hc)
  rw [List.rtakeWhile, List.reverse_append, List.takeWhile_append_of_pos hall']
  simp only [List.length_reverse, List.length_append]
  omega

theorem lastWord?_concat (hc : isCapital c = true) (hd : isCapital d = true) (s : List Char) :
    lastWord? (s ++ [c, d]) = some [c, d] := by
  induction s with
  | nil => simp [lastWord?, isLastWord, hc, hd]
  | cons x s ih => rw [List.cons_append, lastWord?, ih]

/-- If not two capitals end a name, its last word starts with a capital before a small letter. -/
theorem lastWord?_of_lt (h : (s.rtakeWhile isCapital).length < 2) :
    lastWord? s = lastEnding? startsHump s := by
  rw [lastWord?_eq]
  refine lastEnding?_congr fun w hw => ?_
  have hshort : (decide (2 ≤ w.length) && w.all isCapital) = false := by
    rw [← Bool.not_eq_true, Bool.and_eq_true, decide_eq_true_eq, List.all_eq_true]
    rintro ⟨hlength, hall⟩
    have := length_le_rtakeWhile hw hall
    omega
  rw [isLastWord_eq, hshort, Bool.or_false]

theorem exists_last_two (h : 2 ≤ s.length) : ∃ front c d, s = front ++ [c, d] := by
  have hlength : (s.drop (s.length - 2)).length = 2 := by
    rw [List.length_drop]
    omega
  obtain ⟨c, d, htwo⟩ := List.length_eq_two.mp hlength
  exact ⟨s.take (s.length - 2), c, d, by rw [← htwo, List.take_append_drop]⟩

/-- Of two or more capitals at the end of a name, the last two are its last word. -/
theorem lastWord?_of_two (h : 2 ≤ (s.rtakeWhile isCapital).length) : lastWord? s = some (s.rtake 2) := by
  obtain ⟨front, c, d, hends⟩ := exists_last_two h
  have hcapitals : ∀ x ∈ front ++ [c, d], isCapital x = true := fun x hx =>
    List.mem_rtakeWhile_imp (hends ▸ hx)
  have hsplit : s = (s.rdropWhile isCapital ++ front) ++ [c, d] := by
    rw [List.append_assoc, ← hends, List.rdropWhile_append_rtakeWhile]
  have htwo : s.rtake 2 = [c, d] := by
    conv_lhs => rw [hsplit]
    rw [List.rtake, List.length_append]
    exact List.drop_left
  rw [htwo]
  conv_lhs => rw [hsplit]
  exact lastWord?_concat (hcapitals c (by simp)) (hcapitals d (by simp)) _

theorem rtakeWhile_eq_rtake (s : List Char) :
    s.rtakeWhile isCapital = s.rtake (s.rtakeWhile isCapital).length :=
  List.suffix_iff_eq_drop.mp (List.rtakeWhile_suffix isCapital s)

/-! ### Arguments of identifiers -/

theorem argumentName_eq_lower (hname : ∀ c ∈ name, isIdentPart c = true) (hsmall : ∃ c ∈ name, isSmall c = true) :
    argumentName name = lower ((lastWord? name).getD name) := by
  have hconstant : ¬isConstant name = true := by
    obtain ⟨c, hc, hcsmall⟩ := hsmall
    intro hconstant
    rw [isSmall_of_isConstant (isAscii_of_isIdentPart hname) hconstant hc] at hcsmall
    cases hcsmall
  have hwordlike : name.all isWordlike = true :=
    List.all_eq_true.mpr fun c hc => isWordlike_of_isIdentPart (hname c hc)
  rw [argumentName, if_neg hconstant, if_pos hwordlike]

theorem length_lower (h : IsAscii s) : (lower s).length = s.length := by
  rw [lower_of_ascii h, List.length_map]

/-- The argument of an identifier with a small letter is its last word in small letters, but for three or more
capitals at its end, of which it has the last two. -/
theorem argumentName_eq (hname : ∀ c ∈ name, isIdentPart c = true) (hsmall : ∃ c ∈ name, isSmall c = true) :
    argumentName name = lower
      (if 2 < (name.rtakeWhile isCapital).length then name.rtake 2 else endingWord name) ∧
    (argumentName name = lower (endingWord name) ↔ (name.rtakeWhile isCapital).length ≤ 2) := by
  have hascii := isAscii_of_isIdentPart hname
  rw [argumentName_eq_lower hname hsmall]
  by_cases hrun : 2 ≤ (name.rtakeWhile isCapital).length
  · rw [lastWord?_of_two hrun, Option.getD_some, endingWord, if_pos hrun]
    by_cases hlong : 2 < (name.rtakeWhile isCapital).length
    · rw [if_pos hlong]
      refine ⟨rfl, iff_of_false (fun heq => ?_) (by omega)⟩
      have htwo : name.rtake 2 <:+ name := List.drop_suffix _ _
      have hlength := congrArg List.length heq
      rw [length_lower (hascii.suffix htwo), length_lower (hascii.suffix (List.rtakeWhile_suffix _ _)),
        List.rtake, List.length_drop] at hlength
      omega
    · have hwhole : name.rtakeWhile isCapital = name.rtake 2 := by
        rw [rtakeWhile_eq_rtake, show (name.rtakeWhile isCapital).length = 2 by omega]
      rw [if_neg hlong, ← hwhole]
      exact ⟨rfl, iff_of_true rfl (by omega)⟩
  · rw [lastWord?_of_lt (by omega), if_neg (by omega), endingWord, if_neg hrun]
    exact ⟨rfl, iff_of_true rfl (by omega)⟩

/-- A name with a hump at its end has it for its argument. -/
theorem argumentName_eq_hump :
    argumentName "appHMIType".toList = lower (endingWord "appHMIType".toList) ∧
    endingWord "appHMIType".toList = "Type".toList ∧ argumentName "appHMIType".toList = "type".toList := by
  have hname : ∀ c ∈ "appHMIType".toList, isIdentPart c = true := List.all_eq_true.mp (by decide)
  have hlaw := argumentName_eq hname ⟨'a', by decide, by decide⟩
  exact ⟨hlaw.2.mpr (by decide), by decide +kernel, by decide +kernel⟩

/-- Of three capitals at the end the first one is lost. -/
theorem argumentName_appURL :
    (∀ c ∈ "appURL".toList, isIdentPart c = true) ∧ (∃ c ∈ "appURL".toList, isSmall c = true) ∧
    argumentName "appURL".toList = "rl".toList ∧ lower (endingWord "appURL".toList) = "url".toList := by
  refine ⟨List.all_eq_true.mp (by decide), ⟨'a', by decide, by decide⟩, by decide +kernel, by decide +kernel⟩

/-! ### Arguments of arguments -/

/-- The argument of a name is the small form of an ending of it. -/
theorem exists_lower (s : List Char) : ∃ w, w <:+ s ∧ argumentName s = lower w := by
  unfold argumentName
  by_cases hconstant : isConstant s = true
  · exact ⟨s, List.suffix_refl s, if_pos hconstant⟩
  rw [if_neg hconstant]
  by_cases hwordlike : s.all isWordlike = true
  · rw [if_pos hwordlike, lastWord?_eq]
    cases hword : lastEnding? isLastWord s with
    | none => exact ⟨s, List.suffix_refl s, rfl⟩
    | some w => exact ⟨w, suffix_of_lastEnding? hword, rfl⟩
  · exact ⟨s, List.suffix_refl s, if_neg hwordlike⟩

theorem exists_capital_of_isLastWord (h : isLastWord w = true) : ∃ c ∈ w, isCapital c = true := by
  rw [isLastWord_eq, Bool.or_eq_true, Bool.and_eq_true, decide_eq_true_eq, List.all_eq_true] at h
  cases w with
  | nil => simp [startsHump] at h
  | cons c w =>
      refine ⟨c, List.mem_cons_self, ?_⟩
      rcases h with h | ⟨-, hall⟩
      · cases w with
        | nil => cases h
        | cons d w =>
            rw [startsHump, Bool.and_eq_true] at h
            exact h.1
      · exact hall c List.mem_cons_self

theorem argumentName_of_no_capital (h : IsAscii s) (hs : ∀ c ∈ s, isCapital c = false) : argumentName s = s := by
  have hword : lastWord? s = none := by
    rw [lastWord?_eq]
    refine lastEnding?_eq_none fun w hw => ?_
    rw [← Bool.not_eq_true]
    intro hlast
    obtain ⟨c, hc, hcapital⟩ := exists_capital_of_isLastWord hlast
    rw [hs c (hw.mem hc)] at hcapital
    cases hcapital
  have hlower := lower_of_no_capital h hs
  unfold argumentName
  rw [hword, Option.getD_none, hlower]
  simp only [ite_self]

theorem argumentName_argumentName (h : IsAscii s) : argumentName (argumentName s) = argumentName s := by
  obtain ⟨w, hw, hlower⟩ := exists_lower s
  have hascii := h.suffix hw
  rw [hlower, lower_of_ascii hascii]
  refine argumentName_of_no_capital (isAscii_map lt_toLower hascii) fun c hc => ?_
  obtain ⟨d, hd, rfl⟩ := List.mem_map.mp hc
  exact isCapital_toLower (hascii d hd)

end Naming

/-! ### Arguments of a class -/

namespace Method
open Text

/-- Whether accessors come from a name in a schema, whatever else has been said of them there. -/
def IsDerived (m : Method) : Prop :=
  ∃ type description external width, m = derive m.origin type description external width

theorem IsDerived.argument_eq {m : Method} (h : m.IsDerived) :
    m.argument = String.ofList (Naming.argumentName m.origin.toList) := by
  obtain ⟨type, description, external, width, hm⟩ := h
  conv_lhs => rw [hm]
  rfl

/-- Accessors whose name is the argument of others have the same argument as these. -/
theorem IsDerived.argument_of_origin {m n : Method} (hm : m.IsDerived) (hn : n.IsDerived)
    (hascii : IsAscii n.origin.toList) (h : m.origin = n.argument) : m.argument = n.argument := by
  rw [hm.argument_eq, h, hn.argument_eq, String.toList_ofList, Naming.argumentName_argumentName hascii]

/-- Whether other accessors among some have the same argument. -/
def SharesArgument (ms : List Method) (m : Method) : Prop :=
  ∃ other ∈ ms, other ≠ m ∧ other.argument = m.argument

instance (ms : List Method) (m : Method) : Decidable (SharesArgument ms m) :=
  inferInstanceAs (Decidable (∃ other ∈ ms, other ≠ m ∧ other.argument = m.argument))

theorem one_lt_count_iff {ms : List Method} {m : Method} (hnodup : ms.Nodup) (hm : m ∈ ms) :
    1 < (ms.map (·.argument)).count m.argument ↔ SharesArgument ms m := by
  obtain ⟨above, below, rfl⟩ := List.append_of_mem hm
  rw [List.nodup_middle, List.nodup_cons] at hnodup
  have hcount : ((above ++ m :: below).map (·.argument)).count m.argument =
      ((above ++ below).map (·.argument)).count m.argument + 1 := by
    simp only [List.map_append, List.map_cons, List.count_append, List.count_cons_self]
    omega
  rw [hcount, Nat.lt_add_left_iff_pos, List.count_pos_iff, List.mem_map]
  constructor
  · rintro ⟨other, hother, hargument⟩
    refine ⟨other, ?_, ?_, hargument⟩
    · simp only [List.mem_append, List.mem_cons] at hother ⊢
      exact hother.imp_right .inr
    · rintro rfl
      exact hnodup.1 hother
  · rintro ⟨other, hother, hne, hargument⟩
    refine ⟨other, ?_, hargument⟩
    simp only [List.mem_append, List.mem_cons] at hother ⊢
    exact hother.imp_right fun h => h.resolve_left hne

end Method

namespace ClassSpec
open Text

variable {s : ClassSpec}

/-- The accessors of a class after their arguments have been made different: where an argument is shared, the name
in the schema has taken its place. -/
theorem resolveCollisions_eq (hnodup : s.methods.Nodup) (horigin : ∀ m ∈ s.methods, m.origin ≠ "") :
    s.resolveCollisions = { s with
      methods := s.methods.map fun m =>
        if m.SharesArgument s.methods then { m with argument := m.origin } else m } := by
  unfold resolveCollisions
  congr 1
  refine List.map_congr_left fun m hm => ?_
  unfold separate
  simp only [Method.one_lt_count_iff hnodup hm, horigin m hm, ne_eq, not_false_eq_true, and_true]

/-- If the accessors of a class come from different names, they have different arguments after collisions have been
resolved: the name in the schema where the argument of the name is shared, and that argument elsewhere. Nothing else
about the class changes. -/
theorem resolveCollisions_derived (hderived : ∀ m ∈ s.methods, m.IsDerived)
    (horigins : (s.methods.map (·.origin)).Nodup)
    (hascii : ∀ m ∈ s.methods, m.origin ≠ "" ∧ IsAscii m.origin.toList) :
    (s.resolveCollisions.methods.map (·.argument)).Nodup ∧
    s.resolveCollisions = { s with
      methods := s.methods.map fun m =>
        if m.SharesArgument s.methods then { m with argument := m.origin } else m } := by
  have hnodup : s.methods.Nodup := horigins.of_map
  have heq := resolveCollisions_eq hnodup fun m hm => (hascii m hm).1
  refine ⟨?_, heq⟩
  rw [heq, List.map_map]
  refine hnodup.map_on fun m hm n hn hmn => ?_
  -- Accessors that fall back to the argument of others would share it with these.
  have hfallback {m n : Method} (hm : m ∈ s.methods) (hn : n ∈ s.methods)
      (hnot : ¬n.SharesArgument s.methods) (h : m.origin = n.argument) : m = n := by
    by_contra hne
    have hargument := (hderived m hm).argument_of_origin (hderived n hn) (hascii n hn).2 h
    exact hnot ⟨m, hm, hne, hargument⟩
  simp only [Function.comp_apply] at hmn
  by_cases hmshares : m.SharesArgument s.methods
  · by_cases hnshares : n.SharesArgument s.methods
    · rw [if_pos hmshares, if_pos hnshares] at hmn
      exact List.inj_on_of_nodup_map horigins hm hn hmn
    · rw [if_pos hmshares, if_neg hnshares] at hmn
      exact hfallback hm hn hnshares hmn
  · by_cases hnshares : n.SharesArgument s.methods
    · rw [if_neg hmshares, if_pos hnshares] at hmn
      exact (hfallback hn hm hmshares hmn.symm).symm
    · rw [if_neg hmshares, if_neg hnshares] at hmn
      by_contra hne
      exact hmshares ⟨n, hn, Ne.symm hne, hmn.symm⟩

/-- A class with two accessors of one argument, and one whose name is that argument. -/
def fieldTypes : ClassSpec :=
  { blank "Field" .struct with
    methods := ["mainType", "type", "text"].map fun origin => Method.derive origin (.scalar .string) [] none 102 }

theorem resolveCollisions_derived_fieldTypes :
    fieldTypes.methods.map (·.argument) = ["type", "type", "text"] ∧
    fieldTypes.resolveCollisions.methods.map (·.argument) = ["mainType", "type", "text"] ∧
    (fieldTypes.resolveCollisions.methods.map (·.argument)).Nodup := by
  have hderived : ∀ m ∈ fieldTypes.methods, m.IsDerived := by
    intro m hm
    obtain ⟨origin, -, rfl⟩ := List.mem_map.mp hm
    exact ⟨_, _, _, _, rfl⟩
  refine ⟨by decide +kernel, by decide +kernel, (resolveCollisions_derived hderived ?_ ?_).1⟩
  · decide +kernel
  · intro m hm
    have hall : ∀ m ∈ fieldTypes.methods,
        m.origin ≠ "" ∧ m.origin.toList.all (·.toNat < 128) = true := by decide +kernel
    exact ⟨(hall m hm).1, fun c hc => by simpa using List.all_eq_true.mp (hall m hm).2 c hc⟩

end ClassSpec
end ClassScribe
