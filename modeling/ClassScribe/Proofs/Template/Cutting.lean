import Mathlib.Tactic.Common
import ClassScribe.Proofs.Text.Splitting
import ClassScribe.Template.Piece

/-! # Lines told from what follows

Over what has been cut off a source, the line is counted on by as many line feeds as there are in it. So the line that
has been reached can be told from what is left, and a source is cut alike when the line of a tag is told from what
follows its opening (`cut_eq`). Nothing between the tags can put it out of step. -/

namespace ClassScribe.Template.Piece

variable {s before body inside rest raw after : List Char} {kind : TagKind} {close : Char} {quoted : Bool}
  {quote : Option Char} {left right : Marker}

/-! ### Line feeds -/

theorem lineFeeds_append (s t : List Char) :
    Text.lineFeeds (s ++ t) = Text.lineFeeds s + Text.lineFeeds t := List.count_append

theorem lineFeeds_cons_of_ne {c : Char} (hc : c ≠ '\n') (s : List Char) :
    Text.lineFeeds (c :: s) = Text.lineFeeds s := List.count_cons_of_ne hc

theorem lineFeeds_of_spanText (h : spanText s = (before, some (kind, body))) :
    Text.lineFeeds s = Text.lineFeeds before + Text.lineFeeds body := by
  fun_induction spanText s generalizing before with
  | case1 => cases h
  | case2 => cases h
  | case3 c d rest kind hopens =>
      cases h
      split at hopens
      · next hc =>
          have hd : d ≠ '\n' := by
            rintro rfl
            cases hopens
          rw [hc, lineFeeds_cons_of_ne (by decide), lineFeeds_cons_of_ne hd]
          exact (Nat.zero_add _).symm
      · cases hopens
  | case4 c d rest _ before found heq ih =>
      cases h
      have hrest := ih heq
      unfold Text.lineFeeds at hrest ⊢
      rw [List.count_cons, hrest, List.count_cons]
      omega

theorem lineFeeds_leadMarker (s : List Char) : Text.lineFeeds (leadMarker s).2 = Text.lineFeeds s := by
  unfold leadMarker
  split
  · exact (lineFeeds_cons_of_ne (by decide) _).symm
  · exact (lineFeeds_cons_of_ne (by decide) _).symm
  · rfl

theorem eq_of_spanInner (h : spanInner close quoted quote s = some (inside, rest)) :
    s = inside ++ close :: '\x7d' :: rest := by
  fun_induction spanInner close quoted quote s generalizing inside rest with
  | case1 => cases h
  | case2 => cases h
  | case3 q d tail ih =>
      obtain ⟨⟨inside, rest⟩, hspan, heq⟩ := Option.map_eq_some_iff.mp h
      cases heq
      rw [ih hspan]
      rfl
  | case4 c tail q hc ih =>
      obtain ⟨⟨inside, rest⟩, hspan, heq⟩ := Option.map_eq_some_iff.mp h
      cases heq
      rw [ih hspan]
      rfl
  | case5 c tail hc ih =>
      obtain ⟨⟨inside, rest⟩, hspan, heq⟩ := Option.map_eq_some_iff.mp h
      cases heq
      rw [ih hspan]
      rfl
  | case6 c tail hc tail' htail =>
      cases h
      by_cases hclose : c = close
      · rw [if_pos hclose] at htail
        rw [hclose, htail]
        rfl
      · rw [if_neg hclose] at htail
        cases htail
  | case7 c tail hc hnot ih =>
      obtain ⟨⟨inside, rest⟩, hspan, heq⟩ := Option.map_eq_some_iff.mp h
      cases heq
      rw [ih hspan]
      rfl

theorem lineFeeds_of_spanInner (h : spanInner (closer kind) quoted quote s = some (inside, rest)) :
    Text.lineFeeds s = Text.lineFeeds inside + Text.lineFeeds rest := by
  have hclose : closer kind ≠ '\n' := by cases kind <;> decide
  rw [eq_of_spanInner h, lineFeeds_append, lineFeeds_cons_of_ne hclose, lineFeeds_cons_of_ne (by decide)]

theorem leadMarker_suffix (s : List Char) : (leadMarker s).2 <:+ s := by
  unfold leadMarker
  split
  · exact List.suffix_cons _ _
  · exact List.suffix_cons _ _
  · exact List.suffix_rfl

theorem readEndraw?_suffix (h : readEndraw? s = some (left, right, after)) : after <:+ s := by
  simp only [readEndraw?, Option.bind_eq_bind, Option.bind_eq_some_iff] at h
  obtain ⟨word, hword, h⟩ := h
  have hword' : word <:+ (leadMarker s).2 := by
    rw [Text.dropLead?_eq_some] at hword
    have hsuffix := List.suffix_append "endraw".toList word
    rw [← hword] at hsuffix
    exact hsuffix.trans (List.dropWhile_suffix _)
  split at h
  · next rest hclose =>
      cases h
      have hafter : after <:+ (leadMarker (Text.trimStart word)).2 := by
        rw [hclose]
        exact (List.suffix_cons _ _).trans (List.suffix_cons _ _)
      exact hafter.trans ((leadMarker_suffix _).trans ((List.dropWhile_suffix _).trans
        (hword'.trans (leadMarker_suffix s))))
  · cases h

theorem spanRaw_suffix (h : spanRaw s = some (raw, left, right, after)) : after <:+ s := by
  fun_induction spanRaw s generalizing raw left right after with
  | case1 rest _ _ _ heq =>
      cases h
      exact (readEndraw?_suffix heq).trans ((List.suffix_cons _ _).trans (List.suffix_cons _ _))
  | case2 rest _ ih =>
      obtain ⟨⟨raw, left, right, after⟩, hspan, heq⟩ := Option.map_eq_some_iff.mp h
      cases heq
      exact (ih hspan).trans ((List.suffix_cons _ _).trans (List.suffix_cons _ _))
  | case3 c rest _ ih =>
      obtain ⟨⟨raw, left, right, after⟩, hspan, heq⟩ := Option.map_eq_some_iff.mp h
      cases heq
      exact (ih hspan).trans (List.suffix_cons _ _)
  | case4 => cases h

theorem lineFeeds_of_spanRaw (h : spanRaw s = some (raw, left, right, after)) :
    Text.lineFeeds s = Text.lineFeeds (s.take (s.length - after.length)) + Text.lineFeeds after := by
  obtain ⟨front, rfl⟩ := spanRaw_suffix h
  rw [List.length_append, Nat.add_sub_cancel, List.take_left, lineFeeds_append]

/-! ### Lines -/

/-- The line of a place in a source with `total` line feeds, told from what follows the place. -/
def lineOf (total : Nat) (after : List Char) : Nat := total + 1 - Text.lineFeeds after

/-- The pieces of what is left of a source with `total` line feeds. -/
def cutFrom (total : Nat) (s : List Char) : Except (Nat × CutFault) (List Piece) :=
  match _h : spanText s with
  | (before, none) => .ok (textPiece before)
  | (before, some (kind, body)) =>
    let line := lineOf total body
    let left := (leadMarker body).1
    match _hi : spanInner (closer kind) (kind != .comment) none (leadMarker body).2 with
    | none => .error (line, .unclosedTag (String.ofList [closer kind, '\x7d']))
    | some (inside, rest) =>
      let (right, inside) := tailMarker inside
      let inner := Text.trim inside
      if kind = .statement ∧ inner = "endraw".toList then .error (line, .strayEndraw)
      else if kind = .statement ∧ inner = "raw".toList then
        match _hr : spanRaw rest with
        | none => .error (line, .unclosedRaw)
        | some (raw, endLeft, endRight, after) =>
          (cutFrom total after).map fun more =>
            textPiece before ++ .tag ⟨.comment, inner, line, left, right⟩ :: textPiece raw ++
              .tag ⟨.comment, "endraw".toList, lineOf total after, endMarker endLeft,
                endMarker endRight⟩ :: more
      else
        (cutFrom total rest).map fun more =>
          textPiece before ++ .tag ⟨kind, inner, line, left, right⟩ :: more
termination_by s.length
decreasing_by
  all_goals
    have h1 := spanText_length _h
    have h2 := leadMarker_length body
    have h3 := spanInner_length _hi
  · have h5 := spanRaw_length _hr
    omega
  · omega

section
variable {line total : Nat}

/-- The line of a tag, when a line has been reached before the text in front of it. -/
theorem lineOf_of_spanText (h : spanText s = (before, some (kind, body)))
    (hline : line + Text.lineFeeds s = total + 1) : line + Text.lineFeeds before = lineOf total body := by
  rw [lineFeeds_of_spanText h] at hline
  unfold lineOf
  omega

/-- What is left behind a tag, when a line has been reached before the text in front of it. -/
theorem lineFeeds_behind (h : spanText s = (before, some (kind, body)))
    (hi : spanInner (closer kind) quoted quote (leadMarker body).2 = some (inside, rest))
    (hline : line + Text.lineFeeds s = total + 1) :
    line + Text.lineFeeds before + Text.lineFeeds inside + Text.lineFeeds rest = total + 1 := by
  rw [lineFeeds_of_spanText h, ← lineFeeds_leadMarker body, lineFeeds_of_spanInner hi] at hline
  omega

/-- Where a line has been reached in a source, so many lines are still to come as there are line feeds left. -/
theorem cutAt_eq (hline : line + Text.lineFeeds s = total + 1) : cutAt line s = cutFrom total s := by
  fun_induction cutAt line s with
  | case1 line s before hs => rw [cutFrom, hs]
  | case2 line s before kind body hs next hi =>
      rw [cutFrom, hs]
      dsimp only
      rw [hi, ← lineOf_of_spanText hs hline]
  | case3 line s before kind body hs next inside rest hi right _ htail inner hend =>
      rw [cutFrom, hs]
      dsimp only
      rw [hi, ← lineOf_of_spanText hs hline]
      dsimp only
      rw [htail]
      exact (if_pos hend).symm
  | case4 line s before kind body hs next inside rest hi right _ htail inner hend hraw hspan =>
      rw [cutFrom, hs]
      dsimp only
      rw [hi, ← lineOf_of_spanText hs hline]
      dsimp only
      rw [htail, if_neg hend, if_pos hraw, hspan]
  | case5 line s before kind body hs next left inside rest hi behind right _ htail inner hend hraw raw endLeft
      endRight after hspan last ih =>
      have hrest := lineFeeds_behind hs hi hline
      have hafter : last + Text.lineFeeds after = total + 1 := by
        rw [lineFeeds_of_spanRaw hspan] at hrest
        omega
      have hlast : last = lineOf total after := by
        unfold lineOf
        omega
      rw [cutFrom, hs]
      dsimp only
      rw [hi, ← lineOf_of_spanText hs hline]
      dsimp only
      rw [htail, if_neg hend, if_pos hraw, hspan, ih hafter, hlast]
  | case6 line s before kind body hs next left inside rest hi behind right _ htail inner hend hraw ih =>
      rw [cutFrom, hs]
      dsimp only
      rw [hi, ← lineOf_of_spanText hs hline]
      dsimp only
      rw [htail, if_neg hend, if_neg hraw, ih (lineFeeds_behind hs hi hline)]

end

theorem cut_eq (s : List Char) : cut s = cutFrom (Text.lineFeeds s) s := cutAt_eq (Nat.add_comm _ _)

end ClassScribe.Template.Piece
