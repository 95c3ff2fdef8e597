import Mathlib.Data.List.Forall2
import ClassScribe.Emission.ClassText
import ClassScribe.Proofs.Expr.Evaluation
import ClassScribe.Proofs.Text.Margin

/-! # Scripts in a class

A script is moved to the margin and from there into the class. Where it stood before is forgotten, if its blank lines
are empty, and what is printed for a script does not change any more when it is printed as a script again. Its lines are
there in their order, moved by as much as its first line, as far as they have that much white space to lose
(`rebased_laws`). -/

namespace ClassScribe.Script
open Text ClassText

variable {s : String}

/-- The expression that prints a script, which is the value of a variable, in the shipped templates. -/
def printing : Expr :=
  .filter (.filter (.var "s") "dedent" []) "indent" [.literal (.number (.int 4)), .literal (.bool true)]

/-- A text at the margin. -/
def dedented (s : String) : String := String.ofList (dedent s.toList)

/-- A script in a class. -/
def rebased (s : String) : String := indented 4 (dedented s)

/-! ### Printing -/

theorem applyName_dedent (s : String) : Filter.applyName "dedent" (.text s) [] = .ok (.text (dedented s)) := rfl

theorem eval_printing {scope : Lookup} (h : scope "s" = some (.text s)) :
    printing.eval scope = .ok (.text (rebased s)) := by
  have hdedent : (Expr.filter (.var "s") "dedent" []).eval scope = .ok (.text (dedented s)) :=
    Expr.eval_filter (Expr.eval_var h) Expr.evalItems_nil (by decide) (applyName_dedent s)
  exact Expr.eval_filter hdedent (Expr.evalItems_cons (Expr.eval_literal _)
    (Expr.evalItems_cons (Expr.eval_literal _) Expr.evalItems_nil)) (by decide) (Expr.applyName_indent (by decide) _)

/-! ### Lines -/

theorem isPadding_replicate (n : Nat) : IsPadding (List.replicate n ' ') where
  allBlank c hc := by
    rw [List.eq_of_mem_replicate hc]
    decide
  newline hc := absurd (List.eq_of_mem_replicate hc) (by decide)
  carriage hc := absurd (List.eq_of_mem_replicate hc) (by decide)

theorem toList_indented (n : Nat) (s : String) :
    (indented n s).toList = indent (List.replicate n ' ') true s.toList := String.toList_ofList

theorem toList_dedented (s : String) : (dedented s).toList = dedent s.toList := String.toList_ofList

theorem dedented_indented (n : Nat) (hs : '\r' ∉ s.toList)
    (hblank : ∀ l ∈ rows s.toList, isAllBlank l = true → l = []) : dedented (indented n s) = dedented s := by
  rw [dedented, toList_indented, dedent_indent (isPadding_replicate n) hs hblank, dedented]

theorem dedented_dedented (hs : '\r' ∉ s.toList) : dedented (dedented s) = dedented s := by
  rw [dedented, toList_dedented, dedent_dedent hs, ← dedented]

theorem rebased_rebased (hs : '\r' ∉ s.toList) (hblank : ∀ l ∈ rows s.toList, isAllBlank l = true → l = []) :
    rebased (rebased s) = rebased s := by
  have hdedented : '\r' ∉ (dedented s).toList := by
    rw [toList_dedented]
    exact return_not_mem_dedent hs
  have hrows : ∀ l ∈ rows (dedented s).toList, isAllBlank l = true → l = [] := by
    rw [toList_dedented]
    exact fun l => eq_nil_of_mem_rows_dedent hs hblank
  rw [rebased, rebased, dedented_indented 4 hdedented hrows, dedented_dedented hs]

/-- How a line of a script comes to stand in a class. The first lines of both say how far the script is moved: a line
goes as far as they do, or loses all of its white space. -/
structure LineMoved (first first' l l' : List Char) : Prop where
  blank : isAllBlank l' = isAllBlank l
  text : trimStart l' = trimStart l
  padded : isAllBlank l = false → List.replicate 4 ' ' <+: l'
  shifted : isAllBlank l = false → margin first ≤ margin l → margin l' + margin first = margin l + margin first'

theorem lineMoved {first l : List Char} {n : Nat} (hfirst : isAllBlank first = false) (hn : n = margin first) :
    LineMoved first (padLine (List.replicate 4 ' ') (dropMargin n first)) l
      (padLine (List.replicate 4 ' ') (dropMargin n l)) := by
  have hpad := (isPadding_replicate 4).allBlank
  have hmargin {k : List Char} (hk : isAllBlank k = false) :
      margin (padLine (List.replicate 4 ' ') (dropMargin n k)) = 4 + (margin k - n) := by
    rw [← isAllBlank_dropMargin n] at hk
    rw [padLine_of_not_blank hk, margin_append hpad, margin_dropMargin, List.length_replicate]
  refine ⟨?_, ?_, fun hl => ?_, fun hl hle => ?_⟩
  · rw [isAllBlank_padLine hpad, isAllBlank_dropMargin]
  · rw [trimStart_padLine hpad, trimStart_dropMargin]
  · rw [← isAllBlank_dropMargin n] at hl
    rw [padLine_of_not_blank hl]
    exact List.prefix_append _ _
  · rw [hmargin hl, hmargin hfirst]
    omega

/-- The lines of a script, from the first to the last one that is not blank, and those that are printed for it. -/
theorem forall₂_lineMoved (hs : '\r' ∉ s.toList) :
    List.Forall₂ (LineMoved ((rows s.toList).headD []) ((lines (rebased s).toList).headD []))
      (rows s.toList) (lines (rebased s).toList) := by
  rw [rebased, toList_indented, toList_dedented, lines_indent_dedent (isPadding_replicate 4) hs]
  have hbase : baseMargin s.toList = margin ((rows s.toList).headD []) := rfl
  have hhead := isAllBlank_head_trimBlankLines (s.toList.splitOn '\n')
  generalize baseMargin s.toList = n at hbase
  change ∀ l ∈ (rows s.toList).head?, isAllBlank l = false at hhead
  rw [List.forall₂_map_right_iff, List.forall₂_same]
  intro l hl
  obtain ⟨first, rest, hrows⟩ := List.exists_cons_of_ne_nil (List.ne_nil_of_mem hl)
  rw [hrows] at hbase hhead ⊢
  exact lineMoved (hhead first rfl) hbase

/-- What the filters for scripts make of a text without carriage returns. A text at the margin stays there. If the blank
lines of the text are empty, padding it changes nothing about what comes to stand at the margin, and so in a class; and
printing the result as a script again gives the same. Each line of the script is in the class, in the same order, with
at least four spaces in front and the same text behind its white space, as deep below the first one as before. -/
theorem rebased_laws (hs : '\r' ∉ s.toList) :
    Filter.applyName "dedent" (.text s) [] = .ok (.text (dedented s)) ∧
    (∀ n < Filter.capacity, Filter.applyName "indent" (.text s) [.int n, .bool true] = .ok (.text (indented n s))) ∧
    (∀ scope : Lookup, scope "s" = some (.text s) → printing.eval scope = .ok (.text (rebased s))) ∧
    dedented (dedented s) = dedented s ∧
    ((∀ l ∈ lines s.toList, isAllBlank l = true → l = []) →
      (∀ n, dedented (indented n s) = dedented s) ∧ (∀ n, rebased (indented n s) = rebased s) ∧
      rebased (rebased s) = rebased s) ∧
    List.Forall₂ (LineMoved ((trimBlankLines (lines s.toList)).headD []) ((lines (rebased s).toList).headD []))
      (trimBlankLines (lines s.toList)) (lines (rebased s).toList) := by
  rw [trimBlankLines_lines hs]
  refine ⟨applyName_dedent s, fun _ hn => Expr.applyName_indent hn s, fun _ h => eval_printing h, dedented_dedented hs,
    fun hblank => ?_, forall₂_lineMoved hs⟩
  have hrows : ∀ l ∈ rows s.toList, isAllBlank l = true → l = [] := by
    rw [← trimBlankLines_lines hs]
    exact fun l hl => hblank l (mem_of_mem_trimBlankLines hl)
  have hmargin n : dedented (indented n s) = dedented s := dedented_indented n hs hrows
  exact ⟨hmargin, fun n => by rw [rebased, hmargin, rebased], rebased_rebased hs hrows⟩

/-- A script with an empty line in it, and with a last line that is less deep than the first one. -/
theorem rebased_laws_steps :
    let code := "\n        for (;;)\n\n            step();\n    done();\n\n"
    '\r' ∉ code.toList ∧ (∀ l ∈ lines code.toList, isAllBlank l = true → l = []) ∧
    dedented code = "for (;;)\n\n    step();\ndone();" ∧
    dedented (dedented code) = dedented code ∧
    dedented (indented 3 code) = dedented code ∧
    rebased code = "    for (;;)\n\n        step();\n    done();" ∧
    rebased (indented 3 code) = rebased code ∧
    rebased (rebased code) = rebased code ∧
    List.Forall₂ (LineMoved "        for (;;)".toList "    for (;;)".toList)
      ["        for (;;)".toList, [], "            step();".toList, "    done();".toList]
      ["    for (;;)".toList, [], "        step();".toList, "    done();".toList] := by
  intro code
  have hs : '\r' ∉ code.toList := by decide +kernel
  have hblank : ∀ l ∈ lines code.toList, isAllBlank l = true → l = [] := by decide +kernel
  have hlines : trimBlankLines (lines code.toList) =
      ["        for (;;)".toList, [], "            step();".toList, "    done();".toList] := by decide +kernel
  have hrebased : rebased code = "    for (;;)\n\n        step();\n    done();" := by decide +kernel
  have hprinted : lines (rebased code).toList =
      ["    for (;;)".toList, [], "        step();".toList, "    done();".toList] := by
    rw [hrebased]
    decide +kernel
  obtain ⟨-, -, -, hagain, hmoved, hrows⟩ := rebased_laws hs
  obtain ⟨hindent, hprint, hstill⟩ := hmoved hblank
  rw [hlines, hprinted] at hrows
  exact ⟨hs, hblank, by decide +kernel, hagain, hindent 3, hrebased, hprint 3, hstill, hrows⟩

end ClassScribe.Script
