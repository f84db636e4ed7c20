/-
This file shows that merging static runs does not change the module of a template. The block of a
template is put together from the blocks of its parts, and a static part has a block of one literal.
-/

import HtmlTemplate.Proofs.Script.Emitter
import HtmlTemplate.Proofs.Template.Merging

namespace HtmlTemplate.Script

open Template

/-- The block of siblings. -/
def blockOfAll (options : Options) (nodes : List Node) :
    Except Diagnostic (Lowered (List Statement)) := do
  return (← lowerAll options nodes).map (joinLiterals "")

/-- Joins two blocks that follow each other. -/
def joinBlocks (first second : List Statement) : List Statement := joinLiterals "" (first ++ second)

/-- Joining joined blocks joins all their statements. -/
theorem joinBlocks_joined (first second : List Statement) :
    joinBlocks (joinLiterals "" first) (joinLiterals "" second) =
      joinLiterals "" (first ++ second) := by
  rw [joinBlocks, joinLiterals_append_joined, joinLiterals_joined, String.append_empty]

/-- Siblings in a row are lowered in a row. -/
theorem lowerAll_append (options : Options) (first second : List Node) :
    lowerAll options (first ++ second) = (do
      let before ← lowerAll options first
      let after ← lowerAll options second
      return Lowered.combine (· ++ ·) before after) := by
  induction first with
  | nil =>
      rw [List.nil_append, lowerAll]
      cases lowerAll options second <;> rfl
  | cons node rest inductionHypothesis =>
      simp [lowerAll, inductionHypothesis, Lowered.combine, List.append_assoc]

/-- The block of siblings joins the block of the first. -/
theorem blockOfAll_cons (options : Options) (node : Node) (rest : List Node) :
    blockOfAll options (node :: rest) = (do
      let first ← blockOf options node
      let others ← blockOfAll options rest
      return Lowered.combine joinBlocks first others) := by
  simp [blockOfAll, blockOf, lowerAll, Lowered.map, Lowered.combine, joinBlocks_joined]

/-- The block of siblings in a row joins both blocks. -/
theorem blockOfAll_append (options : Options) (first second : List Node) :
    blockOfAll options (first ++ second) = (do
      let before ← blockOfAll options first
      let after ← blockOfAll options second
      return Lowered.combine joinBlocks before after) := by
  simp [blockOfAll, lowerAll_append, Lowered.map, Lowered.combine, joinBlocks_joined]

theorem blockOf_root (options : Options) (children : List Node) (location : Location) :
    blockOf options (.root children location) = blockOfAll options children := by
  simp [blockOf, blockOfAll, lower]

/-- The block of an element joins its tags with its content. -/
theorem blockOf_element (options : Options) (tag : String) (attributes : List Attribute)
    (children : List Node) (location : Location) :
    blockOf options (.element tag attributes children location) = (do
      let content ← blockOfAll options children
      return content.map fun block =>
        joinLiterals (openTag tag attributes) (block ++ [.literal (closeTag tag children)])) := by
  simp [blockOf, blockOfAll, lower, Lowered.map, joinLiterals, joinLiterals_joined]

/-- The block of a loop holds the block of its body. -/
theorem blockOf_loop (options : Options) (iterator source : String) (body : List Node)
    (location : Location) :
    blockOf options (.loop iterator source body location) = (do
      let content ← blockOfAll options body
      return content.map fun block => [.loop iterator source block]) := by
  simp [blockOf, blockOfAll, lower, Lowered.map, joinLiterals]

theorem blockOf_chain (options : Options) (branches : List (Branch Node)) (location : Location) :
    blockOf options (.chain branches location) = (do
      return (← lowerBranches options true branches).map fun arms => [.conditional arms]) := by
  simp [blockOf, lower, Lowered.map, joinLiterals]

/-- Each arm has the block of its body. -/
theorem lowerBranches_cons (options : Options) (isFirst : Bool) (branch : Branch Node)
    (rest : List (Branch Node)) :
    lowerBranches options isFirst (branch :: rest) = (do
      let content ← blockOfAll options branch.body
      let others ← lowerBranches options false rest
      return Lowered.combine (fun block arms => ⟨clauseOf isFirst branch, block⟩ :: arms)
        content others) := by
  simp [lowerBranches, blockOfAll, Lowered.map, Lowered.combine]

mutual

/-- The block of a static node is the literal of its static markup. -/
theorem blockOf_isStatic (options : Options) :
    ∀ node : Node, isStatic node = true →
      blockOf options node = .ok (.plain (literalStatement (staticHtml node)))
  | .text content location, _ => by
      simp [blockOf, lower, staticHtml, Lowered.map, Lowered.plain, joinLiterals]
  | .element tag attributes children location, static => by
      have content := blockOfAll_allStatic options children (by simpa [isStatic] using static)
      simp [blockOf_element, content, staticHtml, Lowered.map, Lowered.plain,
        joinLiterals_literalStatement, joinLiterals]

/-- The block of static siblings is their markup. -/
theorem blockOfAll_allStatic (options : Options) :
    ∀ nodes : List Node, allStatic nodes = true →
      blockOfAll options nodes = .ok (.plain (literalStatement (allStaticHtml nodes)))
  | [], _ => by simp [blockOfAll, lowerAll, allStaticHtml, Lowered.map, Lowered.plain, joinLiterals]
  | node :: rest, static => by
      simp only [allStatic, Bool.and_eq_true] at static
      have first := blockOf_isStatic options node static.1
      have others := blockOfAll_allStatic options rest static.2
      have joined := joinLiterals_literalStatement (staticHtml node) (allStaticHtml rest) []
      simp only [List.append_nil] at joined
      simp [blockOfAll_cons, first, others, allStaticHtml, Lowered.combine, Lowered.plain,
        joinBlocks, joinLiterals_literalStatement, joined, joinLiterals]

end

/-- The block of a run lowers as the run itself. -/
theorem blockOfAll_staticBlockOf (options : Options) (run : List Node)
    (static : allStatic run = true) :
    blockOfAll options (staticBlockOf run) = blockOfAll options run.reverse := by
  rw [blockOfAll_allStatic options run.reverse (by simpa using static)]
  cases run with
  | nil => simp [staticBlockOf, blockOfAll, lowerAll, allStaticHtml, Lowered.map, Lowered.plain,
      joinLiterals]
  | cons node rest => simp [staticBlockOf, blockOfAll, lowerAll, lower, Lowered.map,
      Lowered.combine, Lowered.plain, joinLiterals]

mutual

/-- A merged node has the same block as before, or the same diagnostic. -/
theorem blockOf_mergeStatic (options : Options) :
    ∀ node : Node, blockOf options (mergeStatic node) = blockOf options node
  | .root children location => by
      have content : blockOfAll options (mergeSiblings [] children) = blockOfAll options children :=
        blockOfAll_mergeSiblings options [] children rfl
      simp only [mergeStatic, blockOf_root, content]
  | .doctype doctype location => by simp only [mergeStatic]
  | .text content location => by simp only [mergeStatic]
  | .interpolated parts location => by simp only [mergeStatic]
  | .element tag attributes children location => by
      have content : blockOfAll options (mergeSiblings [] children) = blockOfAll options children :=
        blockOfAll_mergeSiblings options [] children rfl
      simp only [mergeStatic, blockOf_element, closeTag_mergeSiblings, content]
  | .loop iterator source body location => by
      have content : blockOfAll options (mergeSiblings [] body) = blockOfAll options body :=
        blockOfAll_mergeSiblings options [] body rfl
      simp only [mergeStatic, blockOf_loop, content]
  | .branch branch => by
      -- The body of a stray branch is merged, but neither its marker nor its diagnostic shows it.
      simp only [mergeStatic, blockOf, lower, strayDiagnostic]
  | .chain branches location => by
      simp only [mergeStatic, blockOf_chain, lowerBranches_mergeBranches options true branches]
  | .staticBlock children html => by simp only [mergeStatic]

/-- The siblings after a run have the block they have behind it. -/
theorem blockOfAll_mergeSiblings (options : Options) :
    ∀ run nodes : List Node, allStatic run = true →
      blockOfAll options (mergeSiblings run nodes) = blockOfAll options (run.reverse ++ nodes)
  | run, [], static => by
      simpa only [mergeSiblings, List.append_nil] using blockOfAll_staticBlockOf options run static
  | run, node :: rest, static => by
      rw [mergeSiblings]
      split
      · rename_i isStaticNode
        have longer : allStatic (node :: run) = true := by simp [allStatic, isStaticNode, static]
        rw [blockOfAll_mergeSiblings options (node :: run) rest longer]
        simp
      · have others : blockOfAll options (mergeSiblings [] rest) = blockOfAll options rest :=
          blockOfAll_mergeSiblings options [] rest rfl
        rw [blockOfAll_append, blockOfAll_append, blockOfAll_staticBlockOf options run static]
        simp only [blockOfAll_cons, blockOf_mergeStatic options node, others]

/-- Merging the bodies of branches changes no arm. -/
theorem lowerBranches_mergeBranches (options : Options) :
    ∀ (isFirst : Bool) (branches : List (Branch Node)),
      lowerBranches options isFirst (mergeBranches branches) =
        lowerBranches options isFirst branches
  | isFirst, [] => by simp only [mergeBranches]
  | isFirst, branch :: rest => by
      have content : blockOfAll options (mergeSiblings [] branch.body) =
          blockOfAll options branch.body :=
        blockOfAll_mergeSiblings options [] branch.body rfl
      simp only [mergeBranches, lowerBranches_cons, content, clauseOf,
        lowerBranches_mergeBranches options false rest]

end

/-- Merging static runs is invisible in modules, diagnostics and errors. -/
theorem generate_mergeStatic (options : Options) (name : String) (template : Node) :
    generate options name (mergeStatic template) = generate options name template := by
  rw [generate_eq_writeModule, generate_eq_writeModule, blockOf_mergeStatic]

end HtmlTemplate.Script
