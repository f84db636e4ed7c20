/-
This file shows that merging neither empties a child list nor fills one, that merging a second time changes
nothing, and that merging keeps the branches that are without a chain.
-/

import HtmlTemplate.Proofs.Template.Folding
import HtmlTemplate.Template.Static

namespace HtmlTemplate.Template

@[simp] theorem allStatic_append (first second : List Node) :
    allStatic (first ++ second) = (allStatic first && allStatic second) := by
  induction first with
  | nil => simp [allStatic]
  | cons node rest inductionHypothesis => simp [allStatic, inductionHypothesis, Bool.and_assoc]

@[simp] theorem allStatic_reverse (nodes : List Node) :
    allStatic nodes.reverse = allStatic nodes := by
  induction nodes with
  | nil => rfl
  | cons node rest inductionHypothesis =>
      simp [allStatic, inductionHypothesis, Bool.and_comm]

/-- Merging neither empties a child list nor fills an empty one. -/
theorem mergeSiblings_isEmpty (run nodes : List Node) :
    (mergeSiblings run nodes).isEmpty = (run.isEmpty && nodes.isEmpty) := by
  induction nodes generalizing run with
  | nil => cases run <;> simp [mergeSiblings, staticBlockOf]
  | cons node rest inductionHypothesis =>
      rw [mergeSiblings]
      split
      · simp [inductionHypothesis]
      · simp

/-- A merged element keeps its end tag, and a void one stays without. -/
theorem closeTag_mergeSiblings (tag : String) (children : List Node) :
    closeTag tag (mergeSiblings [] children) = closeTag tag children := by
  simp [closeTag, closeTag?, mergeSiblings_isEmpty]

@[simp] theorem mergeSiblings_static {node : Node} (static : isStatic node = true)
    (run rest : List Node) : mergeSiblings run (node :: rest) = mergeSiblings (node :: run) rest := by
  rw [mergeSiblings, if_pos static]

/-- A sibling that data may change ends the run. -/
@[simp] theorem mergeSiblings_dynamic {node : Node} (dynamic : isStatic node = false)
    (run rest : List Node) : mergeSiblings run (node :: rest) =
      staticBlockOf run ++ mergeStatic node :: mergeSiblings [] rest := by
  rw [mergeSiblings, if_neg (by simp [dynamic])]

/-- A block from an earlier merging stays. -/
@[simp] theorem mergeSiblings_staticBlockOf_append (run rest : List Node) :
    mergeSiblings [] (staticBlockOf run ++ rest) = staticBlockOf run ++ mergeSiblings [] rest := by
  unfold staticBlockOf
  split
  · rfl
  · simp [mergeSiblings, isStatic, mergeStatic, staticBlockOf]

mutual

/-- A node that data may change is merged to one that data may change. -/
theorem isStatic_mergeStatic : ∀ {node : Node}, isStatic node = false →
    isStatic (mergeStatic node) = false
  | .element tag attributes children location, dynamic => by
      rw [mergeStatic, isStatic, allStatic_mergeSiblings]
      cases children with
      | nil => simp [isStatic, allStatic] at dynamic
      | cons node rest => rfl
  | .root children location, _ => rfl
  | .doctype doctype location, _ => rfl
  | .text content location, dynamic => dynamic
  | .interpolated parts location, _ => rfl
  | .loop iterator source body location, _ => rfl
  | .branch branch, _ => rfl
  | .chain branches location, _ => rfl
  | .staticBlock children html, _ => rfl

/-- No static node is left among merged siblings. -/
theorem allStatic_mergeSiblings : ∀ (run nodes : List Node),
    allStatic (mergeSiblings run nodes) = (run.isEmpty && nodes.isEmpty)
  | run, [] => by
      cases run <;> simp [mergeSiblings, staticBlockOf, allStatic, isStatic]
  | run, node :: rest => by
      cases static : isStatic node with
      | true => simp [mergeSiblings_static static, allStatic_mergeSiblings (node :: run) rest]
      | false => simp [mergeSiblings_dynamic static, allStatic, isStatic_mergeStatic static]

end

mutual

/-- Merging a second time changes nothing. -/
theorem mergeStatic_mergeStatic : ∀ node : Node, mergeStatic (mergeStatic node) = mergeStatic node
  | .root children location => by simp [mergeStatic, mergeSiblings_mergeSiblings]
  | .doctype doctype location => rfl
  | .text content location => rfl
  | .interpolated parts location => rfl
  | .element tag attributes children location => by simp [mergeStatic, mergeSiblings_mergeSiblings]
  | .loop iterator source body location => by simp [mergeStatic, mergeSiblings_mergeSiblings]
  | .branch branch => by simp [mergeStatic, mergeSiblings_mergeSiblings]
  | .chain branches location => by simp [mergeStatic, mergeBranches_mergeBranches]
  | .staticBlock children html => rfl

/-- Merging merged siblings changes nothing. -/
theorem mergeSiblings_mergeSiblings : ∀ run nodes : List Node,
    mergeSiblings [] (mergeSiblings run nodes) = mergeSiblings run nodes
  | run, [] => by
      have block := mergeSiblings_staticBlockOf_append run []
      simpa [mergeSiblings, staticBlockOf] using block
  | run, node :: rest => by
      cases static : isStatic node with
      | true => rw [mergeSiblings_static static, mergeSiblings_mergeSiblings (node :: run) rest]
      | false =>
          rw [mergeSiblings_dynamic static, mergeSiblings_staticBlockOf_append,
            mergeSiblings_dynamic (isStatic_mergeStatic static), mergeStatic_mergeStatic node,
            mergeSiblings_mergeSiblings [] rest]
          rfl

/-- Merging merged branches changes nothing. -/
theorem mergeBranches_mergeBranches : ∀ branches : List (Branch Node),
    mergeBranches (mergeBranches branches) = mergeBranches branches
  | [] => rfl
  | branch :: rest => by
      simp [mergeBranches, mergeSiblings_mergeSiblings, mergeBranches_mergeBranches rest]

end

/-- Merging keeps branches. -/
theorem length_branch?_mergeStatic (node : Node) :
    (mergeStatic node).branch?.toList.length = node.branch?.toList.length := by
  cases node <;> rfl

mutual

/-- No branch stands inside a static node. -/
theorem looseBranches_of_isStatic : ∀ {node : Node}, isStatic node = true → looseBranches node = []
  | .text _ _, _ => rfl
  | .element _ _ _ _, static => siblingLooseBranches_of_allStatic static

/-- No branch stands among static siblings. -/
theorem siblingLooseBranches_of_allStatic : ∀ {nodes : List Node}, allStatic nodes = true →
    siblingLooseBranches nodes = []
  | [], _ => rfl
  | node :: rest, static => by
      rw [allStatic, Bool.and_eq_true] at static
      have single : node.branch?.toList = [] := by
        cases node <;> simp_all [Node.branch?, isStatic]
      rw [siblingLooseBranches_cons, single, looseBranches_of_isStatic static.1,
        siblingLooseBranches_of_allStatic static.2]
      rfl

end

/-- No branch stands in a static block. -/
@[simp] theorem siblingLooseBranches_staticBlockOf {run : List Node}
    (static : allStatic run = true) : siblingLooseBranches (staticBlockOf run) = [] := by
  have inside : siblingLooseBranches run.reverse = [] :=
    siblingLooseBranches_of_allStatic (by simpa using static)
  unfold staticBlockOf
  split
  · rfl
  · simp [siblingLooseBranches, looseBranches, inside]

mutual

/-- Merging keeps the number of branches without a chain. -/
theorem looseBranches_mergeStatic : ∀ node : Node,
    (looseBranches (mergeStatic node)).length = (looseBranches node).length
  | .root children _ => siblingLooseBranches_mergeSiblings [] children rfl
  | .doctype _ _ => rfl
  | .text _ _ => rfl
  | .interpolated _ _ => rfl
  | .element _ _ children _ => siblingLooseBranches_mergeSiblings [] children rfl
  | .loop _ _ body _ => siblingLooseBranches_mergeSiblings [] body rfl
  | .branch branch => siblingLooseBranches_mergeSiblings [] branch.body rfl
  | .chain branches _ => branchLooseBranches_mergeBranches branches
  | .staticBlock _ _ => rfl

/-- Merging siblings keeps the number of loose branches. -/
theorem siblingLooseBranches_mergeSiblings : ∀ run nodes : List Node, allStatic run = true →
    (siblingLooseBranches (mergeSiblings run nodes)).length = (siblingLooseBranches nodes).length
  | run, [], static => by
      rw [mergeSiblings, siblingLooseBranches_staticBlockOf static]
      rfl
  | run, node :: rest, static => by
      cases kind : isStatic node with
      | true =>
          have nothing : siblingLooseBranches [node] = [] :=
            siblingLooseBranches_of_allStatic (by simp [allStatic, kind])
          have later := siblingLooseBranches_mergeSiblings (node :: run) rest
            (by simp [allStatic, kind, static])
          rw [mergeSiblings_static kind, later, ← List.singleton_append,
            siblingLooseBranches_append, nothing]
          rfl
      | false =>
          have here := looseBranches_mergeStatic node
          have later := siblingLooseBranches_mergeSiblings [] rest rfl
          rw [mergeSiblings_dynamic kind, siblingLooseBranches_append,
            siblingLooseBranches_staticBlockOf static, siblingLooseBranches_cons,
            siblingLooseBranches_cons]
          simp only [List.nil_append, List.length_append, here, later, length_branch?_mergeStatic]

/-- Merging branches keeps the number of loose branches. -/
theorem branchLooseBranches_mergeBranches : ∀ branches : List (Branch Node),
    (branchLooseBranches (mergeBranches branches)).length = (branchLooseBranches branches).length
  | [] => rfl
  | branch :: rest => by
      simp [mergeBranches, branchLooseBranches,
        siblingLooseBranches_mergeSiblings [] branch.body rfl,
        branchLooseBranches_mergeBranches rest]

end

end HtmlTemplate.Template
