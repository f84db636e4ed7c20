/-
This file says when folding strictly fails, and with what. The branches without a chain are those that still stand in
child lists, and the first of them is reported, where a branch comes after the branches inside it.
-/

import HtmlTemplate.Proofs.Template.Refolding
import HtmlTemplate.Proofs.Template.Traversal

namespace HtmlTemplate.Template

mutual

/-- The branches without a chain are the branches met through a node. -/
theorem filterMap_postorder : ∀ node : Node,
    node.postorder.filterMap Node.branch? = looseBranches node ++ node.branch?.toList
  | .root children _ => by
      simp [Node.postorder, looseBranches, Node.branch?, filterMap_postorderAll children]
  | .doctype _ _ => rfl
  | .text _ _ => rfl
  | .interpolated _ _ => rfl
  | .element _ _ children _ => by
      simp [Node.postorder, looseBranches, Node.branch?, filterMap_postorderAll children]
  | .loop _ _ body _ => by
      simp [Node.postorder, looseBranches, Node.branch?, filterMap_postorderAll body]
  | .branch branch => by
      simp [Node.postorder, looseBranches, Node.branch?, filterMap_postorderAll branch.body]
  | .chain branches _ => by
      simp [Node.postorder, looseBranches, Node.branch?, filterMap_postorderBodies branches]
  | .staticBlock children _ => by
      simp [Node.postorder, looseBranches, Node.branch?, filterMap_postorderAll children]

/-- The loose branches of siblings are met in postorder. -/
theorem filterMap_postorderAll : ∀ nodes : List Node,
    (postorderAll nodes).filterMap Node.branch? = siblingLooseBranches nodes
  | [] => rfl
  | node :: rest => by
      rw [postorderAll, List.filterMap_append, filterMap_postorder node,
        filterMap_postorderAll rest, siblingLooseBranches_cons]

/-- The loose branches inside of branches are met in postorder. -/
theorem filterMap_postorderBodies : ∀ branches : List (Branch Node),
    (postorderBodies branches).filterMap Node.branch? = branchLooseBranches branches
  | [] => rfl
  | branch :: rest => by
      rw [postorderBodies, List.filterMap_append, filterMap_postorderAll branch.body,
        filterMap_postorderBodies rest, branchLooseBranches]

end

mutual

/-- The branches without a chain are the branches in child lists. -/
theorem mem_looseBranches (branch : Branch Node) : ∀ node : Node,
    branch ∈ looseBranches node ↔ ∃ siblings ∈ node.childLists, .branch branch ∈ siblings
  | .root children _ => by
      simp [Node.childLists, looseBranches, mem_siblingLooseBranches branch children]
  | .doctype _ _ => by simp [Node.childLists, looseBranches]
  | .text _ _ => by simp [Node.childLists, looseBranches]
  | .interpolated _ _ => by simp [Node.childLists, looseBranches]
  | .element _ _ children _ => by
      simp [Node.childLists, looseBranches, mem_siblingLooseBranches branch children]
  | .loop _ _ body _ => by
      simp [Node.childLists, looseBranches, mem_siblingLooseBranches branch body]
  | .branch marked => by
      simp [Node.childLists, looseBranches, mem_siblingLooseBranches branch marked.body]
  | .chain branches _ => by
      simp [Node.childLists, looseBranches, mem_branchLooseBranches branch branches]
  | .staticBlock children _ => by
      simp [Node.childLists, looseBranches, mem_siblingLooseBranches branch children]

/-- A loose branch of siblings stands in one of the child lists. -/
theorem mem_siblingLooseBranches (branch : Branch Node) : ∀ nodes : List Node,
    branch ∈ siblingLooseBranches nodes ↔
      .branch branch ∈ nodes ∨ ∃ siblings ∈ childListsAll nodes, .branch branch ∈ siblings
  | [] => by simp [siblingLooseBranches, childListsAll]
  | node :: rest => by
      have here : branch ∈ node.branch?.toList ↔ .branch branch = node := by
        cases node <;> simp [Node.branch?]
      simp only [siblingLooseBranches_cons, List.mem_append, mem_looseBranches branch node,
        here, mem_siblingLooseBranches branch rest, childListsAll, List.mem_cons,
        or_and_right, exists_or]
      grind

/-- A loose branch inside of branches stands in a child list. -/
theorem mem_branchLooseBranches (branch : Branch Node) : ∀ branches : List (Branch Node),
    branch ∈ branchLooseBranches branches ↔
      ∃ siblings ∈ childListsBodies branches, .branch branch ∈ siblings
  | [] => by simp [branchLooseBranches, childListsBodies]
  | marked :: rest => by
      simp only [branchLooseBranches, List.mem_append, mem_siblingLooseBranches branch marked.body,
        mem_branchLooseBranches branch rest, childListsBodies, List.cons_append, List.mem_cons,
        or_and_right, exists_or, exists_eq_left, or_assoc]

end

/-- A template is without loose branches when no child list holds a branch. -/
theorem looseBranches_eq_nil_iff (node : Node) :
    looseBranches node = [] ↔
      ∀ siblings ∈ node.childLists, ∀ branch, .branch branch ∉ siblings := by
  rw [List.eq_nil_iff_forall_not_mem]
  simp only [mem_looseBranches, not_exists, not_and]
  exact ⟨fun absent siblings member branch => absent branch siblings member,
    fun absent branch siblings member => absent siblings member branch⟩

mutual

/-- The chains that start are the loose if branches. -/
theorem chainStarts_eq_countP : ∀ node : Node,
    chainStarts node = (looseBranches node).countP (·.kind == .ifCase)
  | .root children _ => siblingChainStarts_eq_countP children
  | .doctype _ _ => rfl
  | .text _ _ => rfl
  | .interpolated _ _ => rfl
  | .element _ _ children _ => siblingChainStarts_eq_countP children
  | .loop _ _ body _ => siblingChainStarts_eq_countP body
  | .branch branch => siblingChainStarts_eq_countP branch.body
  | .chain branches _ => branchChainStarts_eq_countP branches
  | .staticBlock children _ => siblingChainStarts_eq_countP children

/-- The chains that start among siblings are their if branches. -/
theorem siblingChainStarts_eq_countP : ∀ nodes : List Node,
    siblingChainStarts nodes = (siblingLooseBranches nodes).countP (·.kind == .ifCase)
  | [] => rfl
  | node :: rest => by
      have here : (if startsChain node then 1 else 0) =
          node.branch?.toList.countP (·.kind == .ifCase) := by
        cases node <;> simp [startsChain, Node.branch?, List.countP_cons]
      rw [siblingChainStarts_cons, siblingLooseBranches_cons, List.countP_append,
        List.countP_append, here, chainStarts_eq_countP node, siblingChainStarts_eq_countP rest]
      omega

/-- The chains that start inside of branches are their if branches. -/
theorem branchChainStarts_eq_countP : ∀ branches : List (Branch Node),
    branchChainStarts branches = (branchLooseBranches branches).countP (·.kind == .ifCase)
  | [] => rfl
  | branch :: rest => by
      rw [branchChainStarts, branchLooseBranches, List.countP_append,
        siblingChainStarts_eq_countP branch.body, branchChainStarts_eq_countP rest]

end

/-- No if branch is left without a chain. -/
theorem kind_of_mem_looseBranches {node : Node} {branch : Branch Node}
    (loose : branch ∈ looseBranches node.gathered) : branch.kind ≠ .ifCase := by
  have none := chainStarts_gathered node
  rw [chainStarts_eq_countP, List.countP_eq_zero] at none
  simpa using none branch loose

/-- Folding makes no node a branch. -/
theorem branch?_gathered {node : Node} (other : node.branch? = none) :
    node.gathered.branch? = none := by
  cases node with
  | branch => contradiction
  | _ => rfl

/-- An else branch without a chain is told from an else-if branch. -/
theorem orphanDiagnostic_cases {branch : Branch Node} (notIf : branch.kind ≠ .ifCase) :
    branch.kind = .elseCase ∧
        orphanDiagnostic branch = { code := .orphanElse, location := some branch.location } ∨
      branch.kind = .elseIfCase ∧
        orphanDiagnostic branch = { code := .orphanElseIf, location := some branch.location } := by
  cases kind : branch.kind with
  | ifCase => contradiction
  | elseIfCase => exact .inr ⟨rfl, by rw [orphanDiagnostic, kind]; rfl⟩
  | elseCase => exact .inl ⟨rfl, by rw [orphanDiagnostic, kind]; rfl⟩

/-- Strict folding fails exactly with the first branch left in a child list. -/
theorem fold_strict_outcome (node : Node) (other : node.branch? = none) :
    ∃ folded, fold false node = .ok folded ∧
      ((∃ result, fold true node = .ok result) ↔
        ∀ siblings ∈ folded.childLists, ∀ branch, .branch branch ∉ siblings) ∧
      (∀ result, fold true node = .ok result → result = folded) ∧
      ∀ fault, fold true node = .error fault →
        ∃ branch, folded.postorder.findSome? Node.branch? = some branch ∧
          (branch.kind = .elseCase ∧
              fault = { code := .orphanElse, location := some branch.location } ∨
            branch.kind = .elseIfCase ∧
              fault = { code := .orphanElseIf, location := some branch.location }) := by
  have strictly : fold true node = unlessLoose true (looseBranches node.gathered) node.gathered := by
    rw [fold_strict, fold_eq_gathered, Result.ok_bind]
  have met : node.gathered.postorder.findSome? Node.branch? = (looseBranches node.gathered).head? := by
    rw [← List.head?_filterMap, filterMap_postorder, branch?_gathered other,
      Option.toList_none, List.append_nil]
  refine ⟨node.gathered, fold_eq_gathered node, ?_⟩
  rw [strictly, met, ← looseBranches_eq_nil_iff]
  cases loose : looseBranches node.gathered with
  | nil => simp [eq_comm]
  | cons branch more =>
      have notIf : branch.kind ≠ .ifCase := kind_of_mem_looseBranches (loose ▸ List.mem_cons_self)
      refine ⟨by simp, by simp, ?_⟩
      intro fault failed
      rw [unlessLoose_cons] at failed
      obtain rfl := Except.error.inj failed
      exact ⟨branch, rfl, orphanDiagnostic_cases notIf⟩

/-- The place of the innermost branch below. -/
def innermostPlace : Location := ⟨⟨40, 2, 5⟩, ⟨80, 2, 45⟩, ""⟩

/-- A loop with an else branch that holds an else-if branch. -/
def nestedOrphans : Node :=
  .root
    [.loop "item" "items"
      [.branch ⟨.elseCase, none,
        [.branch ⟨.elseIfCase, some "x", [], innermostPlace⟩], .stub⟩] .stub] .stub

/-- A loop with nested branches fails with the inner one. -/
theorem fold_strict_outcome_nestedOrphans :
    nestedOrphans.branch? = none ∧
    ∃ folded, fold false nestedOrphans = .ok folded ∧
      (¬ ∀ siblings ∈ folded.childLists, ∀ branch, .branch branch ∉ siblings) ∧
      ∃ branch, folded.postorder.findSome? Node.branch? = some branch ∧
        branch.kind = .elseIfCase ∧
        fold true nestedOrphans =
          .error { code := .orphanElseIf, location := some branch.location } := by
  have failed : fold true nestedOrphans =
      .error { code := .orphanElseIf, location := some innermostPlace } := rfl
  obtain ⟨folded, leniently, succeeds, _, reports⟩ := fold_strict_outcome nestedOrphans rfl
  refine ⟨rfl, folded, leniently, ?_, ?_⟩
  · intro clean
    obtain ⟨result, success⟩ := succeeds.mpr clean
    rw [failed] at success
    contradiction
  · obtain ⟨branch, first, ⟨_, same⟩ | ⟨kind, same⟩⟩ := reports _ failed
    · simp at same
    · exact ⟨branch, first, kind, failed.trans (congrArg Except.error same)⟩

end HtmlTemplate.Template
