/-
This file says where the stray branches of a template stand, and that strict and lenient modules agree on them. The
branches outside of chains are met in the order of the template, and nothing is looked for inside of one or inside of a
static block.
-/

import HtmlTemplate.Proofs.Script.Strictness
import HtmlTemplate.Proofs.Template.Visits

namespace HtmlTemplate.Script

open Template

/-- Whether lowering passes by what is inside a node. -/
def isSealed : Node → Bool
  | .branch _ => true
  | .staticBlock _ _ => true
  | _ => false

/-- The branch outside of chains that is visited, unless it is sealed in. -/
def strayBranch? (visit : Visit Node) : Option (Branch Node) :=
  if visit.around.any isSealed then none else visit.node.branch?

theorem allStrayBranches_eq_flatMap (nodes : List Node) :
    allStrayBranches nodes = nodes.flatMap strayBranches := by
  induction nodes with
  | nil => rfl
  | cons node rest inductionHypothesis =>
      rw [allStrayBranches, List.flatMap_cons, inductionHypothesis]

theorem armStrayBranches_eq_flatMap (branches : List (Branch Node)) :
    armStrayBranches branches = (branches.map (·.body)).flatMap allStrayBranches := by
  induction branches with
  | nil => rfl
  | cons branch rest inductionHypothesis =>
      rw [armStrayBranches, inductionHypothesis, List.map_cons, List.flatMap_cons]

/-- The stray branches of a node are its own and those inside. -/
theorem strayBranches_eq (node : Node) :
    strayBranches node = node.branch?.toList ++
      if isSealed node then [] else node.bodies.flatMap allStrayBranches := by
  cases node <;>
    simp [strayBranches, Node.branch?, isSealed, Node.bodies, Node.children?,
      armStrayBranches_eq_flatMap]

/-- No stray branch stands inside of a node that lowering passes by. -/
theorem filterMap_visitsAll_sealed {around : List Node} (inSealed : around.any isSealed = true)
    (nodes : List Node) : (visitsAll around nodes).filterMap strayBranch? = [] := by
  rw [List.filterMap_eq_nil_iff, visitsAll_eq_flatMap]
  intro visit member
  obtain ⟨node, -, visited⟩ := List.mem_flatMap.mp member
  obtain ⟨inner, whole⟩ := Node.around_suffix_of_mem_visits visited
  rw [strayBranch?, ← whole, List.any_append, inSealed, Bool.or_true, if_pos rfl]

/-- The stray branches are the branches visited that no node seals in. -/
theorem filterMap_visits {around : List Node} (inOpen : around.any isSealed = false) (node : Node) :
    (node.visits around).filterMap strayBranch? = strayBranches node := by
  induction node using Node.bodyInduction generalizing around with
  | step node inductionHypothesis =>
      have here : [⟨around, node⟩].filterMap strayBranch? = node.branch?.toList := by
        simp only [List.filterMap_cons, strayBranch?, inOpen]
        cases node.branch? <;> rfl
      rw [Node.visits_eq, strayBranches_eq, ← List.singleton_append, List.filterMap_append, here,
        List.filterMap_flatMap]
      congr 1
      cases kind : isSealed node with
      | true =>
          rw [if_pos rfl, List.flatMap_eq_nil_iff]
          intro body _
          exact filterMap_visitsAll_sealed (by rw [List.any_cons, kind, Bool.true_or]) body
      | false =>
          rw [if_neg Bool.false_ne_true]
          refine List.flatMap_congr fun body isBody => ?_
          rw [visitsAll_eq_flatMap, allStrayBranches_eq_flatMap, List.filterMap_flatMap]
          exact List.flatMap_congr fun child member =>
            inductionHypothesis body isBody child member (by rw [List.any_cons, kind, inOpen]; rfl)

/-- Stray branches are noted leniently, and the first one fails a strict run. -/
theorem generate_strict_outcome (options : Options) (name : String) (template : Node) :
    ∃ lenient, generate { options with strict := false } name template = .ok lenient ∧
      lenient.diagnostics = ((template.visits []).filterMap strayBranch?).map (fun branch =>
        { code := .strayBranch
          location := some branch.location
          detail := some branch.kind.directive }) ∧
      (∀ fault, generate { options with strict := true } name template = .error fault ↔
        lenient.diagnostics.head? = some fault) ∧
      ∀ strict, generate { options with strict := true } name template = .ok strict ↔
        lenient.diagnostics = [] ∧ strict = lenient := by
  obtain ⟨code, leniently⟩ := generate_lenient { options with strict := false } rfl name template
  refine ⟨_, leniently, ?_, ?_⟩
  · rw [filterMap_visits rfl]
    rfl
  · rw [generate_strict, leniently, Result.ok_bind, Generated.refuse]
    cases (strayBranches template).map strayDiagnostic with
    | nil => simp [eq_comm]
    | cons fault rest => simp

end HtmlTemplate.Script
