/-
This file goes through a template with the nodes around each node in view. It tells how deep a node stands and what it
stands inside of.
-/

import Mathlib.Data.List.Basic
import HtmlTemplate.Proofs.Template.Traversal

namespace HtmlTemplate

/-- A node of a tree with the nodes around it, the innermost first. -/
structure Visit (Node : Type) where
  around : List Node
  node : Node

/-- The number of nodes around a node. -/
def Visit.depth {Node : Type} (visit : Visit Node) : Nat := visit.around.length

namespace Template

mutual

/-- The visits to a node and to all nodes inside it, in order. -/
def Node.visits (around : List Node) : Node → List (Visit Node)
  | .root children location =>
      ⟨around, .root children location⟩ :: visitsAll (.root children location :: around) children
  | .doctype doctype location => [⟨around, .doctype doctype location⟩]
  | .text content location => [⟨around, .text content location⟩]
  | .interpolated parts location => [⟨around, .interpolated parts location⟩]
  | .element tag attributes children location =>
      ⟨around, .element tag attributes children location⟩ ::
        visitsAll (.element tag attributes children location :: around) children
  | .loop iterator source body location =>
      ⟨around, .loop iterator source body location⟩ ::
        visitsAll (.loop iterator source body location :: around) body
  | .branch branch => ⟨around, .branch branch⟩ :: visitsAll (.branch branch :: around) branch.body
  | .chain branches location =>
      ⟨around, .chain branches location⟩ ::
        visitsBodies (.chain branches location :: around) branches
  | .staticBlock children html =>
      ⟨around, .staticBlock children html⟩ :: visitsAll (.staticBlock children html :: around) children

def visitsAll (around : List Node) : List Node → List (Visit Node)
  | [] => []
  | node :: rest => node.visits around ++ visitsAll around rest

def visitsBodies (around : List Node) : List (Branch Node) → List (Visit Node)
  | [] => []
  | branch :: rest => visitsAll around branch.body ++ visitsBodies around rest

end

/-- The child lists of a node itself, without those of the nodes inside it. -/
def Node.bodies : Node → List (List Node)
  | .chain branches _ => branches.map (·.body)
  | other => other.children?.toList

/-- A node is smaller than the node around it. -/
theorem sizeOf_lt_of_mem_bodies {node child : Node} {body : List Node} (isBody : body ∈ node.bodies)
    (member : child ∈ body) : sizeOf child < sizeOf node := by
  have smaller := List.sizeOf_lt_of_mem member
  cases node with
  | chain branches location =>
      obtain ⟨branch, isBranch, rfl⟩ := List.mem_map.mp isBody
      have branchSmaller := List.sizeOf_lt_of_mem isBranch
      rcases branch with ⟨kind, condition, content, place⟩
      simp only [Branch.mk.sizeOf_spec, Node.chain.sizeOf_spec] at *
      omega
  | branch marked =>
      obtain rfl : body = marked.body := by simpa [Node.bodies, Node.children?] using isBody
      rcases marked with ⟨kind, condition, content, place⟩
      simp only [Branch.mk.sizeOf_spec, Node.branch.sizeOf_spec] at *
      omega
  | doctype => contradiction
  | text => contradiction
  | interpolated => contradiction
  | _ =>
      simp only [Node.bodies, Node.children?, Option.toList_some, List.mem_singleton] at isBody
      obtain rfl := isBody
      simp only [Node.root.sizeOf_spec, Node.element.sizeOf_spec, Node.loop.sizeOf_spec,
        Node.staticBlock.sizeOf_spec]
      omega

/-- What passes from children to a node holds of all nodes. -/
@[elab_as_elim]
theorem Node.bodyInduction {motive : Node → Prop}
    (step : ∀ node : Node, (∀ body ∈ node.bodies, ∀ child ∈ body, motive child) → motive node)
    (node : Node) : motive node :=
  step node fun _ isBody child member =>
    have _smaller := sizeOf_lt_of_mem_bodies isBody member
    Node.bodyInduction step child
termination_by sizeOf node

theorem visitsAll_eq_flatMap (around nodes : List Node) :
    visitsAll around nodes = nodes.flatMap (Node.visits around) := by
  induction nodes with
  | nil => rfl
  | cons node rest inductionHypothesis => rw [visitsAll, List.flatMap_cons, inductionHypothesis]

theorem preorderAll_eq_flatMap (nodes : List Node) :
    preorderAll nodes = nodes.flatMap Node.preorder := by
  induction nodes with
  | nil => rfl
  | cons node rest inductionHypothesis => rw [preorderAll, List.flatMap_cons, inductionHypothesis]

theorem visitsBodies_eq_flatMap (around : List Node) (branches : List (Branch Node)) :
    visitsBodies around branches = (branches.map (·.body)).flatMap (visitsAll around) := by
  induction branches with
  | nil => rfl
  | cons branch rest inductionHypothesis =>
      rw [visitsBodies, inductionHypothesis, List.map_cons, List.flatMap_cons]

theorem preorderBodies_eq_flatMap (branches : List (Branch Node)) :
    preorderBodies branches = (branches.map (·.body)).flatMap preorderAll := by
  induction branches with
  | nil => rfl
  | cons branch rest inductionHypothesis =>
      rw [preorderBodies, inductionHypothesis, List.map_cons, List.flatMap_cons]

/-- A node is visited before its child lists, and stands around them. -/
theorem Node.visits_eq (around : List Node) (node : Node) :
    node.visits around = ⟨around, node⟩ :: node.bodies.flatMap (visitsAll (node :: around)) := by
  cases node <;> simp [Node.visits, Node.bodies, Node.children?, visitsBodies_eq_flatMap]

theorem visitsAll_append (around first second : List Node) :
    visitsAll around (first ++ second) = visitsAll around first ++ visitsAll around second := by
  simp only [visitsAll_eq_flatMap, List.flatMap_append]

theorem visitsAll_singleton (around : List Node) (node : Node) :
    visitsAll around [node] = ⟨around, node⟩ :: node.bodies.flatMap (visitsAll (node :: around)) := by
  rw [visitsAll, visitsAll, List.append_nil, Node.visits_eq]

/-- A node comes before the nodes inside it. -/
theorem Node.preorder_eq (node : Node) :
    node.preorder = node :: node.bodies.flatMap preorderAll := by
  cases node <;> simp [Node.preorder, Node.bodies, Node.children?, preorderBodies_eq_flatMap]

/-- A node among siblings stands in one of them. -/
theorem mem_preorderAll {nodes : List Node} {part : Node} :
    part ∈ preorderAll nodes ↔ ∃ node ∈ nodes, part ∈ node.preorder := by
  rw [preorderAll_eq_flatMap, List.mem_flatMap]

/-- A node inside another is that one or stands in a child. -/
theorem Node.mem_preorder {node part : Node} :
    part ∈ node.preorder ↔
      part = node ∨ ∃ body ∈ node.bodies, ∃ child ∈ body, part ∈ child.preorder := by
  rw [Node.preorder_eq, List.mem_cons, List.mem_flatMap]
  simp only [mem_preorderAll]

/-- The visits lead to the nodes of a template in their order. -/
theorem Node.map_node_visits (around : List Node) (node : Node) :
    (node.visits around).map (·.node) = node.preorder := by
  induction node using Node.bodyInduction generalizing around with
  | step node inductionHypothesis =>
      rw [Node.visits_eq, Node.preorder_eq, List.map_cons, List.map_flatMap]
      congr 1
      refine List.flatMap_congr fun body isBody => ?_
      rw [visitsAll_eq_flatMap, preorderAll_eq_flatMap, List.map_flatMap]
      exact List.flatMap_congr fun child member => inductionHypothesis body isBody child member _

/-- A visit inside a node is to it or inside a child. -/
theorem Node.mem_visits {around : List Node} {node : Node} {visit : Visit Node} :
    visit ∈ node.visits around ↔ visit = ⟨around, node⟩ ∨
      ∃ body ∈ node.bodies, ∃ child ∈ body, visit ∈ child.visits (node :: around) := by
  rw [Node.visits_eq, List.mem_cons, List.mem_flatMap]
  simp only [visitsAll_eq_flatMap, List.mem_flatMap]

/-- A visit inside a node is to a node inside it. -/
theorem Node.node_mem_preorder {around : List Node} {node : Node} {visit : Visit Node}
    (member : visit ∈ node.visits around) : visit.node ∈ node.preorder := by
  rw [← Node.map_node_visits around node]
  exact List.mem_map_of_mem member

/-- What is around a node is around all nodes inside it. -/
theorem Node.around_suffix_of_mem_visits {around : List Node} {node : Node} {visit : Visit Node}
    (member : visit ∈ node.visits around) : around <:+ visit.around := by
  induction node using Node.bodyInduction generalizing around with
  | step node inductionHypothesis =>
      rcases Node.mem_visits.mp member with rfl | ⟨body, isBody, child, isChild, inside⟩
      · exact List.suffix_rfl
      · exact (List.suffix_cons node around).trans (inductionHypothesis body isBody child isChild inside)

end Template

end HtmlTemplate
