/-
This file goes through the whole of a template: through its nodes, each before or after the nodes inside it, and
through its child lists.
-/

import HtmlTemplate.Template.Node

namespace HtmlTemplate.Template

namespace Node

def branch? : Node → Option (Branch Node)
  | .branch marked => some marked
  | _ => none

def isChain : Node → Bool
  | .chain _ _ => true
  | _ => false

end Node

mutual

/-- A node and all nodes inside it, in the order of the template. -/
def Node.preorder : Node → List Node
  | .root children location => .root children location :: preorderAll children
  | .doctype doctype location => [.doctype doctype location]
  | .text content location => [.text content location]
  | .interpolated parts location => [.interpolated parts location]
  | .element tag attributes children location =>
      .element tag attributes children location :: preorderAll children
  | .loop iterator source body location =>
      .loop iterator source body location :: preorderAll body
  | .branch branch => .branch branch :: preorderAll branch.body
  | .chain branches location => .chain branches location :: preorderBodies branches
  | .staticBlock children html => .staticBlock children html :: preorderAll children

def preorderAll : List Node → List Node
  | [] => []
  | node :: rest => node.preorder ++ preorderAll rest

def preorderBodies : List (Branch Node) → List Node
  | [] => []
  | branch :: rest => preorderAll branch.body ++ preorderBodies rest

end

mutual

/-- All nodes inside a node, and then the node itself. -/
def Node.postorder : Node → List Node
  | .root children location => postorderAll children ++ [.root children location]
  | .doctype doctype location => [.doctype doctype location]
  | .text content location => [.text content location]
  | .interpolated parts location => [.interpolated parts location]
  | .element tag attributes children location =>
      postorderAll children ++ [.element tag attributes children location]
  | .loop iterator source body location =>
      postorderAll body ++ [.loop iterator source body location]
  | .branch branch => postorderAll branch.body ++ [.branch branch]
  | .chain branches location => postorderBodies branches ++ [.chain branches location]
  | .staticBlock children html => postorderAll children ++ [.staticBlock children html]

def postorderAll : List Node → List Node
  | [] => []
  | node :: rest => node.postorder ++ postorderAll rest

def postorderBodies : List (Branch Node) → List Node
  | [] => []
  | branch :: rest => postorderAll branch.body ++ postorderBodies rest

end

mutual

/-- The child lists of a node and of all nodes inside it. -/
def Node.childLists : Node → List (List Node)
  | .root children _ => children :: childListsAll children
  | .doctype _ _ => []
  | .text _ _ => []
  | .interpolated _ _ => []
  | .element _ _ children _ => children :: childListsAll children
  | .loop _ _ body _ => body :: childListsAll body
  | .branch branch => branch.body :: childListsAll branch.body
  | .chain branches _ => childListsBodies branches
  | .staticBlock children _ => children :: childListsAll children

def childListsAll : List Node → List (List Node)
  | [] => []
  | node :: rest => node.childLists ++ childListsAll rest

def childListsBodies : List (Branch Node) → List (List Node)
  | [] => []
  | branch :: rest => branch.body :: childListsAll branch.body ++ childListsBodies rest

end

section

variable (first second : List Node)

@[simp] theorem preorderAll_append :
    preorderAll (first ++ second) = preorderAll first ++ preorderAll second := by
  induction first with
  | nil => rfl
  | cons node rest inductionHypothesis => simp [preorderAll, inductionHypothesis]

@[simp] theorem postorderAll_append :
    postorderAll (first ++ second) = postorderAll first ++ postorderAll second := by
  induction first with
  | nil => rfl
  | cons node rest inductionHypothesis => simp [postorderAll, inductionHypothesis]

@[simp] theorem childListsAll_append :
    childListsAll (first ++ second) = childListsAll first ++ childListsAll second := by
  induction first with
  | nil => rfl
  | cons node rest inductionHypothesis => simp [childListsAll, inductionHypothesis]

end

@[simp] theorem postorderBodies_append (first second : List (Branch Node)) :
    postorderBodies (first ++ second) = postorderBodies first ++ postorderBodies second := by
  induction first with
  | nil => rfl
  | cons branch rest inductionHypothesis => simp [postorderBodies, inductionHypothesis]

/-- A node inside of branches stands in one of their bodies. -/
theorem mem_preorderBodies {found : Node} {branches : List (Branch Node)} :
    found ∈ preorderBodies branches ↔ ∃ branch ∈ branches, found ∈ preorderAll branch.body := by
  induction branches with
  | nil => simp [preorderBodies]
  | cons branch rest inductionHypothesis => simp [preorderBodies, inductionHypothesis]

/-- A node is met on the way through it. -/
theorem Node.mem_postorder (node : Node) : node ∈ node.postorder := by
  cases node <;> simp [Node.postorder]

/-- A sibling is met on the way through siblings. -/
theorem mem_postorderAll {node : Node} {nodes : List Node} (member : node ∈ nodes) :
    node ∈ postorderAll nodes := by
  obtain ⟨before, after, rfl⟩ := List.append_of_mem member
  rw [postorderAll_append, postorderAll]
  exact List.mem_append_right _ (List.mem_append_left _ node.mem_postorder)

/-- Whether none of the nodes is a chain. -/
def NoChains (nodes : List Node) : Prop := ∀ node ∈ nodes, node.isChain = false

/-- Without chains inside there are none among siblings. -/
theorem NoChains.siblings {nodes : List Node} (plain : NoChains (postorderAll nodes)) :
    NoChains nodes :=
  fun node member => plain node (mem_postorderAll member)

mutual

/-- The nodes of a child list are met on the way through the node. -/
theorem postorderAll_subset_of_mem : ∀ (node : Node) {siblings : List Node},
    siblings ∈ node.childLists → postorderAll siblings ⊆ node.postorder
  | .root children _, _, member =>
      List.subset_append_of_subset_left _ (postorderAll_subset_of_mem_cons children member)
  | .doctype _ _, _, member => absurd member List.not_mem_nil
  | .text _ _, _, member => absurd member List.not_mem_nil
  | .interpolated _ _, _, member => absurd member List.not_mem_nil
  | .element _ _ children _, _, member =>
      List.subset_append_of_subset_left _ (postorderAll_subset_of_mem_cons children member)
  | .loop _ _ body _, _, member =>
      List.subset_append_of_subset_left _ (postorderAll_subset_of_mem_cons body member)
  | .branch branch, _, member =>
      List.subset_append_of_subset_left _ (postorderAll_subset_of_mem_cons branch.body member)
  | .chain branches _, _, member =>
      List.subset_append_of_subset_left _ (postorderAll_subset_of_mem_bodies branches member)
  | .staticBlock children _, _, member =>
      List.subset_append_of_subset_left _ (postorderAll_subset_of_mem_cons children member)

/-- The nodes of child lists are met on the way. -/
theorem postorderAll_subset_of_mem_cons : ∀ (nodes : List Node) {siblings : List Node},
    siblings ∈ nodes :: childListsAll nodes → postorderAll siblings ⊆ postorderAll nodes
  | [], _, member => by
      obtain rfl := List.mem_singleton.mp member
      exact List.Subset.refl _
  | node :: rest, _, member => by
      rcases List.mem_cons.mp member with rfl | inside
      · exact List.Subset.refl _
      · rcases List.mem_append.mp inside with here | later
        · exact List.subset_append_of_subset_left _ (postorderAll_subset_of_mem node here)
        · exact List.subset_append_of_subset_right _
            (postorderAll_subset_of_mem_cons rest (List.mem_cons_of_mem rest later))

/-- The nodes in bodies of branches are met on the way. -/
theorem postorderAll_subset_of_mem_bodies : ∀ (branches : List (Branch Node)) {siblings : List Node},
    siblings ∈ childListsBodies branches → postorderAll siblings ⊆ postorderBodies branches
  | [], _, member => absurd member List.not_mem_nil
  | branch :: rest, _, member => by
      rcases List.mem_append.mp member with here | later
      · exact List.subset_append_of_subset_left _ (postorderAll_subset_of_mem_cons branch.body here)
      · exact List.subset_append_of_subset_right _ (postorderAll_subset_of_mem_bodies rest later)

end

end HtmlTemplate.Template
