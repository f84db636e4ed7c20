/-
This file says what reading guarantees of every document: all that is wrong with it has a code of
markup, and its void elements have no content.
-/

import HtmlTemplate.Proofs.Markup.Steps

namespace HtmlTemplate.Markup

mutual

/-- A node and all nodes inside it, in the order of the document. -/
def Node.preorder : Node → List Node
  | .doctype doctype location => [.doctype doctype location]
  | .comment content location => [.comment content location]
  | .text content location => [.text content location]
  | .element tag attributes children detached location =>
      .element tag attributes children detached location :: preorderAll children

def preorderAll : List Node → List Node
  | [] => []
  | node :: rest => node.preorder ++ preorderAll rest

end

/-- A node inside siblings is inside one of them. -/
theorem mem_preorderAll {found : Node} {nodes : List Node} :
    found ∈ preorderAll nodes ↔ ∃ node ∈ nodes, found ∈ node.preorder := by
  induction nodes with
  | nil => simp [preorderAll]
  | cons node rest inductionHypothesis => simp [preorderAll, inductionHypothesis]

theorem mem_preorderAll_reverse {found : Node} {nodes : List Node} :
    found ∈ preorderAll nodes.reverse ↔ found ∈ preorderAll nodes := by
  simp only [mem_preorderAll, List.mem_reverse]

theorem preorderAll_append (first second : List Node) :
    preorderAll (first ++ second) = preorderAll first ++ preorderAll second := by
  induction first with
  | nil => rfl
  | cons node rest inductionHypothesis =>
      rw [List.cons_append, preorderAll, preorderAll, inductionHypothesis, List.append_assoc]

/-- A void element has no content. -/
def Node.KeepsVoid (options : ReadOptions) : Node → Prop
  | .doctype _ _ => True
  | .comment _ _ => True
  | .text _ _ => True
  | .element tag _ children _ _ => options.isVoid tag = true → children = []

theorem Node.preorder_of_isLeaf {node : Node} (leaf : node.isLeaf = true) : node.preorder = [node] := by
  cases node with
  | element tag attributes children detached location =>
      obtain rfl : children = [] := by simpa [isLeaf] using leaf
      rfl
  | _ => rfl

theorem Node.keepsVoid_of_isLeaf {options : ReadOptions} {node : Node} (leaf : node.isLeaf = true) :
    node.KeepsVoid options := by
  cases node with
  | element tag attributes children detached location =>
      exact fun _ => by simpa [isLeaf] using leaf
  | _ => trivial

/-- An open element as its start tag left it. -/
def OpenElement.bare (element : OpenElement) : OpenElement := { element with children := [] }

namespace Construction

/-- All nodes so far have a property, and all open elements another one. -/
structure Carries (holds : Node → Prop) (opens : OpenElement → Prop) (state : Construction) : Prop where
  roots : ∀ node ∈ preorderAll state.roots, holds node
  openElements : ∀ element ∈ state.openElements, opens element.bare ∧
    ∀ node ∈ preorderAll element.children, holds node

namespace Carries

variable {holds : Node → Prop} {opens : OpenElement → Prop} {state : Construction}
  {element : OpenElement}

theorem empty : Carries holds opens {} :=
  ⟨fun _ absent => absurd absent List.not_mem_nil, fun _ absent => absurd absent List.not_mem_nil⟩

/-- What a tree carries holds among the newest siblings. -/
theorem siblings (carries : state.Carries holds opens) :
    ∀ node ∈ preorderAll state.siblings, holds node := by
  rcases state with ⟨openElements, roots, diagnostics⟩
  cases openElements with
  | nil => exact carries.roots
  | cons element outer => exact (carries.openElements element List.mem_cons_self).2

/-- New siblings that have the property keep it carried. -/
theorem withSiblings (carries : state.Carries holds opens) {nodes : List Node}
    (content : ∀ node ∈ preorderAll nodes, holds node) :
    (state.withSiblings nodes).Carries holds opens := by
  rcases state with ⟨openElements, roots, diagnostics⟩
  cases openElements with
  | nil => exact ⟨content, carries.openElements⟩
  | cons element outer =>
      obtain ⟨here, others⟩ := List.forall_mem_cons.mp carries.openElements
      exact ⟨carries.roots, List.forall_mem_cons.mpr ⟨⟨here.1, content⟩, others⟩⟩

/-- A new node that has the property keeps it carried. -/
theorem add (carries : state.Carries holds opens) {node : Node}
    (content : ∀ found ∈ node.preorder, holds found) : (state.add node).Carries holds opens :=
  carries.withSiblings (List.forall_mem_append.mpr ⟨content, carries.siblings⟩)

theorem addLeaf (carries : state.Carries holds opens) {node : Node} (leaf : node.isLeaf = true)
    (here : holds node) : (state.add node).Carries holds opens := by
  apply carries.add
  rw [Node.preorder_of_isLeaf leaf]
  exact List.forall_mem_singleton.mpr here

/-- A text may go on with the newest one. -/
theorem continueText (carries : state.Carries holds opens) {before whole : String}
    {location newLocation : Location} {older : List Node}
    (newest : state.siblings = .text before location :: older)
    (here : holds (.text whole newLocation)) :
    (state.withSiblings (.text whole newLocation :: older)).Carries holds opens := by
  have siblings := carries.siblings
  rw [newest] at siblings
  exact carries.withSiblings (List.forall_mem_cons.mpr
    ⟨here, (List.forall_mem_cons.mp siblings).2⟩)

/-- An element that is opened keeps the property carried. -/
theorem inside (carries : state.Carries holds opens) (here : opens element.bare)
    (empty : element.children = []) : (inside element state).Carries holds opens := by
  refine ⟨carries.roots, List.forall_mem_cons.mpr ⟨⟨here, ?_⟩, carries.openElements⟩⟩
  rw [empty]
  exact List.forall_mem_nil _

theorem outer (carries : (Construction.inside element state).Carries holds opens) :
    state.Carries holds opens :=
  ⟨carries.roots, (List.forall_mem_cons.mp carries.openElements).2⟩

/-- What is carried holds of the innermost element and inside it. -/
theorem innermost (carries : (Construction.inside element state).Carries holds opens) :
    opens element.bare ∧ ∀ node ∈ preorderAll element.children, holds node :=
  carries.openElements element List.mem_cons_self

/-- An element that is closed becomes a node with its content. -/
theorem closed (carries : (Construction.inside element state).Carries holds opens)
    {location : Location} (here : holds (element.node location)) :
    (state.add (element.node location)).Carries holds opens := by
  apply carries.outer.add
  exact List.forall_mem_cons.mpr
    ⟨here, fun found below => carries.innermost.2 found (mem_preorderAll_reverse.mp below)⟩

theorem report (carries : state.Carries holds opens) (code : Diagnostic.Code) (location : Location) :
    (state.report code location).Carries holds opens :=
  ⟨carries.roots, carries.openElements⟩

/-- What implies a weaker property carries it. -/
theorem mono {other : OpenElement → Prop} (carries : state.Carries holds opens)
    (weaker : ∀ element, opens element → other element) : state.Carries holds other :=
  ⟨carries.roots, fun element member =>
    ⟨weaker _ (carries.openElements element member).1, (carries.openElements element member).2⟩⟩

/-- What holds of the nodes can be weakened. -/
theorem imp {other : Node → Prop} (carries : state.Carries holds opens)
    (weaker : ∀ node, holds node → other node) : state.Carries other opens :=
  ⟨fun node member => weaker node (carries.roots node member), fun element member =>
    ⟨(carries.openElements element member).1, fun node inside =>
      weaker node ((carries.openElements element member).2 node inside)⟩⟩

end Carries

/-- Void elements have no content so far, and none of them is open. -/
structure KeepsVoid (options : ReadOptions) (state : Construction) : Prop where
  roots : ∀ node ∈ preorderAll state.roots, node.KeepsVoid options
  openElements : ∀ element ∈ state.openElements, options.isVoid element.tag = false ∧
    ∀ node ∈ preorderAll element.children, node.KeepsVoid options

variable {options : ReadOptions}

theorem keepsVoid_iff_carries {state : Construction} :
    state.KeepsVoid options ↔
      state.Carries (Node.KeepsVoid options) fun element => options.isVoid element.tag = false :=
  ⟨fun kept => ⟨kept.roots, kept.openElements⟩, fun kept => ⟨kept.roots, kept.openElements⟩⟩

/-- Every step keeps void elements empty. -/
theorem KeepsVoid.step (first second : Construction) (step : Step options first second)
    (kept : first.KeepsVoid options) : second.KeepsVoid options := by
  rw [keepsVoid_iff_carries] at kept ⊢
  cases step with
  | added _ node leaf => exact kept.addLeaf leaf (Node.keepsVoid_of_isLeaf leaf)
  | continued _ before content location whole older newest => exact kept.continueText newest trivial
  | opened _ element empty content => exact kept.inside content empty
  | closed state element location =>
      refine kept.closed fun void => ?_
      have content : options.isVoid element.tag = false := kept.innermost.1
      rw [content] at void
      contradiction
  | reported _ code location markup => exact kept.report code location

/-- All faults so far have codes of markup. -/
def ReportsMarkup (state : Construction) : Prop :=
  ∀ fault ∈ state.diagnostics, fault.code.isMarkup = true

@[simp] theorem diagnostics_withSiblings (state : Construction) (nodes : List Node) :
    (state.withSiblings nodes).diagnostics = state.diagnostics := by
  rcases state with ⟨openElements, roots, diagnostics⟩
  cases openElements <;> rfl

/-- Every step reports faults of markup only. -/
theorem ReportsMarkup.step (first second : Construction) (step : Step options first second)
    (reports : first.ReportsMarkup) : second.ReportsMarkup := by
  cases step with
  | added _ node leaf => simpa [ReportsMarkup, add] using reports
  | continued _ before content location whole older newest =>
      simpa [ReportsMarkup] using reports
  | opened _ element empty content => exact reports
  | closed state element location => simpa [ReportsMarkup, add, inside] using reports
  | reported _ code location markup =>
      intro fault member
      rcases List.mem_cons.mp member with rfl | earlier
      · exact markup
      · exact reports fault earlier

end Construction

/-- Void elements are read without content. -/
theorem Document.keepsVoid (source : Source) (options : ReadOptions) :
    ∀ node ∈ preorderAll (Document.ofSource source options).nodes, node.KeepsVoid options := by
  have start : Construction.KeepsVoid options {} :=
    Construction.keepsVoid_iff_carries.mpr .empty
  obtain ⟨state, kept, document⟩ :=
    Construction.invariant_ofSource source options start Construction.KeepsVoid.step
  intro found member
  rw [document] at member
  exact kept.roots found (mem_preorderAll_reverse.mp member)

/-- Reading reports faults of the markup only. -/
theorem Document.isMarkup_of_mem (source : Source) (options : ReadOptions) :
    ∀ fault ∈ (Document.ofSource source options).diagnostics, fault.code.isMarkup = true := by
  have start : Construction.ReportsMarkup {} := fun _ absent => absurd absent List.not_mem_nil
  obtain ⟨state, reports, document⟩ :=
    Construction.invariant_ofSource source options start Construction.ReportsMarkup.step
  intro fault member
  rw [document] at member
  exact reports fault (List.mem_reverse.mp member)

end HtmlTemplate.Markup
