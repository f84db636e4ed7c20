/-
This file follows the nodes of a document into its template. Building drops comments and blank texts, and every other
node is built to one node at the same place, at the same depth and in the same order.
-/

import Mathlib.Data.List.Forall2
import HtmlTemplate.Proofs.Template.Building
import HtmlTemplate.Proofs.Template.Visits

namespace HtmlTemplate

namespace Markup

mutual

/-- The visits to a node and all nodes inside it, in document order. -/
def Node.visits (around : List Node) : Node → List (Visit Node)
  | .doctype doctype location => [⟨around, .doctype doctype location⟩]
  | .comment content location => [⟨around, .comment content location⟩]
  | .text content location => [⟨around, .text content location⟩]
  | .element tag attributes children detached location =>
      ⟨around, .element tag attributes children detached location⟩ ::
        visitsAll (.element tag attributes children detached location :: around) children

def visitsAll (around : List Node) : List Node → List (Visit Node)
  | [] => []
  | node :: rest => node.visits around ++ visitsAll around rest

end

/-- Whether a node is more than a comment or a blank text. -/
def Node.isKept : Node → Bool
  | .doctype _ _ => true
  | .comment _ _ => false
  | .text content _ => !Text.isBlankText content
  | .element _ _ _ _ _ => true

/-- The types of the nodes that a node may be built to. -/
def Node.builtTypes : Node → List Template.NodeType
  | .doctype _ _ => [.doctype]
  | .comment _ _ => []
  | .text _ _ => [.text, .textWithVars]
  | .element _ _ _ _ _ => [.element, .forLoop, .ifBlock, .elseIfBranch, .elseBranch]

end Markup

namespace Template

/-- The place of a node. A static block has none. -/
def Node.location? : Node → Option Location
  | .root _ location => some location
  | .doctype _ location => some location
  | .text _ location => some location
  | .interpolated _ location => some location
  | .element _ _ _ location => some location
  | .loop _ _ _ location => some location
  | .branch marked => some marked.location
  | .chain _ location => some location
  | .staticBlock _ _ => none

/-- How a visit in a template answers to a visit in a document. -/
structure BuiltFrom (built : Visit Node) (read : Visit Markup.Node) : Prop where
  depth : built.depth = read.depth
  location : built.node.location? = some read.node.location
  type : built.node.nodeType ∈ read.node.builtTypes
  /-- Only a template element can become anything but an element. -/
  verbatim : ∀ tag attributes children detached location,
    read.node = .element tag attributes children detached location →
      Markup.Tag.isTemplate tag = false →
        ∃ content, built.node =
          .element tag (attributes.map fun written => ⟨written.name, written.value⟩) content location

section Building

variable {strict : Bool} {tag : String} {attributes : List Markup.Attribute} {location : Location}

/-- What an element is built to has its content as the only child list. -/
theorem ofElement_ok {content : List Node} {directive : Option Directive} {node : Node}
    (success : ofElement strict tag attributes location content directive = .ok node) :
    node.bodies = [content] ∧ node.location? = some location ∧
      node.nodeType ∈ [.element, .forLoop, .ifBlock, .elseIfBranch, .elseBranch] ∧
      (directive = none → node =
        .element tag (attributes.map fun written => ⟨written.name, written.value⟩) content location) := by
  match directive with
  | some (.loop value) =>
      obtain ⟨clause, -, built⟩ := Result.bind_eq_ok success
      obtain rfl := Except.ok.inj built
      exact ⟨rfl, rfl, by simp [Node.nodeType], by simp⟩
  | some (.branch kind condition) =>
      obtain rfl := Except.ok.inj success
      exact ⟨rfl, rfl, by cases kind <;> simp [Node.nodeType, BranchKind.nodeType], by simp⟩
  | none =>
      obtain rfl := Except.ok.inj success
      exact ⟨rfl, rfl, by simp [Node.nodeType], fun _ => rfl⟩

/-- A text is dropped if it is blank. -/
theorem ofText_cases (content : String) (location : Location) :
    Text.isBlankText content = true ∧ ofText content location = none ∨
      Text.isBlankText content = false ∧ ∃ node, ofText content location = some node ∧
        node.bodies = [] ∧ node.location? = some location ∧ node.nodeType ∈ [.text, .textWithVars] := by
  unfold ofText
  split
  · rename_i blank
    exact .inl ⟨blank, rfl⟩
  · rename_i filled
    refine .inr ⟨by simpa using filled, ?_⟩
    split
    · exact ⟨_, rfl, rfl, rfl, by simp [Node.nodeType]⟩
    · exact ⟨_, rfl, rfl, rfl, by simp [Node.nodeType]⟩

end Building

mutual

/-- A node that is not dropped is built to one node. -/
theorem forall₂_ofMarkup (strict : Bool) : ∀ (node : Markup.Node) (template : Option Node)
    (around : List Node) (outer : List Markup.Node), around.length = outer.length →
    ofMarkup strict node = .ok template →
    List.Forall₂ BuiltFrom (visitsAll around template.toList)
      ((node.visits outer).filter fun visit => visit.node.isKept)
  | .doctype doctype location, template, around, outer, level, success => by
      obtain rfl := Except.ok.inj success
      exact .cons ⟨level, rfl, by simp [Node.nodeType, Markup.Node.builtTypes], by simp⟩ .nil
  | .comment content location, template, around, outer, level, success => by
      obtain rfl := Except.ok.inj success
      exact .nil
  | .text content location, template, around, outer, level, success => by
      obtain rfl := Except.ok.inj success
      rw [Markup.Node.visits]
      rcases ofText_cases content location with ⟨blank, dropped⟩ | ⟨filled, node, built, bodies, place, type⟩
      · rw [dropped, List.filter_cons_of_neg (by simp [Markup.Node.isKept, blank])]
        exact .nil
      · rw [built, Option.toList_some, visitsAll_singleton, bodies,
          List.filter_cons_of_pos (by simp [Markup.Node.isKept, filled])]
        exact .cons ⟨level, place, type, by simp⟩ .nil
  | .element tag attributes children detached location, template, around, outer, level, success => by
      obtain ⟨directive, content, node, foundDirective, foundContent, foundNode, rfl⟩ :=
        ofMarkup_element_ok success
      obtain ⟨bodies, place, type, plain⟩ := ofElement_ok foundNode
      rw [Markup.Node.visits, List.filter_cons_of_pos rfl, Option.toList_some, visitsAll_singleton,
        bodies, List.flatMap_singleton]
      refine .cons ⟨level, place, type, ?_⟩
        (forall₂_ofMarkups strict children content _ _ (congrArg Nat.succ level) foundContent)
      intro _ _ _ _ _ same notTemplate
      obtain ⟨rfl, rfl, -, -, rfl⟩ := Markup.Node.element.inj same
      refine ⟨content, plain ?_⟩
      rw [(directiveOf_ok foundDirective).1, notTemplate]
      rfl

/-- The nodes that are kept are built in their order. -/
theorem forall₂_ofMarkups (strict : Bool) : ∀ (nodes : List Markup.Node) (templates : List Node)
    (around : List Node) (outer : List Markup.Node), around.length = outer.length →
    ofMarkups strict nodes = .ok templates →
    List.Forall₂ BuiltFrom (visitsAll around templates)
      ((Markup.visitsAll outer nodes).filter fun visit => visit.node.isKept)
  | [], templates, around, outer, level, success => by
      obtain rfl := Except.ok.inj success
      exact .nil
  | node :: rest, templates, around, outer, level, success => by
      obtain ⟨first, others, foundFirst, foundOthers, rfl⟩ := ofMarkups_cons_ok success
      rw [visitsAll_append, Markup.visitsAll, List.filter_append]
      exact List.rel_append (forall₂_ofMarkup strict node first around outer level foundFirst)
        (forall₂_ofMarkups strict rest others around outer level foundOthers)

end

/-- A template has the kept nodes of its document, in their order. -/
theorem ofDocument_keeps_order (strict : Bool) (nodes : List Markup.Node) (template : Node)
    (success : ofDocument strict nodes = .ok template) :
    ∃ children, template = .root children .stub ∧
      List.Forall₂ BuiltFrom (visitsAll [] children)
        ((Markup.visitsAll [] nodes).filter fun visit => visit.node.isKept) := by
  obtain ⟨children, built, isRoot⟩ := Result.bind_eq_ok success
  exact ⟨children, (Except.ok.inj isRoot).symm,
    forall₂_ofMarkups strict nodes children [] [] rfl built⟩

/-- A document with dropped nodes, a loop and a branch. -/
def mixedDocument : List Markup.Node :=
  [.comment "note" .stub, .doctype ⟨"html", none, none⟩ .stub, .text "\n" .stub,
   .element "template" [⟨"for", "item in items", .stub⟩]
     [.text " " .stub, .text "\x7b\x7bitem\x7d\x7d" .stub,
      .element "div" [⟨"if", "a", .stub⟩, ⟨"if", "b", .stub⟩] [.comment "c" .stub, .text "d" .stub] false
        .stub] true .stub,
   .element "template" [⟨"else", "", .stub⟩] [] true .stub]

/-- A document with dropped nodes keeps its order. -/
theorem ofDocument_keeps_order_mixedDocument :
    ∃ children, ofDocument true mixedDocument = .ok (.root children .stub) ∧
      (preorderAll children).map Node.nodeType =
        [.doctype, .forLoop, .textWithVars, .element, .text, .elseBranch] ∧
      List.Forall₂ BuiltFrom (visitsAll [] children)
        ((Markup.visitsAll [] mixedDocument).filter fun visit => visit.node.isKept) := by
  have evaluated : (ofDocument true mixedDocument).toOption.map (fun template =>
      template.preorder.map Node.nodeType) =
        some [.root, .doctype, .forLoop, .textWithVars, .element, .text, .elseBranch] := by
    decide +kernel
  obtain ⟨template, found, types⟩ := Option.map_eq_some_iff.mp evaluated
  have success := Result.eq_ok_of_toOption found
  obtain ⟨children, rfl, kept⟩ := ofDocument_keeps_order true mixedDocument template success
  exact ⟨children, success, (List.cons.inj types).2, kept⟩

end Template

end HtmlTemplate
