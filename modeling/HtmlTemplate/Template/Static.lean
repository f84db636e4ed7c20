/-
This file writes the tags of elements, and merges runs of nodes that need no data into static blocks.
-/

import HtmlTemplate.Escape.Basic
import HtmlTemplate.Markup.Tree
import HtmlTemplate.Template.Node

namespace HtmlTemplate.Template

def Attribute.write (written : Attribute) : String :=
  " " ++ written.name ++ "=\"" ++ Escape.escapeAttribute written.value ++ "\""

/-- The start tag of an element. -/
def openTag (tag : String) (attributes : List Attribute) : String :=
  "<" ++ tag ++ String.join (attributes.map Attribute.write) ++ ">"

/-- The end tag of an element. A void element without content has none. -/
def closeTag? (tag : String) (children : List Node) : Option String :=
  if Markup.Tag.isVoid tag && children.isEmpty then none else some ("</" ++ tag ++ ">")

def closeTag (tag : String) (children : List Node) : String := (closeTag? tag children).getD ""

mutual

/-- Whether a node is text, or an element with nothing else inside. -/
def isStatic : Node → Bool
  | .text _ _ => true
  | .element _ _ children _ => allStatic children
  | .root _ _ => false
  | .doctype _ _ => false
  | .interpolated _ _ => false
  | .loop _ _ _ _ => false
  | .branch _ => false
  | .chain _ _ => false
  | .staticBlock _ _ => false

def allStatic : List Node → Bool
  | [] => true
  | node :: rest => isStatic node && allStatic rest

end

mutual

/-- The markup of the static parts of a node. -/
def staticHtml : Node → String
  | .text content _ => content
  | .element tag attributes children _ =>
      openTag tag attributes ++ allStaticHtml children ++ closeTag tag children
  | .staticBlock _ html => html
  | .root _ _ => ""
  | .doctype _ _ => ""
  | .interpolated _ _ => ""
  | .loop _ _ _ _ => ""
  | .branch _ => ""
  | .chain _ _ => ""

def allStaticHtml : List Node → String
  | [] => ""
  | node :: rest => staticHtml node ++ allStaticHtml rest

end

/-- The block of a run of static nodes, its last node first. -/
def staticBlockOf (run : List Node) : List Node :=
  if run.isEmpty then [] else [.staticBlock run.reverse (allStaticHtml run.reverse)]

mutual

/-- Merges the runs of static nodes in all child lists outside of static nodes. -/
def mergeStatic : Node → Node
  | .root children location => .root (mergeSiblings [] children) location
  | .element tag attributes children location =>
      .element tag attributes (mergeSiblings [] children) location
  | .loop iterator source body location => .loop iterator source (mergeSiblings [] body) location
  | .branch branch => .branch { branch with body := mergeSiblings [] branch.body }
  | .chain branches location => .chain (mergeBranches branches) location
  | .doctype doctype location => .doctype doctype location
  | .text content location => .text content location
  | .interpolated parts location => .interpolated parts location
  | .staticBlock children html => .staticBlock children html

/-- Merges the remaining siblings after a run of static nodes. -/
def mergeSiblings : List Node → List Node → List Node
  | run, [] => staticBlockOf run
  | run, node :: rest =>
      if isStatic node then mergeSiblings (node :: run) rest
      else staticBlockOf run ++ mergeStatic node :: mergeSiblings [] rest

def mergeBranches : List (Branch Node) → List (Branch Node)
  | [] => []
  | branch :: rest => { branch with body := mergeSiblings [] branch.body } :: mergeBranches rest

end

mutual

/-- The number of runs of static nodes outside of static nodes. -/
def staticRuns : Node → Nat
  | .root children _ => siblingRuns false children
  | .element _ _ children _ => siblingRuns false children
  | .loop _ _ body _ => siblingRuns false body
  | .branch branch => siblingRuns false branch.body
  | .chain branches _ => branchRuns branches
  | .doctype _ _ => 0
  | .text _ _ => 0
  | .interpolated _ _ => 0
  | .staticBlock _ _ => 0

/-- Counts a run at its first node. -/
def siblingRuns : Bool → List Node → Nat
  | _, [] => 0
  | inRun, node :: rest =>
      if isStatic node then (if inRun then 0 else 1) + siblingRuns true rest
      else staticRuns node + siblingRuns false rest

def branchRuns : List (Branch Node) → Nat
  | [] => 0
  | branch :: rest => siblingRuns false branch.body + branchRuns rest

end

end HtmlTemplate.Template
