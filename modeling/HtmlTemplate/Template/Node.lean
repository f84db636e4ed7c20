/-
This file holds templates as trees: markup with interpolations, loops and conditional branches. It starts with
the options that templates are compiled with.
-/

import HtmlTemplate.Markup.Tree
import HtmlTemplate.Source.Basic

namespace HtmlTemplate

structure Options where
  /-- Refuse doubtful directives instead of guessing. -/
  strict : Bool := true
  /-- The module that the generated code imports its escaper from. -/
  escaperImport : String := "./sterilization.js"
  /-- The spaces per level of the generated code. -/
  indent : Nat := 2
  /-- Write doctypes in full instead of always the short one. -/
  preserveDoctype : Bool := true
  deriving DecidableEq, Repr

/-- The default options, but guessing. -/
def Options.lenient : Options := { strict := false }

end HtmlTemplate

namespace HtmlTemplate.Template

structure Attribute where
  name : String
  value : String
  deriving DecidableEq, Repr

/-- A text with interpolations alternates between literal text and expressions. -/
inductive TextPart where
  | text (content : String)
  | variable (expression : String)
  deriving DecidableEq, Repr

inductive BranchKind where
  | ifCase
  | elseIfCase
  | elseCase
  deriving DecidableEq, Repr

namespace BranchKind

/-- The directive that marks a branch of this kind. -/
def directive : BranchKind → String
  | ifCase => "if"
  | elseIfCase => "else-if"
  | elseCase => "else"

def name : BranchKind → String
  | ifCase => "If"
  | elseIfCase => "ElseIf"
  | elseCase => "Else"

def ofName? (name : String) : Option BranchKind :=
  [ifCase, elseIfCase, elseCase].find? fun kind => kind.name == name

end BranchKind

/-- A branch of a conditional, over the nodes of its body. -/
structure Branch (Node : Type) where
  kind : BranchKind
  condition : Option String
  body : List Node
  location : Location
  deriving Repr

/-- A chain gathers the branches of a conditional, and a static block a run. -/
inductive Node where
  | root (children : List Node) (location : Location)
  | doctype (doctype : Markup.Doctype) (location : Location)
  | text (content : String) (location : Location)
  | interpolated (parts : List TextPart) (location : Location)
  | element (tag : String) (attributes : List Attribute) (children : List Node)
      (location : Location)
  | loop (iterator : String) (source : String) (body : List Node) (location : Location)
  | branch (branch : Branch Node)
  | chain (branches : List (Branch Node)) (location : Location)
  | staticBlock (children : List Node) (html : String)
  deriving Repr

/-- The kinds of nodes by which trees are described. -/
inductive NodeType where
  | root
  | doctype
  | text
  | textWithVars
  | element
  | forLoop
  | ifBlock
  | elseIfBranch
  | elseBranch
  | conditionalGroup
  | staticBlock
  deriving DecidableEq, Repr

namespace NodeType

def all : List NodeType :=
  [root, doctype, text, textWithVars, element, forLoop, ifBlock, elseIfBranch, elseBranch,
   conditionalGroup, staticBlock]

def name : NodeType → String
  | root => "Root"
  | doctype => "Doctype"
  | text => "Text"
  | textWithVars => "TextWithVars"
  | element => "Element"
  | forLoop => "ForLoop"
  | ifBlock => "IfBlock"
  | elseIfBranch => "ElseIfBranch"
  | elseBranch => "ElseBranch"
  | conditionalGroup => "ConditionalGroup"
  | staticBlock => "StaticBlock"

def ofName? (name : String) : Option NodeType := all.find? fun type => type.name == name

end NodeType

def BranchKind.nodeType : BranchKind → NodeType
  | .ifCase => .ifBlock
  | .elseIfCase => .elseIfBranch
  | .elseCase => .elseBranch

namespace Node

def nodeType : Node → NodeType
  | .root _ _ => .root
  | .doctype _ _ => .doctype
  | .text _ _ => .text
  | .interpolated _ _ => .textWithVars
  | .element _ _ _ _ => .element
  | .loop _ _ _ _ => .forLoop
  | .branch marked => marked.kind.nodeType
  | .chain _ _ => .conditionalGroup
  | .staticBlock _ _ => .staticBlock

/-- The child list of a node that has exactly one. -/
def children? : Node → Option (List Node)
  | .root children _ => some children
  | .element _ _ children _ => some children
  | .loop _ _ body _ => some body
  | .branch marked => some marked.body
  | .staticBlock children _ => some children
  | .doctype _ _ => none
  | .text _ _ => none
  | .interpolated _ _ => none
  | .chain _ _ => none

end Node

/-- Whether a chain ends with an else branch. -/
def endsWithElse (branches : List (Branch Node)) : Bool :=
  branches.getLast?.any fun branch => branch.kind == .elseCase

end HtmlTemplate.Template
