/-
This file holds the statements of render functions, and lowers templates to them.
-/

import HtmlTemplate.Diagnostic.Basic
import HtmlTemplate.Template.Node
import HtmlTemplate.Template.Static

namespace HtmlTemplate.Script

/-- The head of an arm of a conditional. -/
inductive Clause where
  | ifTrue (condition : String)
  | elseIf (condition : String)
  | otherwise
  deriving DecidableEq, Repr

/-- An arm of a conditional, over the statements of its block. -/
structure Arm (Statement : Type) where
  clause : Clause
  block : List Statement
  deriving Repr

/-- A statement outputs markup or a value, loops, chooses, or marks a branch. -/
inductive Statement where
  | literal (html : String)
  | escaped (expression : String)
  | loop (iterator : String) (source : String) (block : List Statement)
  | conditional (arms : List (Arm Statement))
  | marker (directive : String)
  deriving Repr

def literalStatement (html : String) : List Statement :=
  if html.isEmpty then [] else [.literal html]

/-- Joins literals that follow each other, and drops empty ones. -/
def joinLiterals : String → List Statement → List Statement
  | pending, [] => literalStatement pending
  | pending, .literal html :: rest => joinLiterals (pending ++ html) rest
  | pending, statement :: rest => literalStatement pending ++ statement :: joinLiterals "" rest

/-- The statements of a template with the diagnostics of their markers. -/
structure Lowered (α : Type) where
  output : α
  diagnostics : List Diagnostic
  deriving Repr

namespace Lowered

def plain {α : Type} (output : α) : Lowered α := ⟨output, []⟩

def map {α β : Type} (f : α → β) (lowered : Lowered α) : Lowered β :=
  ⟨f lowered.output, lowered.diagnostics⟩

/-- Combines two results and keeps the diagnostics of both in order. -/
def combine {α β γ : Type} (f : α → β → γ) (first : Lowered α) (second : Lowered β) : Lowered γ :=
  ⟨f first.output second.output, first.diagnostics ++ second.diagnostics⟩

end Lowered

def partStatement : Template.TextPart → Statement
  | .text content => .literal content
  | .variable expression => .escaped expression

/-- The head of an arm. The first arm with a condition opens the conditional. -/
def clauseOf (isFirst : Bool) (branch : Template.Branch Template.Node) : Clause :=
  match isFirst, branch.kind, branch.condition with
  | true, _, some condition => .ifTrue condition
  | false, .elseIfCase, some condition => .elseIf condition
  | _, _, _ => .otherwise

/-- The diagnostic of a branch outside of chains. -/
def strayDiagnostic (branch : Template.Branch Template.Node) : Diagnostic where
  code := .strayBranch
  location := some branch.location
  detail := some branch.kind.directive

open Template in
mutual

/-- The statements of a node. Strictly, a branch outside of a chain is refused. -/
def lower (options : Options) : Node → Except Diagnostic (Lowered (List Statement))
  | .root children _ => lowerAll options children
  | .doctype doctype _ => return .plain [.literal (doctype.render options.preserveDoctype)]
  | .text content _ => return .plain [.literal content]
  | .interpolated parts _ => return .plain (parts.map partStatement)
  | .element tag attributes children _ => do
      let content ← lowerAll options children
      return content.map fun statements =>
        .literal (openTag tag attributes) :: statements ++ [.literal (closeTag tag children)]
  | .loop iterator source body _ => do
      let content ← lowerAll options body
      return content.map fun statements => [.loop iterator source (joinLiterals "" statements)]
  | .branch branch =>
      if options.strict then throw (strayDiagnostic branch)
      else return ⟨[.marker branch.kind.directive], [strayDiagnostic branch]⟩
  | .chain branches _ => do
      let arms ← lowerBranches options true branches
      return arms.map fun arms => [.conditional arms]
  | .staticBlock _ html => return .plain [.literal html]

def lowerAll (options : Options) : List Node → Except Diagnostic (Lowered (List Statement))
  | [] => return .plain []
  | node :: rest => do
      let first ← lower options node
      let others ← lowerAll options rest
      return Lowered.combine (· ++ ·) first others

def lowerBranches (options : Options) :
    Bool → List (Branch Node) → Except Diagnostic (Lowered (List (Arm Statement)))
  | _, [] => return .plain []
  | isFirst, branch :: rest => do
      let content ← lowerAll options branch.body
      let others ← lowerBranches options false rest
      return Lowered.combine
        (fun statements arms => ⟨clauseOf isFirst branch, joinLiterals "" statements⟩ :: arms)
        content others

end

/-- The block of the render function of a template. -/
def blockOf (options : Options) (template : Template.Node) :
    Except Diagnostic (Lowered (List Statement)) := do
  return (← lower options template).map (joinLiterals "")

end HtmlTemplate.Script
