/-
This file says which branches form a whole conditional: an if branch, else-if branches, and at most one
else branch at the end, with a condition exactly on those that ask for one.
-/

import HtmlTemplate.Template.Node

namespace HtmlTemplate.Template

/-- The branches that may follow the if branch of a conditional. -/
def continuesConditional : List (Branch Node) → Bool
  | [] => true
  | branch :: rest =>
      match branch.kind, branch.condition with
      | .elseIfCase, some _ => continuesConditional rest
      | .elseCase, none => rest.isEmpty
      | _, _ => false

def isConditional : List (Branch Node) → Bool
  | [] => false
  | branch :: rest =>
      branch.kind == .ifCase && branch.condition.isSome && continuesConditional rest

/-- A whole conditional, or what is left of one after its first branch. -/
def isConditionalPart (isFirst : Bool) (branches : List (Branch Node)) : Bool :=
  if isFirst then isConditional branches else continuesConditional branches

/-- The branches after the first continue a conditional. -/
theorem isConditionalPart_tail {isFirst : Bool} {branch : Branch Node}
    {rest : List (Branch Node)} (part : isConditionalPart isFirst (branch :: rest) = true) :
    isConditionalPart false rest = true := by
  rcases branch with ⟨kind, condition, body, location⟩
  cases isFirst <;> cases kind <;> cases condition <;>
    simp_all [isConditionalPart, isConditional, continuesConditional]

mutual

/-- Whether every chain of a template is a whole conditional. -/
def wellChained : Node → Bool
  | .root children _ => allWellChained children
  | .doctype _ _ => true
  | .text _ _ => true
  | .interpolated _ _ => true
  | .element _ _ children _ => allWellChained children
  | .loop _ _ body _ => allWellChained body
  | .branch branch => allWellChained branch.body
  | .chain branches _ => isConditional branches && branchesWellChained branches
  | .staticBlock children _ => allWellChained children

def allWellChained : List Node → Bool
  | [] => true
  | node :: rest => wellChained node && allWellChained rest

def branchesWellChained : List (Branch Node) → Bool
  | [] => true
  | branch :: rest => allWellChained branch.body && branchesWellChained rest

end

end HtmlTemplate.Template
