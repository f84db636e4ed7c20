/-
This file folds the branches of conditionals into chains. A chain starts with an if branch and takes
the branches that directly follow it, up to an else branch.
-/

import HtmlTemplate.Diagnostic.Basic
import HtmlTemplate.Template.Node

namespace HtmlTemplate.Template

/-- A chain takes its location from its first branch. -/
def chainOf (branches : List (Branch Node)) : List Node :=
  match branches with
  | [] => []
  | first :: _ => [.chain branches first.location]

/-- The code for a branch that continues no chain. -/
def BranchKind.orphanCode : BranchKind → Diagnostic.Code
  | .elseCase => .orphanElse
  | .elseIfCase => .orphanElseIf
  | .ifCase => .orphanElseIf

mutual

/-- Folds all child lists of a node; strictly, loose branches are refused. -/
def fold (strict : Bool) : Node → Except Diagnostic Node
  | .root children location => return .root (← foldSiblings strict [] children) location
  | .doctype doctype location => return .doctype doctype location
  | .text content location => return .text content location
  | .interpolated parts location => return .interpolated parts location
  | .element tag attributes children location =>
      return .element tag attributes (← foldSiblings strict [] children) location
  | .loop iterator source body location =>
      return .loop iterator source (← foldSiblings strict [] body) location
  | .branch branch => return .branch { branch with body := ← foldSiblings strict [] branch.body }
  | .chain branches location => return .chain (← foldBranches strict branches) location
  | .staticBlock children html => return .staticBlock (← foldSiblings strict [] children) html

/-- Folds the remaining siblings after an unfinished chain, which may be empty. -/
def foldSiblings (strict : Bool) : List (Branch Node) → List Node → Except Diagnostic (List Node)
  | unfinished, [] => return chainOf unfinished
  | unfinished, node :: rest => do
      match ← fold strict node with
      | .branch branch =>
          match branch.kind, unfinished with
          | .ifCase, _ => return chainOf unfinished ++ (← foldSiblings strict [branch] rest)
          | kind, [] =>
              if strict then
                throw { code := kind.orphanCode, location := some branch.location }
              else return .branch branch :: (← foldSiblings strict [] rest)
          | .elseIfCase, first :: more =>
              foldSiblings strict (first :: more ++ [branch]) rest
          | .elseCase, first :: more =>
              return chainOf (first :: more ++ [branch]) ++ (← foldSiblings strict [] rest)
      | other => return chainOf unfinished ++ other :: (← foldSiblings strict [] rest)

def foldBranches (strict : Bool) :
    List (Branch Node) → Except Diagnostic (List (Branch Node))
  | [] => return []
  | branch :: rest => do
      let body ← foldSiblings strict [] branch.body
      return { branch with body := body } :: (← foldBranches strict rest)

end

mutual

/-- The number of if branches in the child lists of a node. -/
def chainStarts : Node → Nat
  | .root children _ => siblingChainStarts children
  | .doctype _ _ => 0
  | .text _ _ => 0
  | .interpolated _ _ => 0
  | .element _ _ children _ => siblingChainStarts children
  | .loop _ _ body _ => siblingChainStarts body
  | .branch branch => siblingChainStarts branch.body
  | .chain branches _ => branchChainStarts branches
  | .staticBlock children _ => siblingChainStarts children

def siblingChainStarts : List Node → Nat
  | [] => 0
  | node :: rest =>
      (match node with
        | .branch branch => if branch.kind = .ifCase then 1 else 0
        | _ => 0) + chainStarts node + siblingChainStarts rest

def branchChainStarts : List (Branch Node) → Nat
  | [] => 0
  | branch :: rest => siblingChainStarts branch.body + branchChainStarts rest

end

mutual

/-- The branches in the child lists of a node, the inner ones first. -/
def looseBranches : Node → List (Branch Node)
  | .root children _ => siblingLooseBranches children
  | .doctype _ _ => []
  | .text _ _ => []
  | .interpolated _ _ => []
  | .element _ _ children _ => siblingLooseBranches children
  | .loop _ _ body _ => siblingLooseBranches body
  | .branch branch => siblingLooseBranches branch.body
  | .chain branches _ => branchLooseBranches branches
  | .staticBlock children _ => siblingLooseBranches children

def siblingLooseBranches : List Node → List (Branch Node)
  | [] => []
  | node :: rest =>
      looseBranches node ++
        (match node with
          | .branch branch => [branch]
          | _ => []) ++ siblingLooseBranches rest

def branchLooseBranches : List (Branch Node) → List (Branch Node)
  | [] => []
  | branch :: rest => siblingLooseBranches branch.body ++ branchLooseBranches rest

end

end HtmlTemplate.Template
