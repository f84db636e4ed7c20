/-
This file relates strict and lenient folding. Folding leniently never fails, and folding strictly is
folding leniently and then refusing the first branch that is left without a chain.
-/

import HtmlTemplate.Proofs.Result
import HtmlTemplate.Proofs.Template.Traversal
import HtmlTemplate.Template.Chain

namespace HtmlTemplate.Template

/-- The diagnostic for a branch that continues no chain. -/
def orphanDiagnostic (branch : Branch Node) : Diagnostic where
  code := branch.kind.orphanCode
  location := some branch.location

/-- A value, unless a strict folding has left a branch without a chain. -/
def unlessLoose {α : Type} (strict : Bool) (loose : List (Branch Node)) (value : α) :
    Except Diagnostic α :=
  match strict, loose with
  | true, branch :: _ => .error (orphanDiagnostic branch)
  | _, _ => .ok value

@[simp] theorem unlessLoose_lenient {α : Type} (loose : List (Branch Node)) (value : α) :
    unlessLoose false loose value = .ok value := rfl

@[simp] theorem unlessLoose_nil {α : Type} (strict : Bool) (value : α) :
    unlessLoose strict [] value = .ok value := by
  cases strict <;> rfl

@[simp] theorem unlessLoose_cons {α : Type} (branch : Branch Node) (more : List (Branch Node))
    (value : α) : unlessLoose true (branch :: more) value = .error (orphanDiagnostic branch) := rfl

/-- Building goes on with a value that is not refused. -/
theorem unlessLoose_bind_ok {α β : Type} (strict : Bool) (loose : List (Branch Node)) (value : α)
    (build : α → β) :
    (unlessLoose strict loose value >>= fun built => .ok (build built)) =
      unlessLoose strict loose (build value) := by
  cases strict <;> cases loose <;> rfl

/-- A value is refused exactly for loose branches. -/
theorem unlessLoose_eq_ok {α : Type} {strict : Bool} {loose : List (Branch Node)}
    {value result : α} (admitted : unlessLoose strict loose value = .ok result) :
    result = value ∧ (strict = true → loose = []) := by
  cases strict <;> cases loose <;> simp_all [unlessLoose]

/-- The branch that a folded sibling leaves without a chain, if it does. -/
def orphanOf (unfinished : List (Branch Node)) : Node → List (Branch Node)
  | .branch branch => if branch.kind = .ifCase ∨ unfinished ≠ [] then [] else [branch]
  | _ => []

/-- The nodes complete with a folded sibling, and the chain that goes on. -/
def place (unfinished : List (Branch Node)) : Node → List Node × List (Branch Node)
  | .branch branch =>
      match branch.kind, unfinished with
      | .ifCase, _ => (chainOf unfinished, [branch])
      | _, [] => ([.branch branch], [])
      | .elseIfCase, first :: more => ([], first :: more ++ [branch])
      | .elseCase, first :: more => (chainOf (first :: more ++ [branch]), [])
  | other => (chainOf unfinished ++ [other], [])

/-- Siblings are folded one by one, each after the unfinished chain. -/
theorem foldSiblings_cons (strict : Bool) (unfinished : List (Branch Node)) (node : Node)
    (rest : List Node) :
    foldSiblings strict unfinished (node :: rest) = (do
      let folded ← fold strict node
      let placed ← unlessLoose strict (orphanOf unfinished folded) (place unfinished folded)
      return placed.1 ++ (← foldSiblings strict placed.2 rest)) := by
  rw [foldSiblings]
  congr 1
  funext folded
  cases folded with
  | branch branch =>
      rcases branch with ⟨kind, condition, body, location⟩
      cases kind <;> cases unfinished <;> cases strict <;>
        simp [orphanOf, place, unlessLoose, orphanDiagnostic]
  | _ => simp [orphanOf, place]

/-- Siblings that are folded leniently are placed one by one. -/
theorem foldSiblings_cons_ok {unfinished : List (Branch Node)} {node : Node}
    {rest siblings : List Node} (success : foldSiblings false unfinished (node :: rest) = .ok siblings) :
    ∃ folded others, fold false node = .ok folded ∧
      foldSiblings false (place unfinished folded).2 rest = .ok others ∧
      siblings = (place unfinished folded).1 ++ others := by
  rw [foldSiblings_cons] at success
  obtain ⟨folded, found, success⟩ := Result.bind_eq_ok success
  rw [unlessLoose_lenient, Result.ok_bind] at success
  obtain ⟨others, foundOthers, success⟩ := Result.bind_eq_ok success
  exact ⟨folded, others, found, foundOthers, (Except.ok.inj success).symm⟩

/-- The loose branches inside a sibling come before it. -/
theorem siblingLooseBranches_cons (node : Node) (rest : List Node) :
    siblingLooseBranches (node :: rest) =
      looseBranches node ++ node.branch?.toList ++ siblingLooseBranches rest := by
  cases node <;> rfl

@[simp] theorem siblingLooseBranches_append (first second : List Node) :
    siblingLooseBranches (first ++ second) =
      siblingLooseBranches first ++ siblingLooseBranches second := by
  induction first with
  | nil => rfl
  | cons node rest inductionHypothesis =>
      simp [siblingLooseBranches, inductionHypothesis, List.append_assoc]

@[simp] theorem branchLooseBranches_append (first second : List (Branch Node)) :
    branchLooseBranches (first ++ second) =
      branchLooseBranches first ++ branchLooseBranches second := by
  induction first with
  | nil => rfl
  | cons branch rest inductionHypothesis =>
      simp [branchLooseBranches, inductionHypothesis, List.append_assoc]

@[simp] theorem siblingLooseBranches_chainOf (branches : List (Branch Node)) :
    siblingLooseBranches (chainOf branches) = branchLooseBranches branches := by
  cases branches with
  | nil => rfl
  | cons first more => simp [chainOf, siblingLooseBranches, looseBranches]

/-- Placing a sibling keeps the branches without a chain in their order. -/
theorem looseBranches_place (unfinished : List (Branch Node)) (folded : Node) :
    siblingLooseBranches (place unfinished folded).1 ++
        branchLooseBranches (place unfinished folded).2 =
      branchLooseBranches unfinished ++ looseBranches folded ++ orphanOf unfinished folded := by
  cases folded with
  | branch branch =>
      rcases branch with ⟨kind, condition, body, location⟩
      cases kind <;> cases unfinished <;>
        simp [place, orphanOf, looseBranches, siblingLooseBranches, branchLooseBranches, chainOf]
  | _ => simp [place, orphanOf, siblingLooseBranches, branchLooseBranches]

/-- Places siblings one after another, each after the unfinished chain. -/
def gather : List (Branch Node) → List Node → List Node
  | unfinished, [] => chainOf unfinished
  | unfinished, node :: rest => (place unfinished node).1 ++ gather (place unfinished node).2 rest

mutual

/-- A node whose child lists are gathered into chains, from the inside out. -/
def Node.gathered : Node → Node
  | .root children location => .root (gather [] (gatheredAll children)) location
  | .doctype doctype location => .doctype doctype location
  | .text content location => .text content location
  | .interpolated parts location => .interpolated parts location
  | .element tag attributes children location =>
      .element tag attributes (gather [] (gatheredAll children)) location
  | .loop iterator source body location =>
      .loop iterator source (gather [] (gatheredAll body)) location
  | .branch branch => .branch { branch with body := gather [] (gatheredAll branch.body) }
  | .chain branches location => .chain (gatheredBodies branches) location
  | .staticBlock children html => .staticBlock (gather [] (gatheredAll children)) html

def gatheredAll : List Node → List Node
  | [] => []
  | node :: rest => node.gathered :: gatheredAll rest

def gatheredBodies : List (Branch Node) → List (Branch Node)
  | [] => []
  | branch :: rest => { branch with body := gather [] (gatheredAll branch.body) } :: gatheredBodies rest

end

mutual

/-- Folding leniently never fails: it gathers all child lists. -/
theorem fold_eq_gathered : ∀ node : Node, fold false node = .ok node.gathered
  | .root children location => by simp [fold, Node.gathered, foldSiblings_eq_gather [] children]
  | .doctype doctype location => rfl
  | .text content location => rfl
  | .interpolated parts location => rfl
  | .element tag attributes children location => by
      simp [fold, Node.gathered, foldSiblings_eq_gather [] children]
  | .loop iterator source body location => by
      simp [fold, Node.gathered, foldSiblings_eq_gather [] body]
  | .branch branch => by simp [fold, Node.gathered, foldSiblings_eq_gather [] branch.body]
  | .chain branches location => by simp [fold, Node.gathered, foldBranches_eq_gathered branches]
  | .staticBlock children html => by
      simp [fold, Node.gathered, foldSiblings_eq_gather [] children]

/-- Folding siblings leniently gathers what they are folded to. -/
theorem foldSiblings_eq_gather : ∀ (unfinished : List (Branch Node)) (nodes : List Node),
    foldSiblings false unfinished nodes = .ok (gather unfinished (gatheredAll nodes))
  | unfinished, [] => rfl
  | unfinished, node :: rest => by
      have later := foldSiblings_eq_gather (place unfinished node.gathered).2 rest
      simp [foldSiblings_cons, fold_eq_gathered node, later, gatheredAll, gather]

/-- Folding branches leniently gathers their bodies. -/
theorem foldBranches_eq_gathered : ∀ branches : List (Branch Node),
    foldBranches false branches = .ok (gatheredBodies branches)
  | [] => rfl
  | branch :: rest => by
      simp [foldBranches, gatheredBodies, foldSiblings_eq_gather [] branch.body,
        foldBranches_eq_gathered rest]

end

/-- Every node folds leniently. -/
theorem fold_lenient (node : Node) : ∃ folded, fold false node = .ok folded :=
  ⟨_, fold_eq_gathered node⟩

/-- All siblings fold leniently. -/
theorem foldSiblings_lenient (unfinished : List (Branch Node)) (nodes : List Node) :
    ∃ siblings, foldSiblings false unfinished nodes = .ok siblings :=
  ⟨_, foldSiblings_eq_gather unfinished nodes⟩

/-- All branches fold leniently. -/
theorem foldBranches_lenient (branches : List (Branch Node)) :
    ∃ folded, foldBranches false branches = .ok folded :=
  ⟨_, foldBranches_eq_gathered branches⟩

/-- Loose branches of the unfinished chain come before those of later siblings. -/
theorem looseBranches_foldSiblings (unfinished : List (Branch Node)) (nodes siblings : List Node)
    (success : foldSiblings false unfinished nodes = .ok siblings) :
    ∃ later, siblingLooseBranches siblings = branchLooseBranches unfinished ++ later := by
  induction nodes generalizing unfinished siblings with
  | nil =>
      obtain rfl := Except.ok.inj success
      exact ⟨[], by simp⟩
  | cons node rest inductionHypothesis =>
      obtain ⟨folded, others, _, foundOthers, rfl⟩ := foldSiblings_cons_ok success
      obtain ⟨later, whole⟩ := inductionHypothesis _ _ foundOthers
      refine ⟨looseBranches folded ++ orphanOf unfinished folded ++ later, ?_⟩
      rw [siblingLooseBranches_append, whole, ← List.append_assoc, looseBranches_place]
      simp only [List.append_assoc]

mutual

/-- Folding strictly is folding leniently and refusing the first branch without a chain. -/
theorem fold_strict : ∀ node : Node, fold true node = (do
    let folded ← fold false node
    unlessLoose true (looseBranches folded) folded)
  | .root children location => by
      simp [fold, looseBranches, foldSiblings_strict [] children rfl, unlessLoose_bind_ok]
  | .doctype doctype location => rfl
  | .text content location => rfl
  | .interpolated parts location => rfl
  | .element tag attributes children location => by
      simp [fold, looseBranches, foldSiblings_strict [] children rfl, unlessLoose_bind_ok]
  | .loop iterator source body location => by
      simp [fold, looseBranches, foldSiblings_strict [] body rfl, unlessLoose_bind_ok]
  | .branch branch => by
      simp [fold, looseBranches, foldSiblings_strict [] branch.body rfl, unlessLoose_bind_ok]
  | .chain branches location => by
      simp [fold, looseBranches, foldBranches_strict branches, unlessLoose_bind_ok]
  | .staticBlock children html => by
      simp [fold, looseBranches, foldSiblings_strict [] children rfl, unlessLoose_bind_ok]

/-- What folds strictly has left no branch without a chain. -/
theorem foldSiblings_strict : ∀ (unfinished : List (Branch Node)) (nodes : List Node),
    branchLooseBranches unfinished = [] →
    foldSiblings true unfinished nodes = (do
      let siblings ← foldSiblings false unfinished nodes
      unlessLoose true (siblingLooseBranches siblings) siblings)
  | unfinished, [], clean => by simp [foldSiblings, clean]
  | unfinished, node :: rest, clean => by
      obtain ⟨folded, found⟩ := fold_lenient node
      obtain ⟨others, foundOthers⟩ := foldSiblings_lenient (place unfinished folded).2 rest
      obtain ⟨later, whole⟩ := looseBranches_foldSiblings _ _ _ foundOthers
      have placed := looseBranches_place unfinished folded
      rw [clean, List.nil_append] at placed
      rw [foldSiblings_cons, foldSiblings_cons, fold_strict node, found]
      simp only [Result.ok_bind, unlessLoose_lenient, foundOthers, Result.pure_eq_ok,
        siblingLooseBranches_append]
      -- Branches inside the sibling are met first, then the sibling itself, then what follows it.
      cases inner : looseBranches folded with
      | cons branch more =>
          rw [whole, ← List.append_assoc, placed, inner]
          rfl
      | nil =>
          cases orphan : orphanOf unfinished folded with
          | cons branch more =>
              rw [whole, ← List.append_assoc, placed, inner, orphan]
              simp [orphan]
          | nil =>
              simp only [inner, orphan, List.append_nil, List.append_eq_nil_iff] at placed
              have later := foldSiblings_strict (place unfinished folded).2 rest placed.2
              simp [later, foundOthers, unlessLoose_bind_ok, placed.1, orphan]

/-- Branches fold strictly unless a loose branch is left in them. -/
theorem foldBranches_strict : ∀ branches : List (Branch Node),
    foldBranches true branches = (do
      let folded ← foldBranches false branches
      unlessLoose true (branchLooseBranches folded) folded)
  | [] => rfl
  | branch :: rest => by
      obtain ⟨body, found⟩ := foldSiblings_lenient [] branch.body
      obtain ⟨others, foundOthers⟩ := foldBranches_lenient rest
      rw [foldBranches, foldBranches, foldSiblings_strict [] branch.body rfl, found,
        foldBranches_strict rest, foundOthers]
      cases inner : siblingLooseBranches body <;>
        simp [branchLooseBranches, inner, unlessLoose_bind_ok]

end

/-- What folds strictly folds leniently to the same node. -/
theorem fold_strict_ok {node folded : Node} (success : fold true node = .ok folded) :
    fold false node = .ok folded ∧ looseBranches folded = [] := by
  obtain ⟨leniently, found⟩ := fold_lenient node
  rw [fold_strict, found, Result.ok_bind] at success
  cases loose : looseBranches leniently with
  | cons branch more =>
      rw [loose] at success
      contradiction
  | nil =>
      rw [loose, unlessLoose_nil] at success
      obtain rfl := Except.ok.inj success
      exact ⟨found, loose⟩

/-- Whether strictly or not, a template that folds is gathered. -/
theorem eq_gathered_of_fold {strict : Bool} {node folded : Node}
    (success : fold strict node = .ok folded) : folded = node.gathered := by
  have leniently : fold false node = .ok folded := by
    cases strict with
    | false => exact success
    | true => exact (fold_strict_ok success).1
  exact Except.ok.inj (leniently.symm.trans (fold_eq_gathered node))

/-- Only a branch without a chain is refused. -/
theorem fold_strict_error {node : Node} {fault : Diagnostic}
    (failed : fold true node = .error fault) : ∃ branch, fault = orphanDiagnostic branch := by
  obtain ⟨leniently, found⟩ := fold_lenient node
  rw [fold_strict, found, Result.ok_bind] at failed
  cases loose : looseBranches leniently with
  | cons branch more =>
      rw [loose, unlessLoose_cons] at failed
      exact ⟨branch, (Except.error.inj failed).symm⟩
  | nil =>
      rw [loose, unlessLoose_nil] at failed
      contradiction

end HtmlTemplate.Template
