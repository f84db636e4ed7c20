/-
This file shows that folding a second time changes nothing: no if branch is left outside of chains, and
nothing else starts a chain.
-/

import HtmlTemplate.Proofs.Template.Folding

namespace HtmlTemplate.Template

/-- An if branch among siblings starts a chain. -/
def startsChain : Node → Bool
  | .branch branch => branch.kind == .ifCase
  | _ => false

/-- A sibling that starts a chain counts, and those inside it. -/
theorem siblingChainStarts_cons (node : Node) (rest : List Node) :
    siblingChainStarts (node :: rest) =
      (if startsChain node then 1 else 0) + chainStarts node + siblingChainStarts rest := by
  cases node <;> simp [siblingChainStarts, startsChain]

@[simp] theorem siblingChainStarts_append (first second : List Node) :
    siblingChainStarts (first ++ second) =
      siblingChainStarts first + siblingChainStarts second := by
  induction first with
  | nil => simp [siblingChainStarts]
  | cons node rest inductionHypothesis =>
      rw [List.cons_append, siblingChainStarts_cons, siblingChainStarts_cons, inductionHypothesis]
      omega

@[simp] theorem branchChainStarts_append (first second : List (Branch Node)) :
    branchChainStarts (first ++ second) = branchChainStarts first + branchChainStarts second := by
  induction first with
  | nil => simp [branchChainStarts]
  | cons branch rest inductionHypothesis =>
      simp only [List.cons_append, branchChainStarts, inductionHypothesis]
      omega

@[simp] theorem siblingChainStarts_chainOf (branches : List (Branch Node)) :
    siblingChainStarts (chainOf branches) = branchChainStarts branches := by
  cases branches with
  | nil => rfl
  | cons first more => simp [chainOf, siblingChainStarts, chainStarts]

/-- Placing a sibling takes if branches into chains, and keeps all that is inside. -/
theorem chainStarts_place (unfinished : List (Branch Node)) (folded : Node) :
    siblingChainStarts (place unfinished folded).1 + branchChainStarts (place unfinished folded).2 =
      branchChainStarts unfinished + chainStarts folded := by
  cases folded with
  | branch branch =>
      rcases branch with ⟨kind, condition, body, location⟩
      cases kind <;> cases unfinished <;>
        simp [place, chainOf, siblingChainStarts, chainStarts, branchChainStarts] <;> omega
  | _ => simp [place, siblingChainStarts, branchChainStarts]

/-- Gathering leaves no chain to start. -/
theorem siblingChainStarts_gather {unfinished : List (Branch Node)} {nodes : List Node}
    (begun : branchChainStarts unfinished = 0) (closed : ∀ node ∈ nodes, chainStarts node = 0) :
    siblingChainStarts (gather unfinished nodes) = 0 := by
  induction nodes generalizing unfinished with
  | nil => rw [gather, siblingChainStarts_chainOf, begun]
  | cons node rest inductionHypothesis =>
      obtain ⟨here, later⟩ := List.forall_mem_cons.mp closed
      have placed := chainStarts_place unfinished node
      rw [begun, here] at placed
      have others : siblingChainStarts (gather (place unfinished node).2 rest) = 0 :=
        inductionHypothesis (by omega) later
      rw [gather, siblingChainStarts_append]
      omega

mutual

/-- No if branch is left in the child lists of a folded node. -/
theorem chainStarts_gathered : ∀ node : Node, chainStarts node.gathered = 0
  | .root children _ => siblingChainStarts_gather rfl (chainStarts_gatheredAll children)
  | .doctype _ _ => rfl
  | .text _ _ => rfl
  | .interpolated _ _ => rfl
  | .element _ _ children _ => siblingChainStarts_gather rfl (chainStarts_gatheredAll children)
  | .loop _ _ body _ => siblingChainStarts_gather rfl (chainStarts_gatheredAll body)
  | .branch branch => siblingChainStarts_gather rfl (chainStarts_gatheredAll branch.body)
  | .chain branches _ => chainStarts_gatheredBodies branches
  | .staticBlock children _ => siblingChainStarts_gather rfl (chainStarts_gatheredAll children)

/-- Folded siblings start no chain inside. -/
theorem chainStarts_gatheredAll : ∀ nodes : List Node, ∀ node ∈ gatheredAll nodes, chainStarts node = 0
  | [] => List.forall_mem_nil _
  | node :: rest => List.forall_mem_cons.mpr ⟨chainStarts_gathered node, chainStarts_gatheredAll rest⟩

/-- Folded branches start no chain inside. -/
theorem chainStarts_gatheredBodies : ∀ branches : List (Branch Node),
    branchChainStarts (gatheredBodies branches) = 0
  | [] => rfl
  | branch :: rest => by
      have body : siblingChainStarts (gather [] (gatheredAll branch.body)) = 0 :=
        siblingChainStarts_gather rfl (chainStarts_gatheredAll branch.body)
      rw [gatheredBodies, branchChainStarts, body, chainStarts_gatheredBodies rest]

end

/-- A sibling that starts no chain is placed alone. -/
theorem place_of_not_startsChain {node : Node} (single : startsChain node = false) :
    place [] node = ([node], []) := by
  cases node with
  | branch branch =>
      rcases branch with ⟨kind, condition, body, location⟩
      cases kind <;> simp_all [startsChain, place]
  | _ => rfl

mutual

/-- Folding changes no node without if branches in its child lists. -/
theorem fold_of_chainStarts : ∀ (node : Node), chainStarts node = 0 → fold false node = .ok node
  | .root children location, closed => by
      simp [fold, foldSiblings_of_chainStarts children closed]
  | .doctype doctype location, _ => rfl
  | .text content location, _ => rfl
  | .interpolated parts location, _ => rfl
  | .element tag attributes children location, closed => by
      simp [fold, foldSiblings_of_chainStarts children closed]
  | .loop iterator source body location, closed => by
      simp [fold, foldSiblings_of_chainStarts body closed]
  | .branch branch, closed => by
      simp [fold, foldSiblings_of_chainStarts branch.body closed]
  | .chain branches location, closed => by
      simp [fold, foldBranches_of_chainStarts branches closed]
  | .staticBlock children html, closed => by
      simp [fold, foldSiblings_of_chainStarts children closed]

/-- Siblings without if branches fold to themselves. -/
theorem foldSiblings_of_chainStarts : ∀ (nodes : List Node), siblingChainStarts nodes = 0 →
    foldSiblings false [] nodes = .ok nodes
  | [], _ => rfl
  | node :: rest, closed => by
      rw [siblingChainStarts_cons] at closed
      have single : startsChain node = false := by
        cases starts : startsChain node <;> simp_all
      have inside := fold_of_chainStarts node (by omega)
      have later := foldSiblings_of_chainStarts rest (by omega)
      simp [foldSiblings_cons, inside, place_of_not_startsChain single, later]

/-- Branches without if branches inside fold to themselves. -/
theorem foldBranches_of_chainStarts : ∀ (branches : List (Branch Node)),
    branchChainStarts branches = 0 → foldBranches false branches = .ok branches
  | [], _ => rfl
  | branch :: rest, closed => by
      rw [branchChainStarts] at closed
      have body := foldSiblings_of_chainStarts branch.body (by omega)
      have later := foldBranches_of_chainStarts rest (by omega)
      simp [foldBranches, body, later]

end

/-- Folding a second time changes nothing. -/
theorem fold_folded {strict : Bool} {node folded : Node} (success : fold strict node = .ok folded) :
    fold strict folded = .ok folded := by
  obtain rfl := eq_gathered_of_fold success
  have again := fold_of_chainStarts _ (chainStarts_gathered node)
  cases strict with
  | false => exact again
  | true => rw [fold_strict, again, Result.ok_bind, (fold_strict_ok success).2, unlessLoose_nil]

end HtmlTemplate.Template
