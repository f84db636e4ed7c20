/-
This file takes chains apart again. A template without chains comes back when the chains of its folded form are taken
apart. Compared with it, these chains are as long as can be, and their number is the one that is logged.
-/

import HtmlTemplate.Compile.Basic
import HtmlTemplate.Proofs.Template.Gathering

namespace HtmlTemplate.Template

mutual

/-- A node with all chains inside it replaced by their branches, as siblings. -/
def Node.unfolded : Node → Node
  | .root children location => .root (unfoldedAll children) location
  | .doctype doctype location => .doctype doctype location
  | .text content location => .text content location
  | .interpolated parts location => .interpolated parts location
  | .element tag attributes children location => .element tag attributes (unfoldedAll children) location
  | .loop iterator source body location => .loop iterator source (unfoldedAll body) location
  | .branch branch => .branch { branch with body := unfoldedAll branch.body }
  | .chain branches location => .chain (unfoldedBodies branches) location
  | .staticBlock children html => .staticBlock (unfoldedAll children) html

def unfoldedAll : List Node → List Node
  | [] => []
  | node :: rest => node.unfolded.spread ++ unfoldedAll rest

def unfoldedBodies : List (Branch Node) → List (Branch Node)
  | [] => []
  | branch :: rest => { branch with body := unfoldedAll branch.body } :: unfoldedBodies rest

end

/-- Branches unfold to branches with unfolded bodies. -/
theorem map_unfolded_branches (branches : List (Branch Node)) :
    (branches.map Node.branch).map Node.unfolded = (unfoldedBodies branches).map Node.branch := by
  induction branches with
  | nil => rfl
  | cons branch rest inductionHypothesis =>
      simp only [List.map_cons, inductionHypothesis, unfoldedBodies, Node.unfolded]

/-- Unfolding siblings is taking their chains apart and unfolding what there is then. -/
theorem unfoldedAll_eq (nodes : List Node) : unfoldedAll nodes = (spreadAll nodes).map Node.unfolded := by
  induction nodes with
  | nil => rfl
  | cons node rest inductionHypothesis =>
      have here : node.unfolded.spread = node.spread.map Node.unfolded := by
        cases node with
        | chain branches location => exact (map_unfolded_branches branches).symm
        | _ => rfl
      rw [unfoldedAll, spreadAll_cons, List.map_append, here, inductionHypothesis]

theorem unfoldedAll_append (first second : List Node) :
    unfoldedAll (first ++ second) = unfoldedAll first ++ unfoldedAll second := by
  rw [unfoldedAll_eq, spreadAll_append, List.map_append, ← unfoldedAll_eq, ← unfoldedAll_eq]

/-- Gathering is undone by unfolding. -/
theorem unfoldedAll_gather (nodes : List Node) : unfoldedAll (gather [] nodes) = unfoldedAll nodes := by
  rw [unfoldedAll_eq, unfoldedAll_eq, spreadAll_gather]
  rfl

mutual

/-- Unfolding takes apart whatever chains there are, also those that folding made. -/
theorem unfolded_gathered : ∀ node : Node, node.gathered.unfolded = node.unfolded
  | .root children _ => by
      simp [Node.gathered, Node.unfolded, unfoldedAll_gather, unfoldedAll_gathered children]
  | .doctype _ _ => rfl
  | .text _ _ => rfl
  | .interpolated _ _ => rfl
  | .element _ _ children _ => by
      simp [Node.gathered, Node.unfolded, unfoldedAll_gather, unfoldedAll_gathered children]
  | .loop _ _ body _ => by
      simp [Node.gathered, Node.unfolded, unfoldedAll_gather, unfoldedAll_gathered body]
  | .branch branch => by
      simp [Node.gathered, Node.unfolded, unfoldedAll_gather, unfoldedAll_gathered branch.body]
  | .chain branches _ => by
      simp [Node.gathered, Node.unfolded, unfoldedBodies_gathered branches]
  | .staticBlock children _ => by
      simp [Node.gathered, Node.unfolded, unfoldedAll_gather, unfoldedAll_gathered children]

/-- Folding siblings is undone by unfolding. -/
theorem unfoldedAll_gathered : ∀ nodes : List Node, unfoldedAll (gatheredAll nodes) = unfoldedAll nodes
  | [] => rfl
  | node :: rest => by
      rw [gatheredAll, unfoldedAll, unfoldedAll, unfolded_gathered node, unfoldedAll_gathered rest]

/-- Folding branches is undone by unfolding. -/
theorem unfoldedBodies_gathered : ∀ branches : List (Branch Node),
    unfoldedBodies (gatheredBodies branches) = unfoldedBodies branches
  | [] => rfl
  | branch :: rest => by
      simp [gatheredBodies, unfoldedBodies, unfoldedAll_gather, unfoldedAll_gathered branch.body,
        unfoldedBodies_gathered rest]

end

mutual

/-- A node without chains unfolds to itself. -/
theorem unfolded_of_noChains : ∀ node : Node, NoChains node.postorder → node.unfolded = node
  | .root children _, plain => by
      have inside := unfoldedAll_of_noChains children (List.forall_mem_append.mp plain).1
      rw [Node.unfolded, inside]
  | .doctype _ _, _ => rfl
  | .text _ _, _ => rfl
  | .interpolated _ _, _ => rfl
  | .element _ _ children _, plain => by
      have inside := unfoldedAll_of_noChains children (List.forall_mem_append.mp plain).1
      rw [Node.unfolded, inside]
  | .loop _ _ body _, plain => by
      have inside := unfoldedAll_of_noChains body (List.forall_mem_append.mp plain).1
      rw [Node.unfolded, inside]
  | .branch branch, plain => by
      have inside := unfoldedAll_of_noChains branch.body (List.forall_mem_append.mp plain).1
      rw [Node.unfolded, inside]
  | .chain branches location, plain => by
      have isChain := plain _ (Node.chain branches location).mem_postorder
      contradiction
  | .staticBlock children _, plain => by
      have inside := unfoldedAll_of_noChains children (List.forall_mem_append.mp plain).1
      rw [Node.unfolded, inside]

/-- Siblings without chains unfold to themselves. -/
theorem unfoldedAll_of_noChains : ∀ nodes : List Node,
    NoChains (postorderAll nodes) → unfoldedAll nodes = nodes
  | [], _ => rfl
  | node :: rest, plain => by
      obtain ⟨here, later⟩ := List.forall_mem_append.mp plain
      rw [unfoldedAll, unfolded_of_noChains node here, unfoldedAll_of_noChains rest later,
        Node.spread_of_not_isChain (here node node.mem_postorder)]
      rfl

end

/-- The child lists inside a chain are the child lists inside its branches. -/
theorem childListsAll_spreadAll (nodes : List Node) :
    childListsAll (spreadAll nodes) = childListsAll nodes := by
  have bodies : ∀ branches : List (Branch Node),
      childListsAll (branches.map .branch) = childListsBodies branches := by
    intro branches
    induction branches with
    | nil => rfl
    | cons branch rest inductionHypothesis =>
        rw [List.map_cons, childListsAll, inductionHypothesis, childListsBodies, Node.childLists]
  induction nodes with
  | nil => rfl
  | cons node rest inductionHypothesis =>
      have here : childListsAll node.spread = node.childLists := by
        cases node with
        | chain branches location => exact bodies branches
        | _ => exact List.append_nil _
      rw [spreadAll_cons, childListsAll_append, here, inductionHypothesis, childListsAll]

/-- Gathering keeps the child lists inside. -/
theorem childListsAll_gather (nodes : List Node) :
    childListsAll (gather [] nodes) = childListsAll nodes := by
  rw [← childListsAll_spreadAll, spreadAll_gather, List.map_nil, List.nil_append,
    childListsAll_spreadAll]

mutual

/-- Each child list is gathered on its own. -/
theorem childLists_gathered : ∀ node : Node,
    node.gathered.childLists = node.childLists.map fun children => gather [] (gatheredAll children)
  | .root children _ => by
      simp [Node.gathered, Node.childLists, childListsAll_gather, childListsAll_gathered children]
  | .doctype _ _ => rfl
  | .text _ _ => rfl
  | .interpolated _ _ => rfl
  | .element _ _ children _ => by
      simp [Node.gathered, Node.childLists, childListsAll_gather, childListsAll_gathered children]
  | .loop _ _ body _ => by
      simp [Node.gathered, Node.childLists, childListsAll_gather, childListsAll_gathered body]
  | .branch branch => by
      simp [Node.gathered, Node.childLists, childListsAll_gather, childListsAll_gathered branch.body]
  | .chain branches _ => by
      simp [Node.gathered, Node.childLists, childListsBodies_gathered branches]
  | .staticBlock children _ => by
      simp [Node.gathered, Node.childLists, childListsAll_gather, childListsAll_gathered children]

/-- Folding gathers every child list of siblings. -/
theorem childListsAll_gathered : ∀ nodes : List Node,
    childListsAll (gatheredAll nodes) =
      (childListsAll nodes).map fun children => gather [] (gatheredAll children)
  | [] => rfl
  | node :: rest => by
      rw [gatheredAll, childListsAll, childListsAll, List.map_append, childLists_gathered node,
        childListsAll_gathered rest]

/-- Folding gathers every child list of branches. -/
theorem childListsBodies_gathered : ∀ branches : List (Branch Node),
    childListsBodies (gatheredBodies branches) =
      (childListsBodies branches).map fun children => gather [] (gatheredAll children)
  | [] => rfl
  | branch :: rest => by
      simp [gatheredBodies, childListsBodies, childListsAll_gather,
        childListsAll_gathered branch.body, childListsBodies_gathered rest]

end

theorem countP_chainOf (branches : List (Branch Node)) :
    (postorderAll (chainOf branches)).countP Node.isChain =
      (postorderBodies branches).countP Node.isChain + (chainOf branches).length := by
  cases branches with
  | nil => rfl
  | cons first more => simp [chainOf, postorderAll, Node.postorder, Node.isChain]

/-- Placing an if branch opens one chain, and placing any other sibling opens none. -/
theorem countP_place (unfinished : List (Branch Node)) (node : Node) :
    (postorderAll (place unfinished node).1).countP Node.isChain +
        ((postorderBodies (place unfinished node).2).countP Node.isChain +
          (chainOf (place unfinished node).2).length) =
      (postorderBodies unfinished).countP Node.isChain + (chainOf unfinished).length +
        (node.postorder.countP Node.isChain + if startsChain node then 1 else 0) := by
  -- An unfinished chain counts as the one chain that it will be.
  have closed : chainOf [] = [] := rfl
  have single : ∀ first more, (chainOf (first :: more)).length = 1 := fun _ _ => rfl
  cases node with
  | branch branch =>
      have inside : (Node.branch branch).postorder.countP Node.isChain =
          (postorderAll branch.body).countP Node.isChain := by
        simp [Node.postorder, Node.isChain]
      rcases branch with ⟨kind, condition, body, location⟩
      cases kind <;> cases unfinished <;>
        simp [place, startsChain, countP_chainOf, inside, closed, single, postorderAll,
          postorderBodies] <;>
        omega
  | _ => simp [place, startsChain, countP_chainOf, closed, postorderAll, postorderBodies]

/-- Gathering makes a chain of an unfinished one and of each if branch. -/
theorem countP_gather (unfinished : List (Branch Node)) (nodes : List Node) :
    (postorderAll (gather unfinished nodes)).countP Node.isChain =
      (postorderBodies unfinished).countP Node.isChain + (chainOf unfinished).length +
        ((postorderAll nodes).countP Node.isChain + nodes.countP startsChain) := by
  induction nodes generalizing unfinished with
  | nil => simp [gather, countP_chainOf, postorderAll]
  | cons node rest inductionHypothesis =>
      have placed := countP_place unfinished node
      rw [gather, postorderAll_append, List.countP_append, inductionHypothesis, postorderAll,
        List.countP_append, List.countP_cons]
      omega

/-- Folding keeps which siblings start chains. -/
theorem startsChain_gathered (node : Node) : startsChain node.gathered = startsChain node := by
  cases node <;> rfl

mutual

/-- Folding adds one chain for each if branch. -/
theorem countP_gathered : ∀ node : Node,
    node.gathered.postorder.countP Node.isChain = node.postorder.countP Node.isChain + chainStarts node
  | .root children _ => by
      simp [Node.gathered, Node.postorder, Node.isChain, chainStarts, countP_gather_gathered children]
  | .doctype _ _ => rfl
  | .text _ _ => rfl
  | .interpolated _ _ => rfl
  | .element _ _ children _ => by
      simp [Node.gathered, Node.postorder, Node.isChain, chainStarts, countP_gather_gathered children]
  | .loop _ _ body _ => by
      simp [Node.gathered, Node.postorder, Node.isChain, chainStarts, countP_gather_gathered body]
  | .branch branch => by
      simp [Node.gathered, Node.postorder, Node.isChain, chainStarts, countP_gather_gathered branch.body]
  | .chain branches _ => by
      simp [Node.gathered, Node.postorder, Node.isChain, chainStarts, countP_gatheredBodies branches,
        Nat.add_right_comm]
  | .staticBlock children _ => by
      simp [Node.gathered, Node.postorder, Node.isChain, chainStarts, countP_gather_gathered children]

/-- Folding siblings adds a chain for every start. -/
theorem countP_gather_gathered : ∀ nodes : List Node,
    (postorderAll (gather [] (gatheredAll nodes))).countP Node.isChain =
      (postorderAll nodes).countP Node.isChain + siblingChainStarts nodes
  | [] => rfl
  | node :: rest => by
      have here := countP_gathered node
      have later := countP_gather_gathered rest
      rw [countP_gather] at later ⊢
      simp only [gatheredAll, postorderAll, List.countP_append, List.countP_cons, startsChain_gathered,
        siblingChainStarts_cons]
      omega

/-- Folding branches adds a chain for every start inside. -/
theorem countP_gatheredBodies : ∀ branches : List (Branch Node),
    (postorderBodies (gatheredBodies branches)).countP Node.isChain =
      (postorderBodies branches).countP Node.isChain + branchChainStarts branches
  | [] => rfl
  | branch :: rest => by
      have here := countP_gather_gathered branch.body
      have later := countP_gatheredBodies rest
      simp only [gatheredBodies, postorderBodies, List.countP_append, branchChainStarts]
      omega

end

/-- A child list of a folded template, against the unfolded one. -/
structure HoldsLongestChains (siblings : List Node) : Prop where
  /-- A chain takes an if branch and the longest run of branches directly behind it that may follow one. -/
  chain : ∀ before branches location after, siblings = before ++ .chain branches location :: after →
    ∃ first run later, unfoldedAll siblings = unfoldedAll before ++ .branch first :: later ∧
      unfoldedBodies branches = first :: run ∧ location = first.location ∧ first.kind = .ifCase ∧
      IsLongestRun (run.map .branch) later
  /-- A branch outside of chains starts no chain and has none to continue. -/
  branch : ∀ before branch after, siblings = before ++ .branch branch :: after →
    branch.kind ≠ .ifCase ∧ ¬ EndsOpen (unfoldedAll before)

/-- Unfolding keeps the kinds of siblings. -/
theorem map_kind?_unfolded (siblings : List Node) :
    (siblings.map Node.unfolded).map Node.kind? = siblings.map Node.kind? := by
  rw [List.map_map]
  congr 1
  funext node
  cases node <;> rfl

/-- Unfolding keeps longest runs. -/
theorem IsLongestRun.unfolded {run siblings : List Node} (isLongest : IsLongestRun run siblings) :
    IsLongestRun (run.map Node.unfolded) (siblings.map Node.unfolded) where
  front := isLongest.front.map _
  continues := by
    rw [Continues, map_kind?_unfolded]
    exact isLongest.continues
  longest := by
    intro other front continues
    obtain ⟨folded, isFront, rfl⟩ := List.prefix_map_iff.mp front
    rw [Continues, map_kind?_unfolded] at continues
    simpa using isLongest.longest folded isFront continues

/-- Gathered siblings hold the longest chains. -/
theorem AreGathered.holdsLongestChains {siblings : List Node} (gathered : AreGathered siblings) :
    HoldsLongestChains siblings where
  chain := by
    intro before branches location after split
    obtain ⟨first, run, rfl, rfl, isIf, isLongest⟩ := gathered _ _ _ split
    have unfolded := isLongest.unfolded
    rw [List.map_append, ← unfoldedAll_eq, map_unfolded_branches] at unfolded
    -- Unfolding the bodies of branches changes none of their kinds, so that the run is still the longest.
    refine ⟨{ first with body := unfoldedAll first.body }, unfoldedBodies run,
      (unfoldedBodies run).map .branch ++ unfoldedAll after, ?_, rfl, rfl, isIf, unfolded⟩
    rw [split, unfoldedAll_append]
    rfl
  branch := by
    intro before branch after split
    refine ⟨gathered _ _ _ split, ?_⟩
    rw [unfoldedAll_eq, EndsOpen, map_kind?_unfolded]
    exact gathered.not_endsOpen split

theorem NoChains.gatheredAll {nodes : List Node} (plain : NoChains nodes) :
    NoChains (gatheredAll nodes) := by
  induction nodes with
  | nil => exact plain
  | cons node rest inductionHypothesis =>
      obtain ⟨here, later⟩ := List.forall_mem_cons.mp plain
      have same : node.gathered.isChain = node.isChain := by
        cases node <;> rfl
      exact List.forall_mem_cons.mpr ⟨same.trans here, inductionHypothesis later⟩

/-- Generating logs no folding. -/
theorem foldedBranches_notMem_generating (options : Options) (name : String) (template : Node)
    (groups : Nat) : .foldedBranches groups ∉ Trace.generating options name template := by
  unfold Trace.generating Trace.stage
  split <;> simp

/-- What is logged when a template is folded. -/
theorem foldedBranches_mem_folding {options : Options} {node folded : Node}
    (success : fold options.strict node = .ok folded) (name : String) (groups : Nat) :
    .foldedBranches groups ∈ Trace.folding options name node ↔ groups = chainStarts node := by
  simp [Trace.folding, Trace.stage, success, foldedBranches_notMem_generating]

/-- Folding loses nothing, and every chain is as long as can be. -/
theorem fold_takes_longest_chains (options : Options) (node folded : Node)
    (plain : ∀ part ∈ node.postorder, part.isChain = false)
    (success : fold options.strict node = .ok folded) :
    folded.unfolded = node ∧ folded.childLists.map unfoldedAll = node.childLists ∧
      (∀ siblings ∈ folded.childLists, HoldsLongestChains siblings) ∧
      ∀ name groups, .foldedBranches groups ∈ Trace.folding options name node ↔
        groups = folded.postorder.countP Node.isChain := by
  obtain rfl := eq_gathered_of_fold success
  have inside : ∀ children ∈ node.childLists, NoChains (postorderAll children) :=
    fun children isList part member => plain part (postorderAll_subset_of_mem node isList member)
  refine ⟨?_, ?_, ?_, ?_⟩
  · rw [unfolded_gathered, unfolded_of_noChains node plain]
  · have same : ∀ children ∈ node.childLists,
        unfoldedAll (gather [] (gatheredAll children)) = children := by
      intro children isList
      rw [unfoldedAll_gather, unfoldedAll_gathered, unfoldedAll_of_noChains _ (inside children isList)]
    rw [childLists_gathered, List.map_map]
    exact (List.map_congr_left same).trans (List.map_id _)
  · intro siblings member
    rw [childLists_gathered] at member
    obtain ⟨children, isList, rfl⟩ := List.mem_map.mp member
    exact (areGathered_gather (inside children isList).siblings.gatheredAll).holdsLongestChains
  · intro name groups
    have before : node.postorder.countP Node.isChain = 0 := by
      simpa [List.countP_eq_zero] using plain
    rw [foldedBranches_mem_folding success, countP_gathered, before, Nat.zero_add]

/-- Branches with and without chains, also inside of each other. -/
def mixedBranches : Node :=
  .root
    [.branch ⟨.elseCase, none, [], .stub⟩,
     .branch ⟨.ifCase, some "a",
       [.branch ⟨.ifCase, some "b", [], .stub⟩, .branch ⟨.elseIfCase, some "c", [], .stub⟩,
        .text "d" .stub, .branch ⟨.elseCase, none, [], .stub⟩], .stub⟩,
     .branch ⟨.elseIfCase, some "e", [], .stub⟩, .branch ⟨.elseCase, none, [], .stub⟩,
     .branch ⟨.elseIfCase, some "f", [], .stub⟩, .branch ⟨.ifCase, some "g", [], .stub⟩,
     .branch ⟨.ifCase, some "h", [], .stub⟩] .stub

/-- A template with branches of all kinds folds so. -/
theorem fold_takes_longest_chains_mixedBranches :
    (∀ part ∈ mixedBranches.postorder, part.isChain = false) ∧
    ∃ folded, fold Options.lenient.strict mixedBranches = .ok folded ∧
      folded.unfolded = mixedBranches ∧
      folded.childLists.map unfoldedAll = mixedBranches.childLists ∧
      (∀ siblings ∈ folded.childLists, HoldsLongestChains siblings) ∧
      ∀ name groups, .foldedBranches groups ∈ Trace.folding .lenient name mixedBranches ↔
        groups = folded.postorder.countP Node.isChain :=
  ⟨by decide, mixedBranches.gathered, fold_eq_gathered mixedBranches,
    fold_takes_longest_chains .lenient mixedBranches mixedBranches.gathered (by decide)
      (fold_eq_gathered mixedBranches)⟩

end HtmlTemplate.Template
