/-
This file shows that folding branches and merging static runs do not get in each other's way: they may
be made in any order and any number of times.
-/

import HtmlTemplate.Proofs.Template.Merging
import HtmlTemplate.Proofs.Template.Refolding
import HtmlTemplate.Template.Node

namespace HtmlTemplate.Template

mutual

/-- No chain starts inside a static node. -/
theorem chainStarts_of_isStatic : ∀ {node : Node}, isStatic node = true → chainStarts node = 0
  | .text _ _, _ => rfl
  | .element _ _ _ _, static => siblingChainStarts_of_allStatic static

/-- No chain starts among static siblings. -/
theorem siblingChainStarts_of_allStatic : ∀ {nodes : List Node}, allStatic nodes = true →
    siblingChainStarts nodes = 0
  | [], _ => rfl
  | node :: rest, static => by
      rw [allStatic, Bool.and_eq_true] at static
      have single : startsChain node = false := by
        cases node <;> simp_all [startsChain, isStatic]
      rw [siblingChainStarts_cons, single, chainStarts_of_isStatic static.1,
        siblingChainStarts_of_allStatic static.2]
      rfl

end

/-- A chain is not static. -/
@[simp] theorem allStatic_chainOf (branches : List (Branch Node)) :
    allStatic (chainOf branches) = branches.isEmpty := by
  cases branches <;> rfl

/-- Siblings stay static when nothing but static nodes is placed among them. -/
theorem allStatic_place (unfinished : List (Branch Node)) (folded : Node) :
    (allStatic (place unfinished folded).1 && (place unfinished folded).2.isEmpty) =
      (unfinished.isEmpty && isStatic folded) := by
  cases folded with
  | branch branch =>
      rcases branch with ⟨kind, condition, body, location⟩
      cases kind <;> cases unfinished <;> simp [place, isStatic, allStatic]
  | _ => simp [place, allStatic]

/-- Gathering keeps whether siblings are static. -/
theorem allStatic_gather (unfinished : List (Branch Node)) (nodes : List Node) :
    allStatic (gather unfinished nodes) = (unfinished.isEmpty && allStatic nodes) := by
  induction nodes generalizing unfinished with
  | nil => simp [gather, allStatic]
  | cons node rest inductionHypothesis =>
      rw [gather, allStatic_append, inductionHypothesis, ← Bool.and_assoc, allStatic_place, allStatic,
        Bool.and_assoc]

mutual

/-- Folding keeps whether a node is static. -/
theorem isStatic_gathered : ∀ node : Node, isStatic node.gathered = isStatic node
  | .element _ _ children _ => (allStatic_gather [] _).trans (allStatic_gatheredAll children)
  | .doctype _ _ => rfl
  | .text _ _ => rfl
  | .interpolated _ _ => rfl
  | .root _ _ => rfl
  | .loop _ _ _ _ => rfl
  | .branch _ => rfl
  | .chain _ _ => rfl
  | .staticBlock _ _ => rfl

/-- Folding keeps whether siblings are static. -/
theorem allStatic_gatheredAll : ∀ nodes : List Node, allStatic (gatheredAll nodes) = allStatic nodes
  | [] => rfl
  | node :: rest => by
      rw [gatheredAll, allStatic, allStatic, isStatic_gathered node, allStatic_gatheredAll rest]

end

/-- Folding makes no node static, and keeps the static ones so. -/
theorem isStatic_fold {node folded : Node} (success : fold false node = .ok folded) :
    isStatic folded = isStatic node := by
  obtain rfl := eq_gathered_of_fold success
  exact isStatic_gathered node

/-- A static node holds no branch at all. -/
theorem fold_static {node : Node} (static : isStatic node = true) : fold false node = .ok node :=
  fold_of_chainStarts node (chainStarts_of_isStatic static)

@[simp] theorem mergeBranches_append (first second : List (Branch Node)) :
    mergeBranches (first ++ second) = mergeBranches first ++ mergeBranches second := by
  induction first with
  | nil => rfl
  | cons branch rest inductionHypothesis => simp [mergeBranches, inductionHypothesis]

/-- Merging a chain merges its branches. -/
@[simp] theorem map_mergeStatic_chainOf (branches : List (Branch Node)) :
    (chainOf branches).map mergeStatic = chainOf (mergeBranches branches) := by
  cases branches <;> rfl

/-- Whether none of the nodes is static. -/
def allDynamic (nodes : List Node) : Bool := nodes.all fun node => !isStatic node

/-- Nodes among which none is static are merged one by one. -/
theorem mergeSiblings_dynamic_append {first : List Node} (dynamic : allDynamic first = true)
    (rest : List Node) :
    mergeSiblings [] (first ++ rest) = first.map mergeStatic ++ mergeSiblings [] rest := by
  induction first with
  | nil => rfl
  | cons node more inductionHypothesis =>
      simp only [allDynamic, List.all_cons, Bool.and_eq_true, Bool.not_eq_true'] at dynamic
      rw [List.cons_append, mergeSiblings_dynamic dynamic.1, inductionHypothesis dynamic.2]
      rfl

/-- A chain may be changed by data. -/
@[simp] theorem allDynamic_chainOf (branches : List (Branch Node)) :
    allDynamic (chainOf branches) = true := by
  cases branches <;> rfl

/-- What a sibling completes is a chain or the sibling itself. -/
theorem allDynamic_place (unfinished : List (Branch Node)) {folded : Node}
    (dynamic : isStatic folded = false) : allDynamic (place unfinished folded).1 = true := by
  have chain := allDynamic_chainOf
  unfold allDynamic at chain ⊢
  cases folded with
  | branch branch =>
      rcases branch with ⟨kind, condition, body, location⟩
      cases kind <;> cases unfinished <;> simp [place, isStatic, chain]
  | _ => simp [place, dynamic, chain]

/-- A static sibling ends the chain and stands behind it. -/
theorem place_static {node : Node} (static : isStatic node = true)
    (unfinished : List (Branch Node)) : place unfinished node = (chainOf unfinished ++ [node], []) := by
  cases node with
  | branch branch => contradiction
  | _ => rfl

/-- A sibling is placed alike before and after merging. -/
theorem place_mergeStatic (unfinished : List (Branch Node)) (folded : Node) :
    place (mergeBranches unfinished) (mergeStatic folded) =
      ((place unfinished folded).1.map mergeStatic, mergeBranches (place unfinished folded).2) := by
  cases folded with
  | branch branch =>
      rcases branch with ⟨kind, condition, body, location⟩
      cases kind <;> cases unfinished <;> simp [place, mergeStatic, mergeBranches, chainOf]
  | _ => simp [place, mergeStatic, mergeBranches]

/-- A static block of new nodes is folded to itself. -/
theorem foldSiblings_staticBlockOf {run : List Node} (static : allStatic run = true)
    (rest : List Node) :
    foldSiblings false [] (staticBlockOf run ++ rest) = (do
      let others ← foldSiblings false [] rest
      return staticBlockOf run ++ others) := by
  have inside : foldSiblings false [] run.reverse = .ok run.reverse :=
    foldSiblings_of_chainStarts _ (siblingChainStarts_of_allStatic (by simpa using static))
  unfold staticBlockOf
  split
  · simp
  · simp [foldSiblings_cons, fold, inside, place, orphanOf, chainOf]

/-- A run that is not empty becomes a block. -/
theorem mergeSiblings_filled {run : List Node} (filled : run ≠ []) (nodes : List Node) :
    ∃ children html later, mergeSiblings run nodes = .staticBlock children html :: later := by
  induction nodes generalizing run with
  | nil => simp [mergeSiblings, staticBlockOf, filled]
  | cons node rest inductionHypothesis =>
      cases static : isStatic node with
      | true =>
          rw [mergeSiblings_static static]
          exact inductionHypothesis (List.cons_ne_nil node run)
      | false => simp [mergeSiblings_dynamic static, staticBlockOf, filled]

/-- A static block ends the unfinished chain before it. -/
theorem foldSiblings_filled_run (unfinished : List (Branch Node)) {run : List Node}
    (filled : run ≠ []) (nodes : List Node) :
    foldSiblings false unfinished (mergeSiblings run nodes) = (do
      let others ← foldSiblings false [] (mergeSiblings run nodes)
      return chainOf unfinished ++ others) := by
  obtain ⟨children, html, later, whole⟩ := mergeSiblings_filled filled nodes
  obtain ⟨folded, found⟩ := foldSiblings_lenient [] children
  obtain ⟨others, foundOthers⟩ := foldSiblings_lenient [] later
  simp [whole, foldSiblings_cons, fold, found, foundOthers, place, orphanOf, chainOf]

/-- Whether the siblings do not start with a static node. -/
def startsDynamic (nodes : List Node) : Bool := nodes.head?.all fun node => !isStatic node

/-- A run ends before a sibling that data may change. -/
theorem mergeSiblings_startsDynamic {nodes : List Node} (dynamic : startsDynamic nodes = true)
    (run : List Node) :
    mergeSiblings run nodes = staticBlockOf run ++ mergeSiblings [] nodes := by
  cases nodes with
  | nil => simp [mergeSiblings, staticBlockOf]
  | cons node rest =>
      have here : isStatic node = false := by simpa [startsDynamic] using dynamic
      rw [mergeSiblings_dynamic here, mergeSiblings_dynamic here]
      rfl

/-- What is placed starts with a chain or the sibling, or goes on. -/
theorem place_starts (unfinished : List (Branch Node)) (folded : Node)
    (dynamic : unfinished ≠ [] ∨ isStatic folded = false) :
    startsDynamic (place unfinished folded).1 = true ∧
      ((place unfinished folded).1 = [] → (place unfinished folded).2 ≠ []) := by
  cases folded with
  | branch branch =>
      rcases branch with ⟨kind, condition, body, location⟩
      cases kind <;> cases unfinished <;> simp [place, startsDynamic, chainOf, isStatic]
  | _ => cases unfinished <;> simp_all [place, startsDynamic, chainOf, isStatic]

/-- Siblings start as their first part does, or their second. -/
theorem startsDynamic_append {first second : List Node} (dynamic : startsDynamic first = true)
    (later : first = [] → startsDynamic second = true) :
    startsDynamic (first ++ second) = true := by
  cases first with
  | nil => exact later rfl
  | cons node rest => exact dynamic

/-- The chain that is unfinished comes first among the folded siblings. -/
theorem startsDynamic_foldSiblings {unfinished : List (Branch Node)} {nodes siblings : List Node}
    (begun : unfinished ≠ []) (success : foldSiblings false unfinished nodes = .ok siblings) :
    startsDynamic siblings = true := by
  induction nodes generalizing unfinished siblings with
  | nil =>
      obtain rfl := Except.ok.inj success
      cases unfinished with
      | nil => contradiction
      | cons first more => rfl
  | cons node rest inductionHypothesis =>
      obtain ⟨folded, others, _, foundOthers, rfl⟩ := foldSiblings_cons_ok success
      obtain ⟨dynamic, goesOn⟩ := place_starts unfinished folded (.inl begun)
      exact startsDynamic_append dynamic fun nothing =>
        inductionHypothesis (goesOn nothing) foundOthers

mutual

/-- Leniently, folding after merging is merging after folding. -/
theorem fold_mergeStatic_lenient : ∀ (node : Node) {folded : Node}, fold false node = .ok folded →
    fold false (mergeStatic node) = .ok (mergeStatic folded)
  | .root children location, folded, success => by
      obtain ⟨siblings, found, success⟩ := Result.bind_eq_ok success
      obtain rfl := Except.ok.inj success
      have inside := foldSiblings_mergeSiblings children found (.inl rfl) rfl
      rw [mergeBranches] at inside
      simp [fold, mergeStatic, inside]
  | .doctype doctype location, folded, success => by
      obtain rfl := Except.ok.inj success
      rfl
  | .text content location, folded, success => by
      obtain rfl := Except.ok.inj success
      rfl
  | .interpolated parts location, folded, success => by
      obtain rfl := Except.ok.inj success
      rfl
  | .element tag attributes children location, folded, success => by
      obtain ⟨siblings, found, success⟩ := Result.bind_eq_ok success
      obtain rfl := Except.ok.inj success
      have inside := foldSiblings_mergeSiblings children found (.inl rfl) rfl
      rw [mergeBranches] at inside
      simp [fold, mergeStatic, inside]
  | .loop iterator source body location, folded, success => by
      obtain ⟨siblings, found, success⟩ := Result.bind_eq_ok success
      obtain rfl := Except.ok.inj success
      have inside := foldSiblings_mergeSiblings body found (.inl rfl) rfl
      rw [mergeBranches] at inside
      simp [fold, mergeStatic, inside]
  | .branch branch, folded, success => by
      obtain ⟨siblings, found, success⟩ := Result.bind_eq_ok success
      obtain rfl := Except.ok.inj success
      have inside := foldSiblings_mergeSiblings branch.body found (.inl rfl) rfl
      rw [mergeBranches] at inside
      simp [fold, mergeStatic, inside]
  | .chain branches location, folded, success => by
      obtain ⟨foldedBranches, found, success⟩ := Result.bind_eq_ok success
      obtain rfl := Except.ok.inj success
      simp [fold, mergeStatic, foldBranches_mergeBranches branches found]
  | .staticBlock children html, folded, success => by
      obtain ⟨siblings, found, success⟩ := Result.bind_eq_ok success
      obtain rfl := Except.ok.inj success
      simp [fold, mergeStatic, found]
termination_by structural node => node

/-- Siblings come after a static run or after an unfinished chain, never after both. -/
theorem foldSiblings_mergeSiblings : ∀ (nodes : List Node) {run : List Node}
    {unfinished : List (Branch Node)} {siblings : List Node},
    foldSiblings false unfinished nodes = .ok siblings → run = [] ∨ unfinished = [] →
    allStatic run = true → foldSiblings false (mergeBranches unfinished) (mergeSiblings run nodes) =
      .ok (mergeSiblings run siblings)
  | [], run, unfinished, siblings, success, apart, static => by
      obtain rfl := Except.ok.inj success
      rcases apart with rfl | rfl
      · have chain := mergeSiblings_dynamic_append (allDynamic_chainOf unfinished) []
        rw [List.append_nil, map_mergeStatic_chainOf] at chain
        rw [chain]
        simp [mergeSiblings, staticBlockOf, foldSiblings]
      · have block := foldSiblings_staticBlockOf static []
        simpa [mergeSiblings, mergeBranches, chainOf, foldSiblings] using block
  | node :: rest, run, unfinished, siblings, success, apart, static => by
      obtain ⟨folded, others, found, foundOthers, rfl⟩ := foldSiblings_cons_ok success
      cases kind : isStatic node with
      | true =>
          obtain rfl : node = folded := Except.ok.inj ((fold_static kind).symm.trans found)
          rw [place_static kind] at foundOthers ⊢
          have later := foldSiblings_mergeSiblings rest foundOthers (.inr rfl)
            (show allStatic (node :: run) = true by simp [allStatic, kind, static])
          rw [mergeSiblings_static kind]
          rcases apart with rfl | rfl
          · have ended := foldSiblings_filled_run (mergeBranches unfinished)
              (List.cons_ne_nil node []) rest
            rw [mergeBranches] at later
            rw [ended, later, List.append_assoc,
              mergeSiblings_dynamic_append (allDynamic_chainOf unfinished)]
            simp [mergeSiblings_static kind]
          · simpa [chainOf, mergeSiblings_static kind] using later
      | false =>
          have dynamic : isStatic folded = false := by rw [isStatic_fold found, kind]
          obtain ⟨starts, goesOn⟩ := place_starts unfinished folded (.inr dynamic)
          have leads : startsDynamic ((place unfinished folded).1 ++ others) = true :=
            startsDynamic_append starts fun nothing =>
              startsDynamic_foldSiblings (goesOn nothing) foundOthers
          have here := fold_mergeStatic_lenient node found
          have later := foldSiblings_mergeSiblings rest foundOthers (.inl rfl) rfl
          rw [mergeSiblings_startsDynamic leads, mergeSiblings_dynamic kind,
            mergeSiblings_dynamic_append (allDynamic_place unfinished dynamic)]
          have placed : foldSiblings false (mergeBranches unfinished)
              (mergeStatic node :: mergeSiblings [] rest) =
                .ok ((place unfinished folded).1.map mergeStatic ++ mergeSiblings [] others) := by
            simp [foldSiblings_cons, here, place_mergeStatic, later]
          rcases apart with rfl | rfl
          · exact placed
          · rw [mergeBranches] at placed ⊢
            rw [foldSiblings_staticBlockOf static, placed]
            rfl
termination_by structural nodes => nodes

/-- Folding branches commutes with merging them. -/
theorem foldBranches_mergeBranches : ∀ (branches : List (Branch Node))
    {folded : List (Branch Node)}, foldBranches false branches = .ok folded →
    foldBranches false (mergeBranches branches) = .ok (mergeBranches folded)
  | [], folded, success => by
      obtain rfl := Except.ok.inj success
      rfl
  | branch :: rest, folded, success => by
      obtain ⟨body, found, success⟩ := Result.bind_eq_ok success
      obtain ⟨others, foundOthers, success⟩ := Result.bind_eq_ok success
      obtain rfl := Except.ok.inj success
      have inside := foldSiblings_mergeSiblings branch.body found (.inl rfl) rfl
      rw [mergeBranches] at inside
      simp [foldBranches, mergeBranches, inside, foldBranches_mergeBranches rest foundOthers]
termination_by structural branches => branches

end

/-- Folding after merging is merging after folding. -/
theorem fold_mergeStatic {strict : Bool} {node folded : Node}
    (success : fold strict node = .ok folded) :
    fold strict (mergeStatic node) = .ok (mergeStatic folded) := by
  cases strict with
  | false => exact fold_mergeStatic_lenient node success
  | true =>
      obtain ⟨leniently, clean⟩ := fold_strict_ok success
      have stillClean : looseBranches (mergeStatic folded) = [] := by
        rw [← List.length_eq_zero_iff, looseBranches_mergeStatic, clean]
        rfl
      rw [fold_strict, fold_mergeStatic_lenient node leniently, Result.ok_bind, stillClean,
        unlessLoose_nil]

/-- The passes that a template goes through after it is built. -/
inductive Pass where
  | folding
  | merging
  deriving DecidableEq, Repr

def Pass.run (options : Options) : Pass → Node → Except Diagnostic Node
  | .folding, node => fold options.strict node
  | .merging, node => return mergeStatic node

/-- Makes passes one after another, up to the first that fails. -/
def runPasses (options : Options) (passes : List Pass) (node : Node) : Except Diagnostic Node :=
  passes.foldlM (fun state pass => pass.run options state) node

/-- Passes run one after the other. -/
theorem runPasses_cons (options : Options) (pass : Pass) (rest : List Pass) (node : Node) :
    runPasses options (pass :: rest) node = pass.run options node >>= runPasses options rest := rfl

/-- What passes lead to depends only on which of them are made. -/
theorem runPasses_of_fold {options : Options} (passes : List Pass) {node folded : Node}
    (success : fold options.strict node = .ok folded) :
    runPasses options passes node = .ok
      (let template := if .folding ∈ passes then folded else node
       if .merging ∈ passes then mergeStatic template else template) := by
  induction passes generalizing node folded with
  | nil => simp [runPasses]
  | cons pass rest inductionHypothesis =>
      cases pass with
      | folding =>
          have later := inductionHypothesis (fold_folded success)
          rw [runPasses_cons, Pass.run, success, Result.ok_bind, later]
          simp
      | merging =>
          have later := inductionHypothesis (fold_mergeStatic success)
          rw [runPasses_cons, Pass.run, Result.pure_eq_ok, Result.ok_bind, later]
          split <;> simp [*, mergeStatic_mergeStatic]

/-- Folding and merging passes lead to one template, however often they run. -/
theorem runPasses_eq_mergeStatic_fold (options : Options) (node : Node) (passes : List Pass)
    (folds : .folding ∈ passes) (merges : .merging ∈ passes)
    (foldable : options.strict = true → ∃ folded, fold true node = .ok folded) :
    ∃ folded, fold options.strict node = .ok folded ∧
      runPasses options passes node = .ok (mergeStatic folded) := by
  have success : ∃ folded, fold options.strict node = .ok folded := by
    cases mode : options.strict with
    | false => exact fold_lenient node
    | true => exact foldable mode
  obtain ⟨folded, found⟩ := success
  exact ⟨folded, found, by simp [runPasses_of_fold passes found, folds, merges]⟩

/-- A conditional of two branches between texts. -/
def conditionalBetweenTexts : Node :=
  .root
    [.text "a" .stub, .branch ⟨.ifCase, some "x", [.text "b" .stub, .text "c" .stub], .stub⟩,
     .branch ⟨.elseCase, none, [], .stub⟩, .text "d" .stub, .text "e" .stub] .stub

/-- Four passes over a conditional between texts give one template. -/
theorem runPasses_conditionalBetweenTexts :
    (∃ folded, fold true conditionalBetweenTexts = .ok folded) ∧
    ∃ folded, fold true conditionalBetweenTexts = .ok folded ∧
      runPasses {} [.merging, .folding, .merging, .folding] conditionalBetweenTexts =
        .ok (mergeStatic folded) :=
  ⟨⟨_, rfl⟩, runPasses_eq_mergeStatic_fold {} conditionalBetweenTexts
    [.merging, .folding, .merging, .folding] (by decide) (by decide) fun _ => ⟨_, rfl⟩⟩

end HtmlTemplate.Template
