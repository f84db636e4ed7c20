/-
This file says what gathering siblings into chains does. Nothing is lost, every chain holds an if branch with the
longest run of siblings behind it that continues it, and a branch outside of chains follows no chain that is still
open.
-/

import Mathlib.Data.List.Induction
import HtmlTemplate.Proofs.Template.Refolding
import HtmlTemplate.Proofs.Template.Traversal

namespace HtmlTemplate.Template

/-- A chain stands for its branches, and any other node for itself. -/
def Node.spread : Node → List Node
  | .chain branches _ => branches.map .branch
  | other => [other]

def spreadAll (nodes : List Node) : List Node := nodes.flatMap Node.spread

@[simp] theorem spreadAll_nil : spreadAll [] = [] := rfl

@[simp] theorem spreadAll_cons (node : Node) (rest : List Node) :
    spreadAll (node :: rest) = node.spread ++ spreadAll rest :=
  List.flatMap_cons

@[simp] theorem spreadAll_append (first second : List Node) :
    spreadAll (first ++ second) = spreadAll first ++ spreadAll second :=
  List.flatMap_append

@[simp] theorem spreadAll_chainOf (branches : List (Branch Node)) :
    spreadAll (chainOf branches) = branches.map .branch := by
  cases branches <;> simp [chainOf, Node.spread]

/-- Anything but a chain stands for itself. -/
theorem Node.spread_of_not_isChain {node : Node} (single : node.isChain = false) :
    node.spread = [node] := by
  cases node with
  | chain => contradiction
  | _ => rfl

/-- Siblings without chains stand for themselves. -/
theorem spreadAll_of_noChains {nodes : List Node} (plain : NoChains nodes) :
    spreadAll nodes = nodes := by
  induction nodes with
  | nil => rfl
  | cons node rest inductionHypothesis =>
      obtain ⟨here, later⟩ := List.forall_mem_cons.mp plain
      rw [spreadAll_cons, Node.spread_of_not_isChain here, inductionHypothesis later]
      rfl

/-- Placing a sibling keeps all siblings in their order. -/
theorem spreadAll_place (unfinished : List (Branch Node)) (node : Node) :
    spreadAll (place unfinished node).1 ++ (place unfinished node).2.map .branch =
      unfinished.map .branch ++ node.spread := by
  cases node with
  | branch branch =>
      rcases branch with ⟨kind, condition, body, location⟩
      cases kind <;> cases unfinished <;> simp [place, Node.spread]
  | _ => simp [place]

/-- Gathering loses nothing. -/
theorem spreadAll_gather (unfinished : List (Branch Node)) (nodes : List Node) :
    spreadAll (gather unfinished nodes) = unfinished.map .branch ++ spreadAll nodes := by
  induction nodes generalizing unfinished with
  | nil => simp [gather]
  | cons node rest inductionHypothesis =>
      rw [gather, spreadAll_append, inductionHypothesis, ← List.append_assoc, spreadAll_place,
        List.append_assoc, spreadAll_cons]

/-- The kind of a sibling that is a branch. -/
def Node.kind? (node : Node) : Option BranchKind := node.branch?.map (·.kind)

@[simp] theorem Node.kind?_branch (branch : Branch Node) :
    (Node.branch branch).kind? = some branch.kind := rfl

/-- Siblings that are else-if branches, with at most one else branch at the end. -/
def Continues (siblings : List Node) : Prop :=
  ∃ count last, siblings.map Node.kind? = List.replicate count (some .elseIfCase) ++ last ∧
    (last = [] ∨ last = [some .elseCase])

/-- Siblings that end with an if branch and else-if branches behind it. -/
def EndsOpen (siblings : List Node) : Prop :=
  ∃ earlier count, siblings.map Node.kind? =
    earlier ++ some .ifCase :: List.replicate count (some .elseIfCase)

/-- The longest run of siblings that continues an if branch before them. -/
structure IsLongestRun (run siblings : List Node) : Prop where
  front : run <+: siblings
  continues : Continues run
  longest : ∀ other, other <+: siblings → Continues other → other.length ≤ run.length

section Runs

variable {node : Node} {rest run : List Node}

theorem continues_nil : Continues [] := ⟨0, [], rfl, .inl rfl⟩

/-- A run that continues starts with else-if, or is an else alone. -/
theorem continues_cons :
    Continues (node :: rest) ↔
      node.kind? = some .elseIfCase ∧ Continues rest ∨ node.kind? = some .elseCase ∧ rest = [] := by
  constructor
  · rintro ⟨count, last, kinds, isLast⟩
    cases count with
    | zero => rcases isLast with rfl | rfl <;> simp_all
    | succ count =>
        rw [List.map_cons, List.replicate_succ, List.cons_append] at kinds
        obtain ⟨here, later⟩ := List.cons.inj kinds
        exact .inl ⟨here, count, last, later, isLast⟩
  · rintro (⟨here, count, last, later, isLast⟩ | ⟨here, rfl⟩)
    · exact ⟨count + 1, last, by rw [List.map_cons, here, later]; rfl, isLast⟩
    · exact ⟨0, [some .elseCase], by simp [here], .inr rfl⟩

/-- A run without an else branch goes on with a branch. -/
theorem Continues.concat (continues : Continues run)
    (unended : (run.map Node.kind?).getLast? ≠ some (some .elseCase))
    (next : node.kind? = some .elseIfCase ∨ node.kind? = some .elseCase) :
    Continues (run ++ [node]) := by
  obtain ⟨count, last, kinds, rfl | rfl⟩ := continues
  · rw [List.append_nil] at kinds
    rcases next with here | here
    · refine ⟨count + 1, [], ?_, .inl rfl⟩
      simp [kinds, here, List.replicate_succ']
    · exact ⟨count, [some .elseCase], by simp [kinds, here], .inr rfl⟩
  · simp [kinds] at unended

/-- What ends open ends with an if or an else-if branch. -/
theorem EndsOpen.of_concat (endsOpen : EndsOpen (rest ++ [node])) :
    node.kind? = some .ifCase ∨ node.kind? = some .elseIfCase ∧ EndsOpen rest := by
  obtain ⟨earlier, count, kinds⟩ := endsOpen
  rw [List.map_append, List.map_singleton] at kinds
  cases count with
  | zero => exact .inl (List.singleton_inj.mp (List.append_inj' kinds rfl).2)
  | succ count =>
      have longer : earlier ++ some .ifCase :: List.replicate (count + 1) (some .elseIfCase) =
          (earlier ++ some .ifCase :: List.replicate count (some .elseIfCase)) ++
            [some .elseIfCase] := by
        simp [List.replicate_succ']
      obtain ⟨before, last⟩ := List.append_inj' (kinds.trans longer) rfl
      exact .inr ⟨List.singleton_inj.mp last, earlier, count, before⟩

/-- Siblings that end with an else branch are not open. -/
theorem EndsOpen.getLast? (endsOpen : EndsOpen rest) :
    (rest.map Node.kind?).getLast? ≠ some (some .elseCase) := by
  induction rest using List.reverseRecOn with
  | nil => simp
  | append_singleton before last _ =>
      rcases endsOpen.of_concat with isIf | ⟨isElseIf, _⟩
      · simp [isIf]
      · simp [isElseIf]

/-- The empty run is the longest if nothing continues. -/
theorem isLongestRun_nil (blocked : ∀ next ∈ rest.head?, ¬ Continues [next]) :
    IsLongestRun [] rest where
  front := List.nil_prefix
  continues := continues_nil
  longest := by
    rintro (_ | ⟨next, more⟩) ⟨later, rfl⟩ continues
    · exact Nat.le_refl 0
    · refine absurd ?_ (blocked next rfl)
      rcases continues_cons.mp continues with ⟨isElseIf, _⟩ | ⟨isElse, _⟩
      · exact continues_cons.mpr (.inl ⟨isElseIf, continues_nil⟩)
      · exact continues_cons.mpr (.inr ⟨isElse, rfl⟩)

/-- An else-if branch before the longest run makes it longer. -/
theorem IsLongestRun.cons (isLongest : IsLongestRun run rest)
    (isElseIf : node.kind? = some .elseIfCase) : IsLongestRun (node :: run) (node :: rest) where
  front := List.cons_prefix_cons.mpr ⟨rfl, isLongest.front⟩
  continues := continues_cons.mpr (.inl ⟨isElseIf, isLongest.continues⟩)
  longest := by
    rintro (_ | ⟨next, more⟩) front continues
    · exact Nat.zero_le _
    · obtain ⟨rfl, later⟩ := List.cons_prefix_cons.mp front
      rcases continues_cons.mp continues with ⟨_, goesOn⟩ | ⟨_, rfl⟩
      · exact Nat.succ_le_succ (isLongest.longest more later goesOn)
      · exact Nat.succ_le_succ (Nat.zero_le _)

/-- An else branch alone is a longest run. -/
theorem isLongestRun_singleton (isElse : node.kind? = some .elseCase) :
    IsLongestRun [node] (node :: rest) where
  front := List.cons_prefix_cons.mpr ⟨rfl, List.nil_prefix⟩
  continues := continues_cons.mpr (.inr ⟨isElse, rfl⟩)
  longest := by
    rintro (_ | ⟨next, more⟩) front continues
    · exact Nat.zero_le _
    · obtain ⟨rfl, _⟩ := List.cons_prefix_cons.mp front
      rcases continues_cons.mp continues with ⟨isElseIf, _⟩ | ⟨_, rfl⟩
      · rw [isElse] at isElseIf
        contradiction
      · exact Nat.le_refl 1

end Runs

/-- An unfinished chain takes the longest run that continues it. -/
theorem exists_gather_unfinished {unfinished : List (Branch Node)} (begun : unfinished ≠ [])
    (nodes : List Node) :
    ∃ run rest, nodes = run.map .branch ++ rest ∧
      gather unfinished nodes = chainOf (unfinished ++ run) ++ gather [] rest ∧
      IsLongestRun (run.map .branch) nodes := by
  obtain ⟨first, more, rfl⟩ := List.exists_cons_of_ne_nil begun
  induction nodes generalizing more with
  | nil => exact ⟨[], [], rfl, by simp [gather, chainOf], isLongestRun_nil (by simp)⟩
  | cons node rest inductionHypothesis =>
      cases node with
      | branch branch =>
          cases kind : branch.kind with
          -- An if branch ends the chain and starts the next one, which gathering anew does too.
          | ifCase =>
              refine ⟨[], _, rfl, ?_, isLongestRun_nil ?_⟩
              · simp [gather, place, kind, chainOf]
              · simp [continues_cons, kind]
          | elseIfCase =>
              obtain ⟨run, behind, rfl, gathered, isLongest⟩ :=
                inductionHypothesis (more ++ [branch]) (by simp)
              refine ⟨branch :: run, behind, rfl, ?_, isLongest.cons (by simp [kind])⟩
              simpa [gather, place, kind] using gathered
          | elseCase =>
              refine ⟨[branch], rest, rfl, ?_, isLongestRun_singleton (by simp [kind])⟩
              simp [gather, place, kind, chainOf]
      | _ =>
          refine ⟨[], _, rfl, ?_, isLongestRun_nil ?_⟩
          · simp [gather, place, chainOf]
          · simp [continues_cons, Node.kind?, Node.branch?]

/-- What a node among gathered siblings is, where `later` are the siblings behind it. -/
def Node.IsPiece (later : List Node) : Node → Prop
  | .chain branches location =>
      ∃ first run, branches = first :: run ∧ location = first.location ∧ first.kind = .ifCase ∧
        IsLongestRun (run.map .branch) (run.map .branch ++ later)
  | .branch marked => marked.kind ≠ .ifCase
  | _ => True

/-- A sibling that starts no chain is a piece of its own. -/
theorem isPiece_of_not_startsChain {node : Node} (single : node.isChain = false)
    (ordinary : startsChain node = false) (later : List Node) : node.IsPiece later := by
  cases node with
  | chain => contradiction
  | branch branch => simpa [startsChain, Node.IsPiece] using ordinary
  | _ => trivial

/-- Siblings are gathered piece by piece. -/
theorem gather_eq_cons {nodes others : List Node} {piece : Node} (plain : NoChains nodes)
    (gathered : gather [] nodes = piece :: others) :
    ∃ rest, nodes = piece.spread ++ rest ∧ others = gather [] rest ∧ piece.IsPiece rest := by
  cases nodes with
  | nil => contradiction
  | cons node rest =>
      cases starts : startsChain node with
      | false =>
          have kept : gather [] (node :: rest) = node :: gather [] rest := by
            rw [gather, place_of_not_startsChain starts]
            rfl
          obtain ⟨rfl, rfl⟩ := List.cons.inj (kept.symm.trans gathered)
          have alone := plain node List.mem_cons_self
          exact ⟨rest, by rw [Node.spread_of_not_isChain alone]; rfl, rfl,
            isPiece_of_not_startsChain alone starts rest⟩
      | true =>
          cases node with
          | branch branch =>
              have kind : branch.kind = .ifCase := by simpa [startsChain] using starts
              obtain ⟨run, behind, rfl, whole, isLongest⟩ :=
                exists_gather_unfinished (List.cons_ne_nil branch []) rest
              have opened : gather [] (.branch branch :: (run.map .branch ++ behind)) =
                  .chain (branch :: run) branch.location :: gather [] behind := by
                simpa [gather, place, kind, chainOf] using whole
              obtain ⟨rfl, rfl⟩ := List.cons.inj (opened.symm.trans gathered)
              exact ⟨behind, rfl, rfl, branch, run, rfl, rfl, kind, isLongest⟩
          | _ => contradiction

/-- Siblings as gathering leaves them. -/
def AreGathered (siblings : List Node) : Prop :=
  ∀ before piece after, siblings = before ++ piece :: after → piece.IsPiece (spreadAll after)

/-- Gathering siblings without chains gathers them. -/
theorem areGathered_gather {nodes : List Node} (plain : NoChains nodes) :
    AreGathered (gather [] nodes) := by
  intro before piece after split
  induction before generalizing nodes with
  | nil =>
      obtain ⟨rest, rfl, rfl, isPiece⟩ := gather_eq_cons plain split
      have later := (List.forall_mem_append.mp plain).2
      rwa [spreadAll_gather, spreadAll_of_noChains later]
  | cons first before inductionHypothesis =>
      obtain ⟨rest, rfl, gathered, _⟩ := gather_eq_cons plain split
      exact inductionHypothesis (List.forall_mem_append.mp plain).2 gathered.symm

/-- A branch directly behind a chain comes after its else branch. -/
theorem IsLongestRun.not_endsOpen {first branch : Branch Node} {run : List (Branch Node)}
    {before after : List Node} (notIf : branch.kind ≠ .ifCase)
    (isLongest : IsLongestRun (run.map .branch) (run.map .branch ++ .branch branch :: after)) :
    ¬ EndsOpen (before ++ .branch first :: run.map .branch) := by
  intro endsOpen
  have next : (Node.branch branch).kind? = some .elseIfCase ∨
      (Node.branch branch).kind? = some .elseCase := by
    cases kind : branch.kind <;> simp_all
  have unended : ((run.map Node.branch).map Node.kind?).getLast? ≠ some (some .elseCase) := by
    intro ended
    apply endsOpen.getLast?
    rw [← List.singleton_append, ← List.append_assoc, List.map_append, List.getLast?_append, ended]
    rfl
  have tooLong := isLongest.longest (run.map .branch ++ [.branch branch])
    ⟨after, by simp⟩ (isLongest.continues.concat unended next)
  rw [List.length_append, List.length_singleton] at tooLong
  omega

/-- A branch outside of chains does not follow an open chain. -/
theorem AreGathered.not_endsOpen {siblings : List Node} (gathered : AreGathered siblings)
    {before after : List Node} {branch : Branch Node}
    (split : siblings = before ++ .branch branch :: after) : ¬ EndsOpen (spreadAll before) := by
  induction before using List.reverseRecOn generalizing branch after with
  | nil =>
      rintro ⟨earlier, count, kinds⟩
      simp at kinds
  | append_singleton before last inductionHypothesis =>
      have notIf : branch.kind ≠ .ifCase := gathered _ _ _ split
      rw [List.append_assoc, List.singleton_append] at split
      have piece := gathered _ _ _ split
      rw [spreadAll_append, spreadAll_cons, spreadAll_nil, List.append_nil]
      cases last with
      | chain branches location =>
          obtain ⟨first, run, rfl, -, -, isLongest⟩ := piece
          exact isLongest.not_endsOpen notIf
      | branch orphan =>
          intro endsOpen
          rcases endsOpen.of_concat with isIf | ⟨_, earlier⟩
          · exact piece (Option.some.inj isIf)
          · exact inductionHypothesis split earlier
      | _ =>
          intro endsOpen
          rcases endsOpen.of_concat with isIf | ⟨isElseIf, _⟩ <;> contradiction

end HtmlTemplate.Template
