/-
This file relates strict and lenient modules. Lowering leniently never fails and notes every stray branch
that it meets, and lowering strictly is lowering leniently and then refusing the first of them.
-/

import HtmlTemplate.Proofs.Script.Blocks
import HtmlTemplate.Proofs.Script.Static
import HtmlTemplate.Template.Chain

namespace HtmlTemplate.Script

open Template

mutual

/-- The branches outside of chains that lowering meets, in document order. -/
def strayBranches : Node → List (Branch Node)
  | .root children _ => allStrayBranches children
  | .doctype _ _ => []
  | .text _ _ => []
  | .interpolated _ _ => []
  | .element _ _ children _ => allStrayBranches children
  | .loop _ _ body _ => allStrayBranches body
  | .branch branch => [branch]
  | .chain branches _ => armStrayBranches branches
  | .staticBlock _ _ => []

def allStrayBranches : List Node → List (Branch Node)
  | [] => []
  | node :: rest => strayBranches node ++ allStrayBranches rest

def armStrayBranches : List (Branch Node) → List (Branch Node)
  | [] => []
  | branch :: rest => allStrayBranches branch.body ++ armStrayBranches rest

end

mutual

/-- Lowering leniently never fails, and its diagnostics are those of the stray branches. -/
theorem lower_lenient (options : Options) (lenient : options.strict = false) :
    ∀ node : Node, ∃ statements,
      lower options node = .ok ⟨statements, (strayBranches node).map strayDiagnostic⟩
  | .root children location => by
      obtain ⟨statements, found⟩ := lowerAll_lenient options lenient children
      exact ⟨statements, by rw [lower, found, strayBranches]⟩
  | .doctype doctype location => ⟨_, rfl⟩
  | .text content location => ⟨_, rfl⟩
  | .interpolated parts location => ⟨_, rfl⟩
  | .element tag attributes children location => by
      obtain ⟨statements, found⟩ := lowerAll_lenient options lenient children
      exact ⟨_, by rw [lower, found]; rfl⟩
  | .loop iterator source body location => by
      obtain ⟨statements, found⟩ := lowerAll_lenient options lenient body
      exact ⟨_, by rw [lower, found]; rfl⟩
  | .branch branch => ⟨_, by rw [lower, lenient]; rfl⟩
  | .chain branches location => by
      obtain ⟨arms, found⟩ := lowerBranches_lenient options lenient true branches
      exact ⟨_, by rw [lower, found]; rfl⟩
  | .staticBlock children html => ⟨_, rfl⟩

/-- Siblings are lowered leniently with the notes of their stray branches. -/
theorem lowerAll_lenient (options : Options) (lenient : options.strict = false) :
    ∀ nodes : List Node, ∃ statements,
      lowerAll options nodes = .ok ⟨statements, (allStrayBranches nodes).map strayDiagnostic⟩
  | [] => ⟨[], rfl⟩
  | node :: rest => by
      obtain ⟨first, found⟩ := lower_lenient options lenient node
      obtain ⟨others, foundOthers⟩ := lowerAll_lenient options lenient rest
      refine ⟨first ++ others, ?_⟩
      rw [lowerAll, found, foundOthers, allStrayBranches, List.map_append]
      rfl

/-- Branches are lowered leniently with the notes of their stray branches. -/
theorem lowerBranches_lenient (options : Options) (lenient : options.strict = false) :
    ∀ (isFirst : Bool) (branches : List (Branch Node)), ∃ arms,
      lowerBranches options isFirst branches =
        .ok ⟨arms, (armStrayBranches branches).map strayDiagnostic⟩
  | _, [] => ⟨[], rfl⟩
  | isFirst, branch :: rest => by
      obtain ⟨statements, found⟩ := lowerAll_lenient options lenient branch.body
      obtain ⟨arms, foundOthers⟩ := lowerBranches_lenient options lenient false rest
      refine ⟨⟨clauseOf isFirst branch, joinLiterals "" statements⟩ :: arms, ?_⟩
      rw [lowerBranches, found, foundOthers, armStrayBranches, List.map_append]
      rfl

end

/-- What was lowered, unless a diagnostic was noted. The first of them is refused. -/
def Lowered.refuse {α : Type} (lowered : Lowered α) : Except Diagnostic (Lowered α) :=
  match lowered.diagnostics with
  | [] => .ok lowered
  | fault :: _ => .error fault

@[simp] theorem Lowered.refuse_plain {α : Type} (output : α) :
    (Lowered.plain output).refuse = .ok (.plain output) := rfl

/-- Refusing goes before building. -/
theorem Lowered.refuse_map {α β : Type} (build : α → β) (lowered : Lowered α) :
    (lowered.refuse >>= fun kept => .ok (kept.map build)) = (lowered.map build).refuse := by
  rcases lowered with ⟨output, diagnostics⟩
  cases diagnostics <;> rfl

/-- Of two results, the first is refused first. -/
theorem Lowered.refuse_combine {α β γ : Type} (build : α → β → γ) (first : Lowered α)
    (second : Lowered β) :
    (do return Lowered.combine build (← first.refuse) (← second.refuse)) =
      (Lowered.combine build first second).refuse := by
  rcases first with ⟨before, diagnostics⟩
  rcases second with ⟨after, others⟩
  cases diagnostics <;> cases others <;> rfl

mutual

/-- Lowering strictly is lowering leniently and refusing the first stray branch. -/
theorem lower_strict (options : Options) (strict : options.strict = true) :
    ∀ node : Node, lower options node = (do
      let lowered ← lower { options with strict := false } node
      lowered.refuse)
  | .root children location => by
      simp only [lower, lowerAll_strict options strict children]
  | .doctype doctype location => rfl
  | .text content location => rfl
  | .interpolated parts location => rfl
  | .element tag attributes children location => by
      simp only [lower, lowerAll_strict options strict children]
      simp [Lowered.refuse_map]
  | .loop iterator source body location => by
      simp only [lower, lowerAll_strict options strict body]
      simp [Lowered.refuse_map]
  | .branch branch => by
      rw [lower, lower, strict]
      rfl
  | .chain branches location => by
      simp only [lower, lowerBranches_strict options strict true branches]
      simp [Lowered.refuse_map]
  | .staticBlock children html => rfl

/-- Siblings are lowered strictly by refusing the lenient result. -/
theorem lowerAll_strict (options : Options) (strict : options.strict = true) :
    ∀ nodes : List Node, lowerAll options nodes = (do
      let lowered ← lowerAll { options with strict := false } nodes
      lowered.refuse)
  | [] => rfl
  | node :: rest => by
      obtain ⟨first, found⟩ := lower_lenient { options with strict := false } rfl node
      obtain ⟨others, foundOthers⟩ := lowerAll_lenient { options with strict := false } rfl rest
      rw [lowerAll, lower_strict options strict node, lowerAll_strict options strict rest, lowerAll,
        found, foundOthers]
      exact Lowered.refuse_combine _ _ _

/-- Branches are lowered strictly by refusing the lenient result. -/
theorem lowerBranches_strict (options : Options) (strict : options.strict = true) :
    ∀ (isFirst : Bool) (branches : List (Branch Node)),
      lowerBranches options isFirst branches = (do
        let lowered ← lowerBranches { options with strict := false } isFirst branches
        lowered.refuse)
  | _, [] => rfl
  | isFirst, branch :: rest => by
      obtain ⟨body, found⟩ := lowerAll_lenient { options with strict := false } rfl branch.body
      obtain ⟨arms, foundOthers⟩ :=
        lowerBranches_lenient { options with strict := false } rfl false rest
      rw [lowerBranches, lowerAll_strict options strict branch.body,
        lowerBranches_strict options strict false rest, lowerBranches, found, foundOthers]
      exact Lowered.refuse_combine _ _ _

end

mutual

/-- A stray branch stands in a child list. -/
theorem strayBranches_subset :
    ∀ node : Node, strayBranches node ⊆ siblingLooseBranches [node]
  | .root children location => by
      simpa [strayBranches, siblingLooseBranches, looseBranches] using
        allStrayBranches_subset children
  | .doctype doctype location => by simp [strayBranches]
  | .text content location => by simp [strayBranches]
  | .interpolated parts location => by simp [strayBranches]
  | .element tag attributes children location => by
      simpa [strayBranches, siblingLooseBranches, looseBranches] using
        allStrayBranches_subset children
  | .loop iterator source body location => by
      simpa [strayBranches, siblingLooseBranches, looseBranches] using allStrayBranches_subset body
  | .branch branch => by simp [strayBranches, siblingLooseBranches]
  | .chain branches location => by
      simpa [strayBranches, siblingLooseBranches, looseBranches] using
        armStrayBranches_subset branches
  | .staticBlock children html => by simp [strayBranches]

/-- Stray branches of siblings are loose branches. -/
theorem allStrayBranches_subset :
    ∀ nodes : List Node, allStrayBranches nodes ⊆ siblingLooseBranches nodes
  | [] => by simp [allStrayBranches]
  | node :: rest => by
      have first := strayBranches_subset node
      have others := allStrayBranches_subset rest
      intro branch member
      rw [allStrayBranches, List.mem_append] at member
      rcases member with here | later
      · have found := first here
        simp only [siblingLooseBranches, List.append_nil] at found
        exact List.mem_append_left _ found
      · exact List.mem_append_right _ (others later)

/-- Stray branches inside of arms are loose branches. -/
theorem armStrayBranches_subset :
    ∀ branches : List (Branch Node), armStrayBranches branches ⊆ branchLooseBranches branches
  | [] => by simp [armStrayBranches]
  | branch :: rest => by
      have first := allStrayBranches_subset branch.body
      have others := armStrayBranches_subset rest
      intro found member
      rw [armStrayBranches, List.mem_append] at member
      rcases member with here | later
      · exact List.mem_append_left _ (first here)
      · exact List.mem_append_right _ (others later)

end

/-- A document in which every branch has a chain has no stray branch. -/
theorem strayBranches_root {children : List Node} {location : Location}
    (clean : looseBranches (.root children location) = []) :
    strayBranches (.root children location) = [] := by
  rw [looseBranches] at clean
  rw [strayBranches]
  exact List.subset_nil.mp (clean ▸ allStrayBranches_subset children)

/-- The layout of a module does not depend on strictness. -/
theorem writeModule_strict (options : Options) (strict : Bool) (name : String)
    (block : List Statement) :
    writeModule { options with strict := strict } name block = writeModule options name block := by
  rw [writeModule, writeModule, writeBlock_eq_writeLines, writeBlock_eq_writeLines]
  rfl

/-- Lenient generation succeeds and notes the stray branches. -/
theorem generate_lenient (options : Options) (lenient : options.strict = false) (name : String)
    (template : Node) : ∃ code, generate options name template =
      .ok ⟨code, (strayBranches template).map strayDiagnostic⟩ := by
  obtain ⟨statements, found⟩ := lower_lenient options lenient template
  rw [generate_eq_writeModule, blockOf, found]
  exact ⟨_, rfl⟩

/-- The module, unless a diagnostic was noted. The first of them is refused. -/
def Generated.refuse (generated : Generated) : Except Diagnostic Generated :=
  match generated.diagnostics with
  | [] => .ok generated
  | fault :: _ => .error fault

/-- Generating strictly is generating leniently and refusing the first stray branch. -/
theorem generate_strict (options : Options) (name : String) (template : Node) :
    generate { options with strict := true } name template = (do
      let lenient ← generate { options with strict := false } name template
      lenient.refuse) := by
  obtain ⟨statements, found⟩ := lower_lenient { options with strict := false } rfl template
  rw [generate_eq_writeModule, generate_eq_writeModule, blockOf, blockOf,
    lower_strict { options with strict := true } rfl template, found]
  simp only [Result.ok_bind, Lowered.refuse]
  cases strayBranches template with
  | nil => simp [Lowered.map, Generated.refuse, writeModule_strict]
  | cons branch rest => rfl

/-- Without stray branches, strictness makes no difference. -/
theorem generate_without_strays (options : Options) (name : String) (template : Node)
    (clean : strayBranches template = []) :
    ∃ code, ∀ strict,
      generate { options with strict := strict } name template = .ok ⟨code, []⟩ := by
  obtain ⟨code, leniently⟩ := generate_lenient { options with strict := false } rfl name template
  rw [clean, List.map_nil] at leniently
  refine ⟨code, ?_⟩
  intro strict
  cases strict with
  | false => exact leniently
  | true =>
      rw [generate_strict, leniently]
      rfl

end HtmlTemplate.Script
