/-
This file executes the statements of render functions with the evaluation of previews, and shows that
the module of a template does what the preview of the template does.
-/

import HtmlTemplate.Preview.Render
import HtmlTemplate.Proofs.Script.Blocks
import HtmlTemplate.Proofs.Script.Emitter
import HtmlTemplate.Proofs.Text.Quoted

namespace HtmlTemplate.Script

open Data Preview Template

/-- Whether an arm is taken, once those before it are not. -/
def Clause.isTaken (context : Context) : Clause → Except RenderError Bool
  | .ifTrue condition => do return (← evaluate context condition).isTruthy
  | .elseIf condition => do return (← evaluate context condition).isTruthy
  | .otherwise => .ok true

mutual

/-- The texts that a statement pushes when it is run. -/
def Statement.run (context : Context) : Statement → Except RenderError (List String)
  | .literal html => .ok [html]
  | .escaped expression => do return [context.escaping.apply (← evaluate context expression)]
  | .loop iterator source block => do
      let items ← loopItems context source
      return (← items.mapM fun item => runBlock (context.bind iterator item) block).flatten
  | .conditional arms => runArms context arms
  | .marker _ => .ok []

/-- The texts that a block pushes, in order. -/
def runBlock (context : Context) : List Statement → Except RenderError (List String)
  | [] => .ok []
  | statement :: rest => do return (← statement.run context) ++ (← runBlock context rest)

/-- Runs the first arm that is taken. -/
def runArms (context : Context) : List (Arm Statement) → Except RenderError (List String)
  | [] => .ok []
  | arm :: rest => do
      if ← arm.clause.isTaken context then runBlock context arm.block else runArms context rest

end

/-- What a block returns: all texts that it pushes, joined. -/
def execute (context : Context) (block : List Statement) : Except RenderError String := do
  return String.join (← runBlock context block)

/-- Statements in a row push their texts in a row. -/
theorem runBlock_append (context : Context) (first second : List Statement) :
    runBlock context (first ++ second) =
      (do return (← runBlock context first) ++ (← runBlock context second)) := by
  induction first with
  | nil => simp [runBlock]
  | cons statement rest inductionHypothesis =>
      simp [runBlock, inductionHypothesis, List.append_assoc]

@[simp] theorem execute_nil (context : Context) : execute context [] = .ok "" := by
  simp [execute, runBlock]

/-- Statements in a row return their texts in a row. -/
theorem execute_append (context : Context) (first second : List Statement) :
    execute context (first ++ second) =
      (do return (← execute context first) ++ (← execute context second)) := by
  simp [execute, runBlock_append]

/-- The first statement is executed before the others. -/
theorem execute_cons (context : Context) (statement : Statement) (rest : List Statement) :
    execute context (statement :: rest) =
      (do return (← execute context [statement]) ++ (← execute context rest)) :=
  execute_append context [statement] rest

@[simp] theorem execute_literal (context : Context) (html : String) :
    execute context [.literal html] = .ok html := by
  simp [execute, runBlock, Statement.run]

/-- A literal returns its markup, empty or not. -/
theorem execute_literalStatement (context : Context) (html : String) :
    execute context (literalStatement html) = .ok html := by
  by_cases empty : html = ""
  · simp [empty]
  · simp [literalStatement_of_ne empty]

/-- Joining literals does not change what statements return. -/
theorem execute_joinLiterals (context : Context) (pending : String)
    (statements : List Statement) :
    execute context (joinLiterals pending statements) =
      (do return pending ++ (← execute context statements)) := by
  induction statements generalizing pending with
  | nil => simp [joinLiterals, execute_literalStatement]
  | cons statement rest inductionHypothesis =>
      rw [execute_cons context statement rest]
      rcases statement.literal_or_other with ⟨html, rfl⟩ | other
      · simp [joinLiterals, inductionHypothesis, String.append_assoc]
      · rw [joinLiterals_cons _ _ other, execute_append, execute_cons, inductionHypothesis,
          execute_literalStatement]
        simp

/-- Running a loop over items returns what rendering them one after another does. -/
theorem join_mapM_flatten (run : Value → Except RenderError (List String)) (items : List Value) :
    (do return String.join (← items.mapM run).flatten) =
      renderItems (fun item => do return String.join (← run item)) items := by
  induction items with
  | nil => simp [renderItems]
  | cons item rest inductionHypothesis =>
      simp only [Result.pure_eq_ok] at inductionHypothesis
      simp [renderItems, ← inductionHypothesis]

/-- A loop executes its block for every item. -/
theorem execute_loop (context : Context) (iterator source : String) (block : List Statement) :
    execute context [.loop iterator source block] = (do
      renderItems (fun item => execute (context.bind iterator item) block)
        (← loopItems context source)) := by
  have each := join_mapM_flatten fun item => runBlock (context.bind iterator item) block
  simp only [Result.pure_eq_ok] at each
  simp [execute, runBlock, Statement.run, each]

/-- The parts of a text return what the text renders to. -/
theorem execute_parts (context : Context) (parts : List TextPart) :
    execute context (parts.map partStatement) = renderParts context parts := by
  induction parts with
  | nil => simp [renderParts]
  | cons part rest inductionHypothesis =>
      rw [List.map_cons, execute_cons, inductionHypothesis]
      cases part <;> simp [partStatement, renderParts, renderPart, execute, runBlock, Statement.run]

/-- The clause of a branch asks for what the preview asks for. -/
theorem isTaken_clauseOf (context : Context) (isFirst : Bool) (branch : Branch Node)
    (rest : List (Branch Node)) (part : isConditionalPart isFirst (branch :: rest) = true) :
    (clauseOf isFirst branch).isTaken context = isTaken context branch.condition := by
  rcases branch with ⟨kind, condition, body, location⟩
  cases isFirst <;> cases kind <;> cases condition <;>
    simp_all [isConditionalPart, isConditional, continuesConditional, clauseOf, Clause.isTaken,
      isTaken]

/-- Arms choose as branches do, once each block returns what its body renders. -/
def ArmsAgree (context : Context) (arms : List (Arm Statement)) (branches : List (Branch Node)) :
    Prop :=
  (do return String.join (← runArms context arms)) = renderBranches context branches

theorem execute_conditional (context : Context) (arms : List (Arm Statement)) :
    execute context [.conditional arms] = (do return String.join (← runArms context arms)) := by
  simp [execute, runBlock, Statement.run]

/-- An arm that agrees with its branch goes before others that do. -/
theorem ArmsAgree.cons {context : Context} {arm : Arm Statement} {arms : List (Arm Statement)}
    {branch : Branch Node} {branches : List (Branch Node)}
    (clause : arm.clause.isTaken context = isTaken context branch.condition)
    (block : execute context arm.block = renderAll context branch.body)
    (later : ArmsAgree context arms branches) :
    ArmsAgree context (arm :: arms) (branch :: branches) := by
  unfold ArmsAgree at later ⊢
  rw [runArms, renderBranches, clause, ← later, ← block]
  cases isTaken context branch.condition with
  | error reason => rfl
  | ok taken => cases taken <;> rfl

mutual

/-- The statements of a template return what the template renders to. -/
theorem execute_lower (options : Options) :
    ∀ (node : Node) (lowered : Lowered (List Statement)), wellChained node = true →
      lower options node = .ok lowered →
      ∀ context : Context, context.preserveDoctype = options.preserveDoctype →
        execute context lowered.output = render context node
  | .root children location, lowered, chained, success, context, doctypes => by
      rw [render]
      exact execute_lowerAll options children lowered chained success context doctypes
  | .doctype doctype location, lowered, _, success, context, doctypes => by
      obtain rfl := Except.ok.inj success
      rw [render, doctypes]
      exact execute_literal context _
  | .text content location, lowered, _, success, context, _ => by
      obtain rfl := Except.ok.inj success
      rw [render]
      exact execute_literal context _
  | .interpolated parts location, lowered, _, success, context, _ => by
      obtain rfl := Except.ok.inj success
      rw [render]
      exact execute_parts context parts
  | .element tag attributes children location, lowered, chained, success, context, doctypes => by
      obtain ⟨content, found, rfl⟩ := lower_element_ok success
      have inner := execute_lowerAll options children content chained found context doctypes
      rw [Lowered.map, render, List.cons_append, execute_cons, execute_append, inner]
      simp [String.append_assoc]
  | .loop iterator source body location, lowered, chained, success, context, doctypes => by
      obtain ⟨content, found, rfl⟩ := lower_loop_ok success
      have inner (item : Value) := execute_lowerAll options body content chained found
        (context.bind iterator item) doctypes
      rw [Lowered.map, render, execute_loop]
      simp [execute_joinLiterals, inner]
  | .branch branch, lowered, _, success, context, _ => by
      obtain rfl := lower_branch_ok success
      simp [render, execute, runBlock, Statement.run]
  | .chain branches location, lowered, chained, success, context, doctypes => by
      rw [wellChained, Bool.and_eq_true] at chained
      obtain ⟨arms, found, rfl⟩ := lower_chain_ok success
      rw [Lowered.map, render, execute_conditional]
      exact armsAgree_lowerBranches options true branches arms chained.1 chained.2 found context
        doctypes
  | .staticBlock children html, lowered, _, success, context, _ => by
      obtain rfl := Except.ok.inj success
      rw [render]
      exact execute_literal context html

/-- The statements of siblings return what the siblings render to. -/
theorem execute_lowerAll (options : Options) :
    ∀ (nodes : List Node) (lowered : Lowered (List Statement)), allWellChained nodes = true →
      lowerAll options nodes = .ok lowered →
      ∀ context : Context, context.preserveDoctype = options.preserveDoctype →
        execute context lowered.output = renderAll context nodes
  | [], lowered, _, success, context, _ => by
      obtain rfl := Except.ok.inj success
      rw [renderAll]
      exact execute_nil context
  | node :: rest, lowered, chained, success, context, doctypes => by
      rw [allWellChained, Bool.and_eq_true] at chained
      obtain ⟨first, others, foundFirst, foundOthers, rfl⟩ := lowerAll_cons_ok success
      rw [Lowered.combine, renderAll, execute_append,
        execute_lower options node first chained.1 foundFirst context doctypes,
        execute_lowerAll options rest others chained.2 foundOthers context doctypes]

/-- The arms of branches agree with the branches. -/
theorem armsAgree_lowerBranches (options : Options) :
    ∀ (isFirst : Bool) (branches : List (Branch Node)) (arms : Lowered (List (Arm Statement))),
      isConditionalPart isFirst branches = true → branchesWellChained branches = true →
      lowerBranches options isFirst branches = .ok arms →
      ∀ context : Context, context.preserveDoctype = options.preserveDoctype →
        ArmsAgree context arms.output branches
  | isFirst, [], arms, _, _, success, context, _ => by
      obtain rfl := Except.ok.inj success
      rfl
  | isFirst, branch :: rest, arms, part, chained, success, context, doctypes => by
      rw [branchesWellChained, Bool.and_eq_true] at chained
      obtain ⟨content, others, foundContent, foundOthers, rfl⟩ := lowerBranches_cons_ok success
      refine ArmsAgree.cons (isTaken_clauseOf context isFirst branch rest part) ?_ ?_
      · rw [execute_joinLiterals,
          execute_lowerAll options branch.body content chained.1 foundContent context doctypes]
        simp
      · exact armsAgree_lowerBranches options false rest others (isConditionalPart_tail part)
          chained.2 foundOthers context doctypes

end

end HtmlTemplate.Script
