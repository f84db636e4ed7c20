/-
This file describes how literals are joined: joining a part first makes no difference to joining the
whole, so that the block of a template can be put together from the blocks of its parts.
-/

import HtmlTemplate.Proofs.Result
import HtmlTemplate.Script.Statement

namespace HtmlTemplate.Script

open Template

def Statement.isLiteral : Statement → Bool
  | .literal _ => true
  | .escaped _ => false
  | .loop _ _ _ => false
  | .conditional _ => false
  | .marker _ => false

/-- A statement is a literal or something else. -/
theorem Statement.literal_or_other (statement : Statement) :
    (∃ html, statement = .literal html) ∨ statement.isLiteral = false := by
  cases statement <;> simp [Statement.isLiteral]

@[simp] theorem literalStatement_empty : literalStatement "" = [] := rfl

theorem literalStatement_of_ne {html : String} (filled : html ≠ "") :
    literalStatement html = [.literal html] := by
  simp [literalStatement, filled]

/-- Any statement but a literal ends the literal before it. -/
theorem joinLiterals_cons (pending : String) {statement : Statement} (rest : List Statement)
    (other : statement.isLiteral = false) :
    joinLiterals pending (statement :: rest) =
      literalStatement pending ++ statement :: joinLiterals "" rest := by
  cases statement with
  | literal html => simp [Statement.isLiteral] at other
  | escaped expression => rfl
  | loop iterator source block => rfl
  | conditional arms => rfl
  | marker directive => rfl

/-- A literal joins the pending one. -/
theorem joinLiterals_literalStatement (pending html : String) (rest : List Statement) :
    joinLiterals pending (literalStatement html ++ rest) = joinLiterals (pending ++ html) rest := by
  by_cases empty : html = ""
  · simp [empty]
  · rw [literalStatement_of_ne empty]
    rfl

/-- A joined beginning continues the pending literal as it did before it was joined. -/
theorem joinLiterals_joined (pending before : String) (statements rest : List Statement) :
    joinLiterals pending (joinLiterals before statements ++ rest) =
      joinLiterals (pending ++ before) (statements ++ rest) := by
  induction statements generalizing pending before with
  | nil => exact joinLiterals_literalStatement pending before rest
  | cons statement more inductionHypothesis =>
      rcases statement.literal_or_other with ⟨html, rfl⟩ | other
      · simp only [joinLiterals, List.cons_append, inductionHypothesis, String.append_assoc]
      · have unchanged := inductionHypothesis "" ""
        simp only [String.empty_append] at unchanged
        rw [joinLiterals_cons before more other, List.append_assoc,
          joinLiterals_literalStatement, List.cons_append, List.cons_append,
          joinLiterals_cons _ _ other, joinLiterals_cons _ _ other, unchanged]

/-- A joined ending is the same ending to what stands before it. -/
theorem joinLiterals_append_joined (pending : String) (statements rest : List Statement) :
    joinLiterals pending (statements ++ joinLiterals "" rest) =
      joinLiterals pending (statements ++ rest) := by
  induction statements generalizing pending with
  | nil => simpa using joinLiterals_joined pending "" rest []
  | cons statement more inductionHypothesis =>
      rcases statement.literal_or_other with ⟨html, rfl⟩ | other
      · simp only [joinLiterals, List.cons_append, inductionHypothesis]
      · rw [List.cons_append, List.cons_append, joinLiterals_cons _ _ other,
          joinLiterals_cons _ _ other, inductionHypothesis]

end HtmlTemplate.Script
