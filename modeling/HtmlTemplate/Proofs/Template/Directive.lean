/-
This file says what a strict reading of directives guarantees: expressions are not blank, and a loop
runs over a trimmed expression with an identifier for its variable.
-/

import HtmlTemplate.Proofs.Text.Words
import HtmlTemplate.Template.Directive

namespace HtmlTemplate

namespace Template

/-- The variable is an identifier, and the expression is trimmed and not empty. -/
structure ForClause.IsStrict (clause : ForClause) : Prop where
  iterator : Text.isIdentifier clause.iterator.toList = true
  filled : clause.source ≠ ""
  trimmed : Text.trim clause.source.toList = clause.source.toList

/-- What the grammar accepts is a strict loop. -/
theorem ForClause.isStrict_of_parse? {chars : List Char} {clause : ForClause}
    (parsed : parse? chars = some clause) : clause.IsStrict := by
  unfold parse? at parsed
  dsimp only at parsed
  split at parsed
  · split at parsed
    · rename_i accepted
      simp only [Bool.and_eq_true, Bool.not_eq_true', List.isEmpty_eq_false_iff] at accepted
      obtain rfl := Option.some.inj parsed
      exact ⟨by simpa using accepted.1.2, by simpa using accepted.2, by simp⟩
    · contradiction
  · contradiction

/-- A loop that is read strictly is strict. -/
theorem ForClause.isStrict_of_read {value : String} {location : Location} {clause : ForClause}
    (success : ForClause.read true value location = .ok clause) : clause.IsStrict := by
  simp only [ForClause.read, if_true] at success
  split at success
  · rename_i parsed
    obtain rfl := Except.ok.inj success
    exact isStrict_of_parse? parsed
  · contradiction

/-- Checked directives that need an expression have one that is not blank. -/
theorem Directive.isBlankText_of_check {attributes : List Markup.Attribute} {location : Location}
    (checked : check attributes location = .ok ()) {name text : String}
    (needed : name ∈ expressionNames) (value : value? attributes name = some text) :
    Text.isBlankText text = false := by
  unfold check at checked
  split at checked
  · contradiction
  · split at checked
    · contradiction
    · rename_i filled
      rw [List.find?_eq_none] at filled
      simpa [value] using filled name needed

end Template

end HtmlTemplate
