/-
This file holds literal templates: markup without any expression. Folding keeps them, and lowering them
reports nothing.
-/

import HtmlTemplate.Proofs.Result
import HtmlTemplate.Script.Statement
import HtmlTemplate.Template.Chain

namespace HtmlTemplate.Template

mutual

/-- A doctype, a text, or an element with nothing else inside. -/
def isLiteral : Node → Bool
  | .doctype _ _ => true
  | .text _ _ => true
  | .element _ _ children _ => allLiteral children
  | _ => false

def allLiteral : List Node → Bool
  | [] => true
  | node :: rest => isLiteral node && allLiteral rest

end

mutual

/-- Folding leaves literal nodes as they are. -/
theorem fold_literal (strict : Bool) :
    ∀ node : Node, isLiteral node = true → fold strict node = .ok node
  | .doctype _ _, _ => rfl
  | .text _ _, _ => rfl
  | .element tag attributes children location, literal => by
      rw [fold, foldSiblings_literal strict children literal]
      rfl
  | .root _ _, literal | .interpolated _ _, literal | .loop _ _ _ _, literal
  | .branch _, literal | .chain _ _, literal | .staticBlock _ _, literal => by
      simp [isLiteral] at literal

/-- Without branches there is nothing to fold. -/
theorem foldSiblings_literal (strict : Bool) :
    ∀ nodes : List Node, allLiteral nodes = true → foldSiblings strict [] nodes = .ok nodes
  | [], _ => rfl
  | node :: rest, literal => by
      rw [allLiteral, Bool.and_eq_true] at literal
      rw [foldSiblings, fold_literal strict node literal.1,
        foldSiblings_literal strict rest literal.2]
      cases node <;> simp_all [isLiteral, chainOf]

end

mutual

/-- Literal nodes are lowered without diagnostics. -/
theorem lower_literal (options : Options) :
    ∀ node : Node, isLiteral node = true →
      ∃ statements, Script.lower options node = .ok (.plain statements)
  | .doctype _ _, _ => ⟨_, rfl⟩
  | .text _ _, _ => ⟨_, rfl⟩
  | .element tag attributes children location, literal => by
      obtain ⟨statements, lowered⟩ := lowerAll_literal options children literal
      rw [Script.lower, lowered]
      exact ⟨_, rfl⟩
  | .root _ _, literal | .interpolated _ _, literal | .loop _ _ _ _, literal
  | .branch _, literal | .chain _ _, literal | .staticBlock _ _, literal => by
      simp [isLiteral] at literal

/-- Without branches there is nothing to report. -/
theorem lowerAll_literal (options : Options) :
    ∀ nodes : List Node, allLiteral nodes = true →
      ∃ statements, Script.lowerAll options nodes = .ok (.plain statements)
  | [], _ => ⟨[], rfl⟩
  | node :: rest, literal => by
      rw [allLiteral, Bool.and_eq_true] at literal
      obtain ⟨first, here⟩ := lower_literal options node literal.1
      obtain ⟨others, later⟩ := lowerAll_literal options rest literal.2
      rw [Script.lowerAll, here, later]
      exact ⟨_, rfl⟩

end

end HtmlTemplate.Template
