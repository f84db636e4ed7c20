/-
This file says what a successful lowering is made of: for each construct with parts, the lowered parts
and what is put together from them.
-/

import HtmlTemplate.Proofs.Result
import HtmlTemplate.Script.Statement

namespace HtmlTemplate.Script

open Template

/-- A lowered element has its lowered content between its tags. -/
theorem lower_element_ok {options : Options} {tag : String} {attributes : List Attribute}
    {children : List Node} {location : Location} {lowered : Lowered (List Statement)}
    (success : lower options (.element tag attributes children location) = .ok lowered) :
    ∃ content, lowerAll options children = .ok content ∧
      lowered = content.map fun statements =>
        .literal (openTag tag attributes) :: statements ++ [.literal (closeTag tag children)] := by
  rw [lower] at success
  obtain ⟨content, found, success⟩ := Result.bind_eq_ok success
  exact ⟨content, found, (Except.ok.inj success).symm⟩

/-- A lowered loop has its lowered body. -/
theorem lower_loop_ok {options : Options} {iterator source : String} {body : List Node}
    {location : Location} {lowered : Lowered (List Statement)}
    (success : lower options (.loop iterator source body location) = .ok lowered) :
    ∃ content, lowerAll options body = .ok content ∧
      lowered = content.map fun statements =>
        [.loop iterator source (joinLiterals "" statements)] := by
  rw [lower] at success
  obtain ⟨content, found, success⟩ := Result.bind_eq_ok success
  exact ⟨content, found, (Except.ok.inj success).symm⟩

/-- A branch outside of a chain is lowered leniently only. -/
theorem lower_branch_ok {options : Options} {branch : Branch Node}
    {lowered : Lowered (List Statement)}
    (success : lower options (.branch branch) = .ok lowered) :
    lowered = ⟨[.marker branch.kind.directive], [strayDiagnostic branch]⟩ := by
  rw [lower] at success
  split at success
  · contradiction
  · exact (Except.ok.inj success).symm

/-- A lowered chain has its lowered branches. -/
theorem lower_chain_ok {options : Options} {branches : List (Branch Node)} {location : Location}
    {lowered : Lowered (List Statement)}
    (success : lower options (.chain branches location) = .ok lowered) :
    ∃ arms, lowerBranches options true branches = .ok arms ∧
      lowered = arms.map fun arms => [.conditional arms] := by
  rw [lower] at success
  obtain ⟨arms, found, success⟩ := Result.bind_eq_ok success
  exact ⟨arms, found, (Except.ok.inj success).symm⟩

/-- Lowered siblings are lowered one by one. -/
theorem lowerAll_cons_ok {options : Options} {node : Node} {rest : List Node}
    {lowered : Lowered (List Statement)}
    (success : lowerAll options (node :: rest) = .ok lowered) :
    ∃ first others, lower options node = .ok first ∧ lowerAll options rest = .ok others ∧
      lowered = Lowered.combine (· ++ ·) first others := by
  rw [lowerAll] at success
  obtain ⟨first, foundFirst, success⟩ := Result.bind_eq_ok success
  obtain ⟨others, foundOthers, success⟩ := Result.bind_eq_ok success
  exact ⟨first, others, foundFirst, foundOthers, (Except.ok.inj success).symm⟩

/-- Lowered branches are lowered one by one. -/
theorem lowerBranches_cons_ok {options : Options} {isFirst : Bool} {branch : Branch Node}
    {rest : List (Branch Node)} {arms : Lowered (List (Arm Statement))}
    (success : lowerBranches options isFirst (branch :: rest) = .ok arms) :
    ∃ content others, lowerAll options branch.body = .ok content ∧
      lowerBranches options false rest = .ok others ∧
      arms = Lowered.combine
        (fun statements arms => ⟨clauseOf isFirst branch, joinLiterals "" statements⟩ :: arms)
        content others := by
  rw [lowerBranches] at success
  obtain ⟨content, foundContent, success⟩ := Result.bind_eq_ok success
  obtain ⟨others, foundOthers, success⟩ := Result.bind_eq_ok success
  exact ⟨content, others, foundContent, foundOthers, (Except.ok.inj success).symm⟩

end HtmlTemplate.Script
