/-
This file shows where composing a text may be cut. A character that neither decomposes nor composes with
anything parts the text, so that what stands before it and what stands behind it are composed on their own.
-/

import HtmlTemplate.Proofs.Escape.Plain

namespace HtmlTemplate.Unicode

/-- A starter stays in its place. -/
theorem insertMark_starter {c : Char} (starter : combiningClass c = 0) (chars : List Char) :
    insertMark c chars = c :: chars := by
  cases chars with
  | nil => rfl
  | cons next rest => simp [insertMark, starter]

/-- No mark is moved past a starter. -/
theorem insertMark_append_starter (mark : Char) {c : Char} (starter : combiningClass c = 0)
    (before after : List Char) :
    insertMark mark (before ++ c :: after) = insertMark mark before ++ c :: after := by
  induction before with
  | nil => simp [insertMark, starter]
  | cons next rest inductionHypothesis =>
      rw [List.cons_append, insertMark, insertMark, inductionHypothesis]
      split <;> rfl

/-- No mark is moved across a starter. -/
theorem reorder_append_starter {c : Char} (starter : combiningClass c = 0)
    (before after : List Char) :
    reorder (before ++ c :: after) = reorder before ++ c :: reorder after := by
  induction before with
  | nil => exact insertMark_starter starter (reorder after)
  | cons first rest inductionHypothesis =>
      have later : reorder (first :: rest ++ c :: after) =
          insertMark first (reorder (rest ++ c :: after)) := rfl
      rw [later, inductionHypothesis, insertMark_append_starter first starter]
      rfl

/-- The composite of a starter with a character, unless a mark blocks it. -/
def joined? (starter : Char) (apart : List Char) (c : Char) : Option Char :=
  let free := match apart with
    | [] => true
    | last :: _ => combiningClass last < combiningClass c
  if free then compose? starter c else none

/-- The next character is joined, starts anew or stays apart. -/
theorem composeAfter_cons (starter : Char) (apart : List Char) (c : Char) (rest : List Char) :
    composeAfter starter apart (c :: rest) =
      match joined? starter apart c with
      | some composite => composeAfter composite apart rest
      | none =>
          if combiningClass c = 0 then starter :: apart.reverse ++ composeAfter c [] rest
          else composeAfter starter (c :: apart) rest := by
  cases apart <;> rfl

/-- Characters that never compose are not joined. -/
theorem joined?_eq_none {starter c : Char} (never : compose? starter c = none) (apart : List Char) :
    joined? starter apart c = none := by
  unfold joined?
  simp only [never, ite_self]

/-- A character that no second component is composed with, below all characters that decompose. -/
structure IsInert (c : Char) : Prop where
  low : c.toNat < 0x00C0
  alone : ∀ second, compose? c second = none

theorem IsInert.starter {c : Char} (inert : IsInert c) : combiningClass c = 0 :=
  combiningClass_low inert.low

/-- What follows an inert character is composed as if it stood at the front. -/
theorem composeAfter_inert {c : Char} (inert : IsInert c) (apart chars : List Char) :
    composeAfter c apart chars = c :: apart.reverse ++ compose chars := by
  induction chars generalizing apart with
  | nil => rw [composeAfter, compose, List.append_nil]
  | cons next rest inductionHypothesis =>
      rw [composeAfter_cons, joined?_eq_none (inert.alone next), compose]
      dsimp only
      split
      · rfl
      · rw [inductionHypothesis]
        simp

/-- Composing after a starter stops at an inert character. -/
theorem composeAfter_append_inert {c : Char} (inert : IsInert c) (starter : Char)
    (apart before after : List Char) :
    composeAfter starter apart (before ++ c :: after) =
      composeAfter starter apart before ++ c :: compose after := by
  induction before generalizing starter apart with
  | nil =>
      have stays : compose? starter c = none := by
        rw [compose?, if_pos (Nat.lt_trans inert.low (by decide))]
      rw [List.nil_append, composeAfter_cons, joined?_eq_none stays]
      simp [inert.starter, composeAfter_inert inert, composeAfter]
  | cons next rest inductionHypothesis =>
      rw [List.cons_append, composeAfter_cons, composeAfter_cons]
      split
      · exact inductionHypothesis _ _
      · split
        · rw [inductionHypothesis, List.append_assoc]
        · exact inductionHypothesis _ _

/-- Composing does not reach across an inert character. -/
theorem compose_append_inert {c : Char} (inert : IsInert c) (before after : List Char) :
    compose (before ++ c :: after) = compose before ++ c :: compose after := by
  induction before with
  | nil =>
      show compose (c :: after) = c :: compose after
      rw [compose, if_pos inert.starter]
      exact composeAfter_inert inert [] after
  | cons first rest inductionHypothesis =>
      rw [List.cons_append, compose, compose]
      split
      · exact composeAfter_append_inert inert first [] rest after
      · rw [inductionHypothesis]
        rfl

/-- An inert character parts a text into two that are composed on their own. -/
theorem normalize_append_inert {c : Char} (inert : IsInert c) (before after : List Char) :
    normalize (before ++ c :: after) = normalize before ++ c :: normalize after := by
  have decomposed : decompose c = [c] := by rw [decompose, if_pos inert.low]
  rw [normalize, List.flatMap_append, List.flatMap_cons, decomposed]
  exact (congrArg compose (reorder_append_starter inert.starter _ _)).trans
    (compose_append_inert inert _ _)

/-- Only first components of the table and letters of Hangul compose. -/
theorem isInert_of_table {c : Char} (low : c.toNat < 0x00C0)
    (absent : ∀ entry ∈ Composites.all, entry.2.1 ≠ c.toNat) : IsInert c := by
  refine ⟨low, fun second => ?_⟩
  have noLetter : Hangul.compose? c.toNat second.toNat = none := by
    have notLeading : ¬Hangul.leadingBase ≤ c.toNat := by
      rw [Hangul.leadingBase]
      omega
    have noSyllable : ¬Hangul.syllableBase ≤ c.toNat := by
      rw [Hangul.syllableBase]
      omega
    rw [Hangul.compose?, if_neg fun letter => notLeading letter.1,
      if_neg fun syllable => noSyllable syllable.1]
  have noPair : (Composites.all.find? fun entry =>
      entry.2.1 == c.toNat && entry.2.2 == second.toNat) = none := by
    rw [List.find?_eq_none]
    intro entry member found
    rw [Bool.and_eq_true, beq_iff_eq] at found
    exact absent entry member found.1
  rw [compose?, noLetter, noPair, Option.map_none, ite_self]

theorem isInert_ampersand : IsInert '&' := isInert_of_table (by decide) (by decide +kernel)

theorem isInert_semicolon : IsInert ';' := isInert_of_table (by decide) (by decide +kernel)

end HtmlTemplate.Unicode
