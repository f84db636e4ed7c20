/-
This file says what splitting a text at its interpolations gives. Literal parts are not empty and are
kept apart by expressions, and a text without an expression has no complete interpolation in it.
-/

import Mathlib.Data.List.Chain
import HtmlTemplate.Proofs.Text.Slices
import HtmlTemplate.Template.OfMarkup

namespace HtmlTemplate

namespace Template

/-- A text with a complete interpolation: double braces around characters of one line. -/
def HasInterpolation (chars : List Char) : Prop :=
  ∃ before inside after,
    chars = before ++ '\x7b' :: '\x7b' :: (inside ++ '\x7d' :: '\x7d' :: after) ∧ '\n' ∉ inside

/-- A complete interpolation in front of a text is found. -/
theorem interpolation?_isSome {inside after : List Char} (oneLine : '\n' ∉ inside) :
    (interpolation? ('\x7b' :: '\x7b' :: (inside ++ '\x7d' :: '\x7d' :: after))).isSome = true := by
  have closing : startsClosingBraces ('\x7d' :: '\x7d' :: after) = true := by
    simp [startsClosingBraces]
  have within := Text.takeUntil_prefix startsClosingBraces inside _ closing
  have whole := Text.takeUntil_append_dropUntil startsClosingBraces
    (inside ++ '\x7d' :: '\x7d' :: after)
  rw [interpolation?]
  generalize Text.takeUntil startsClosingBraces (inside ++ '\x7d' :: '\x7d' :: after) = taken
    at within whole
  generalize Text.dropUntil startsClosingBraces (inside ++ '\x7d' :: '\x7d' :: after) = dropped
    at whole
  have noBreak : '\n' ∉ taken := fun member => oneLine (within.subset member)
  have closed : dropped.isEmpty = false := by
    cases dropped with
    | cons c rest => rfl
    | nil =>
        have lengths := congrArg List.length whole
        have shorter := within.length_le
        simp only [List.append_nil, List.length_append, List.length_cons] at lengths
        omega
  simp [noBreak, closed]

/-- An interpolation stands at the front or further on. -/
theorem HasInterpolation.at_front_or_later {c : Char} {rest : List Char}
    (found : HasInterpolation (c :: rest)) :
    (interpolation? (c :: rest)).isSome = true ∨ HasInterpolation rest := by
  obtain ⟨before, inside, after, whole, oneLine⟩ := found
  cases before with
  | nil =>
      rw [whole]
      exact .inl (interpolation?_isSome oneLine)
  | cons first before =>
      exact .inr ⟨before, inside, after, List.tail_eq_of_cons_eq whole, oneLine⟩

/-- Without an expression the whole text is one literal. -/
theorem splitFrom_without_variable (literal chars : List Char)
    (plain : ∀ expression, .variable expression ∉ splitFrom 0 literal chars) :
    splitFrom 0 literal chars = literalPart (chars.reverse ++ literal) ∧
      ¬HasInterpolation chars := by
  induction chars generalizing literal with
  | nil =>
      refine ⟨rfl, ?_⟩
      rintro ⟨before, inside, after, whole, _⟩
      simp at whole
  | cons c rest inductionHypothesis =>
      cases found : interpolation? (c :: rest) with
      | some inside =>
          refine absurd ?_ (plain (String.ofList (Text.trim inside)))
          simp [splitFrom, found]
      | none =>
          have step : splitFrom 0 literal (c :: rest) = splitFrom 0 (c :: literal) rest := by
            simp [splitFrom, found]
          rw [step] at plain ⊢
          obtain ⟨parts, later⟩ := inductionHypothesis (c :: literal) plain
          refine ⟨by simp [parts], fun here => ?_⟩
          rcases here.at_front_or_later with front | later'
          · simp [found] at front
          · exact later later'

def TextPart.isText : TextPart → Bool
  | .text _ => true
  | .variable _ => false

/-- Literal parts are not empty, and an expression stands between any two of them. -/
structure TextsApart (parts : List TextPart) : Prop where
  filled : .text "" ∉ parts
  apart : parts.IsChain fun first second => ¬(first.isText = true ∧ second.isText = true)

/-- No literal part is empty. -/
theorem text_empty_notMem_literalPart (literal : List Char) : .text "" ∉ literalPart literal := by
  intro member
  cases literal <;> simp [literalPart] at member

/-- A literal part has no text next to another. -/
theorem textsApart_literalPart (literal : List Char) : TextsApart (literalPart literal) := by
  refine ⟨text_empty_notMem_literalPart literal, ?_⟩
  cases literal <;> simp [literalPart]

/-- A variable keeps the texts around it apart. -/
theorem TextsApart.variable_cons (literal : List Char) (expression : String)
    {parts : List TextPart} (later : TextsApart parts) :
    TextsApart (literalPart literal ++ .variable expression :: parts) := by
  refine ⟨?_, ?_⟩
  · simp [text_empty_notMem_literalPart, later.filled]
  · have tail : (.variable expression :: parts).IsChain
        fun first second : TextPart => ¬(first.isText = true ∧ second.isText = true) :=
      List.isChain_cons.mpr ⟨by simp [TextPart.isText], later.apart⟩
    refine (textsApart_literalPart literal).apart.append tail ?_
    simp [TextPart.isText]

/-- Splitting leaves no two texts side by side. -/
theorem textsApart_splitFrom (covered : Nat) (literal chars : List Char) :
    TextsApart (splitFrom covered literal chars) := by
  induction chars generalizing covered literal with
  | nil =>
      rw [splitFrom]
      exact textsApart_literalPart literal
  | cons c rest inductionHypothesis =>
      cases covered with
      | succ covered =>
          rw [splitFrom]
          exact inductionHypothesis covered literal
      | zero =>
          rw [splitFrom]
          split
          · exact (inductionHypothesis _ []).variable_cons literal _
          · exact inductionHypothesis 0 (c :: literal)

/-- A text becomes literal only if it has no interpolation. -/
theorem splitInterpolations_without_variable (text : String) (filled : text ≠ "")
    (plain : ∀ expression, .variable expression ∉ splitInterpolations text) :
    splitInterpolations text = [.text text] ∧ ¬HasInterpolation text.toList := by
  obtain ⟨parts, none⟩ := splitFrom_without_variable [] text.toList plain
  refine ⟨?_, none⟩
  rw [splitInterpolations, parts]
  simp [literalPart, filled]

end Template

end HtmlTemplate
