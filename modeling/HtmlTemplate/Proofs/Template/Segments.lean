/-
This file says how a text is cut into its literal parts and its interpolations. There is one way to cut it such that
every interpolation starts as early and ends as early as can be, and splitting a text follows it.
-/

import Mathlib.Data.List.Chain
import HtmlTemplate.Proofs.Template.Interpolation
import HtmlTemplate.Proofs.Text.Slices

namespace HtmlTemplate.Template

/-- Literal characters, or an interpolation as it is written. -/
inductive Segment where
  | literal (chars : List Char)
  | interpolation (inside : List Char)
  deriving DecidableEq, Repr

namespace Segment

def chars : Segment → List Char
  | literal chars => chars
  | interpolation inside => '\x7b' :: '\x7b' :: (inside ++ ['\x7d', '\x7d'])

@[simp] theorem chars_literal (written : List Char) : (literal written).chars = written := rfl

@[simp] theorem chars_interpolation_append (inside rest : List Char) :
    (interpolation inside).chars ++ rest = '\x7b' :: '\x7b' :: (inside ++ '\x7d' :: '\x7d' :: rest) := by
  simp [chars]

/-- The part that stands for a stretch of the text. -/
def part : Segment → TextPart
  | literal chars => .text (String.ofList chars)
  | interpolation inside => .variable (String.ofList (Text.trim inside))

def isLiteral : Segment → Bool
  | literal _ => true
  | interpolation _ => false

end Segment

/-- A text with an interpolation at its front. -/
def StartsInterpolation (chars : List Char) : Prop :=
  ∃ inside after, chars = '\x7b' :: '\x7b' :: (inside ++ '\x7d' :: '\x7d' :: after) ∧ '\n' ∉ inside

/-- No interpolation starts within the first text, where the second text follows it. -/
def NoStartWithin (first second : List Char) : Prop :=
  ∀ skipped kept, first = skipped ++ kept → kept ≠ [] → ¬StartsInterpolation (kept ++ second)

/-- How segments cut a text. -/
structure IsSplit (text : List Char) (segments : List Segment) : Prop where
  whole : segments.flatMap Segment.chars = text
  filled : .literal [] ∉ segments
  apart : segments.IsChain fun first second => ¬(first.isLiteral = true ∧ second.isLiteral = true)
  plain : ∀ chars, .literal chars ∈ segments → ¬HasInterpolation chars
  oneLine : ∀ inside, .interpolation inside ∈ segments → '\n' ∉ inside
  /-- Behind its opening braces, an interpolation ends at the first closing braces. -/
  first : ∀ before inside after, segments = before ++ .interpolation inside :: after →
    ∀ earlier later, inside ++ '\x7d' :: '\x7d' :: after.flatMap Segment.chars =
      earlier ++ '\x7d' :: '\x7d' :: later → inside.length ≤ earlier.length
  /-- No interpolation can start in the gap between an interpolation and the one before it. -/
  leftmost : ∀ before gap inside after, segments = before ++ gap ++ .interpolation inside :: after →
    (∀ segment ∈ gap, segment.isLiteral = true) →
      NoStartWithin (gap.flatMap Segment.chars)
        ((Segment.interpolation inside).chars ++ after.flatMap Segment.chars)

/-- What starts an interpolation makes a text have one. -/
theorem StartsInterpolation.hasInterpolation {chars : List Char} (starts : StartsInterpolation chars)
    (before : List Char) : HasInterpolation (before ++ chars) := by
  obtain ⟨inside, after, rfl, oneLine⟩ := starts
  exact ⟨before, inside, after, rfl, oneLine⟩

/-- What starts with an interpolation is found to do so. -/
theorem StartsInterpolation.isSome {chars : List Char} (starts : StartsInterpolation chars) :
    (interpolation? chars).isSome = true := by
  obtain ⟨inside, after, rfl, oneLine⟩ := starts
  exact interpolation?_isSome oneLine

/-- An interpolation has one line and ends at the first closing braces. -/
theorem interpolation?_eq_some {chars inside : List Char} (found : interpolation? chars = some inside) :
    ∃ after, chars = '\x7b' :: '\x7b' :: (inside ++ '\x7d' :: '\x7d' :: after) ∧ '\n' ∉ inside ∧
      ∀ earlier later, inside ++ '\x7d' :: '\x7d' :: after = earlier ++ '\x7d' :: '\x7d' :: later →
        inside.length ≤ earlier.length := by
  unfold interpolation? at found
  split at found
  · rename_i rest
    dsimp only at found
    split at found
    · contradiction
    · rename_i accepted
      obtain rfl := Option.some.inj found
      simp only [Bool.or_eq_true, List.isEmpty_iff, List.contains_iff_mem, not_or] at accepted
      have closing := Text.found_of_dropUntil accepted.1
      have whole := Text.takeUntil_append_dropUntil startsClosingBraces rest
      obtain ⟨after, closed⟩ : ∃ after, Text.dropUntil startsClosingBraces rest = '\x7d' :: '\x7d' :: after := by
        obtain ⟨after, same⟩ := List.isPrefixOf_iff_prefix.mp closing
        exact ⟨after, same.symm⟩
      rw [closed] at whole
      refine ⟨after, by rw [whole], accepted.2, ?_⟩
      intro earlier later same
      rw [whole] at same
      have within := Text.takeUntil_prefix startsClosingBraces earlier ('\x7d' :: '\x7d' :: later)
        (by simp [startsClosingBraces])
      rw [← same] at within
      exact within.length_le
  · contradiction

theorem noStartWithin_nil (text : List Char) : NoStartWithin [] text := by
  intro skipped kept empty filled
  exact absurd (List.append_eq_nil_iff.mp empty.symm).2 filled

/-- A text without a start has no interpolation. -/
theorem NoStartWithin.not_hasInterpolation {chars text : List Char} (blocked : NoStartWithin chars text) :
    ¬HasInterpolation chars := by
  rintro ⟨before, inside, after, whole, oneLine⟩
  refine blocked before _ whole (List.cons_ne_nil _ _) ⟨inside, after ++ text, ?_, oneLine⟩
  simp

/-- A character at which no interpolation starts makes the first text longer. -/
theorem NoStartWithin.concat {chars rest : List Char} {c : Char} (blocked : NoStartWithin chars (c :: rest))
    (here : ¬StartsInterpolation (c :: rest)) : NoStartWithin (chars ++ [c]) rest := by
  intro skipped kept split filled
  obtain ⟨before, last, rfl⟩ := (List.eq_nil_or_concat' kept).resolve_left filled
  rw [← List.append_assoc] at split
  obtain ⟨same, isLast⟩ := List.append_inj' split rfl
  obtain rfl := List.singleton_inj.mp isLast
  rw [List.append_assoc, List.singleton_append]
  by_cases empty : before = []
  · rw [empty]
    exact here
  · exact blocked skipped before same empty

theorem isSplit_nil : IsSplit [] [] where
  whole := rfl
  filled := List.not_mem_nil
  apart := .nil
  plain := by simp
  oneLine := by simp
  first := by simp
  leftmost := by simp

/-- A text without interpolations is cut into one literal. -/
theorem isSplit_literal {chars : List Char} (filled : chars ≠ []) (plain : ¬HasInterpolation chars) :
    IsSplit chars [.literal chars] where
  whole := List.append_nil chars
  filled := by simpa using filled
  apart := .singleton _
  plain := by simpa using plain
  oneLine := by simp
  first := by
    intro before inside after split
    cases before <;> simp at split
  leftmost := by
    intro before gap inside after split
    have member : .interpolation inside ∈ [Segment.literal chars] := by simp [split]
    simp at member

namespace IsSplit

section Extending

variable {text chars inside : List Char} {segments : List Segment}

/-- An interpolation before a text that is cut. -/
theorem interpolation_cons (later : IsSplit text segments) (oneLine : '\n' ∉ inside)
    (first : ∀ earlier after, inside ++ '\x7d' :: '\x7d' :: text = earlier ++ '\x7d' :: '\x7d' :: after →
      inside.length ≤ earlier.length) :
    IsSplit ('\x7b' :: '\x7b' :: (inside ++ '\x7d' :: '\x7d' :: text))
      (.interpolation inside :: segments) where
  whole := by simp [Segment.chars, later.whole]
  filled := by simpa using later.filled
  apart := List.isChain_cons.mpr ⟨by simp [Segment.isLiteral], later.apart⟩
  plain := by simpa using later.plain
  oneLine := by
    intro other member
    rcases List.mem_cons.mp member with same | inSegments
    · obtain rfl := Segment.interpolation.inj same
      exact oneLine
    · exact later.oneLine other inSegments
  first := by
    intro before other after split
    cases before with
    | nil =>
        obtain ⟨same, rfl⟩ := List.cons.inj split
        obtain rfl := Segment.interpolation.inj same
        rw [later.whole]
        exact first
    | cons segment before => exact later.first before other after (List.cons.inj split).2
  leftmost := by
    intro before gap other after split literals
    cases before with
    | nil =>
        cases gap with
        | nil => exact noStartWithin_nil _
        | cons segment gap =>
            obtain ⟨rfl, -⟩ := List.cons.inj split
            exact absurd (literals _ List.mem_cons_self) Bool.false_ne_true
    | cons segment before => exact later.leftmost before gap other after (List.cons.inj split).2 literals

/-- A literal before an interpolation, in which no other interpolation starts. -/
theorem literal_cons (later : IsSplit text (.interpolation inside :: segments)) (filled : chars ≠ [])
    (blocked : NoStartWithin chars text) :
    IsSplit (chars ++ text) (.literal chars :: .interpolation inside :: segments) where
  whole := by rw [List.flatMap_cons, later.whole]; rfl
  filled := by
    intro member
    rcases List.mem_cons.mp member with same | inSegments
    · exact filled (Segment.literal.inj same).symm
    · exact later.filled inSegments
  apart := List.isChain_cons.mpr ⟨by simp [Segment.isLiteral], later.apart⟩
  plain := by
    intro other member
    rcases List.mem_cons.mp member with same | inSegments
    · obtain rfl := Segment.literal.inj same
      exact blocked.not_hasInterpolation
    · exact later.plain other inSegments
  oneLine := by
    intro other member
    exact later.oneLine other (by simpa using member)
  first := by
    intro before other after split
    cases before with
    | nil => simp at split
    | cons segment before => exact later.first before other after (List.cons.inj split).2
  leftmost := by
    intro before gap other after split literals
    cases before with
    | nil =>
        cases gap with
        | nil => simp at split
        | cons segment gap =>
            obtain ⟨rfl, behind⟩ := List.cons.inj split
            have nothing : gap = [] := by
              cases gap with
              | nil => rfl
              | cons next gap =>
                  obtain ⟨rfl, -⟩ := List.cons.inj behind
                  exact absurd (literals (.interpolation inside) (by simp)) Bool.false_ne_true
            subst nothing
            rw [← List.flatMap_cons, show .interpolation other :: after = _ from behind.symm, later.whole]
            simpa [Segment.chars] using blocked
    | cons segment before => exact later.leftmost before gap other after (List.cons.inj split).2 literals

end Extending

section Reading

variable {text chars inside : List Char} {segment : Segment} {rest : List Segment}

/-- A cut text is cut behind its first segment. -/
theorem tail (cut : IsSplit text (segment :: rest)) : IsSplit (rest.flatMap Segment.chars) rest where
  whole := rfl
  filled := fun member => cut.filled (List.mem_cons_of_mem segment member)
  apart := (List.isChain_cons.mp cut.apart).2
  plain := fun chars member => cut.plain chars (List.mem_cons_of_mem segment member)
  oneLine := fun inside member => cut.oneLine inside (List.mem_cons_of_mem segment member)
  first := fun before inside after split =>
    cut.first (segment :: before) inside after (by rw [split]; rfl)
  leftmost := fun before gap inside after split =>
    cut.leftmost (segment :: before) gap inside after (by rw [split]; rfl)

/-- No interpolation starts within a literal, whatever follows it. -/
theorem blocked (cut : IsSplit text (.literal chars :: rest)) :
    NoStartWithin chars (rest.flatMap Segment.chars) := by
  match rest with
  | [] =>
      intro skipped kept split filled starts
      rw [List.flatMap_nil, List.append_nil] at starts
      apply cut.plain chars List.mem_cons_self
      rw [split]
      exact starts.hasInterpolation skipped
  | .literal others :: after =>
      exact absurd ⟨rfl, rfl⟩ ((List.isChain_cons.mp cut.apart).1 _ rfl)
  | .interpolation inside :: after =>
      simpa using cut.leftmost [] [.literal chars] inside after rfl (by simp [Segment.isLiteral])

/-- A first interpolation starts the text. -/
theorem starts (cut : IsSplit text (.interpolation inside :: rest)) : StartsInterpolation text :=
  ⟨inside, rest.flatMap Segment.chars, by rw [← cut.whole]; simp [Segment.chars],
    cut.oneLine inside List.mem_cons_self⟩

/-- The empty text has no segments. -/
theorem eq_nil {segments : List Segment} (cut : IsSplit [] segments) : segments = [] := by
  match segments with
  | [] => rfl
  | .literal chars :: rest =>
      have empty : chars = [] := (List.append_eq_nil_iff.mp cut.whole).1
      exact absurd (empty ▸ List.mem_cons_self) cut.filled
  | .interpolation inside :: rest => exact absurd cut.whole (List.cons_ne_nil _ _)

end Reading

section Comparing

variable {text : List Char} {rest more : List Segment}

/-- A literal ends no later than another literal that starts at the same place. -/
theorem length_literal_le {chars others : List Char} (cut : IsSplit text (.literal chars :: rest))
    (other : IsSplit text (.literal others :: more)) : chars.length ≤ others.length := by
  by_contra longer
  have same : chars ++ rest.flatMap Segment.chars = others ++ more.flatMap Segment.chars :=
    cut.whole.trans other.whole.symm
  obtain ⟨kept, rfl⟩ : others <+: chars :=
    List.prefix_of_prefix_length_le ⟨_, same.symm⟩ ⟨_, rfl⟩ (Nat.le_of_not_le longer)
  rw [List.append_assoc, List.append_cancel_left_eq] at same
  have filled : kept ≠ [] := by
    rintro rfl
    simp at longer
  -- What follows the shorter literal starts within the longer one.
  match more with
  | [] => exact filled (List.append_eq_nil_iff.mp same).1
  | .literal next :: after => exact absurd ⟨rfl, rfl⟩ ((List.isChain_cons.mp other.apart).1 _ rfl)
  | .interpolation inside :: after =>
      apply cut.blocked others kept rfl filled
      rw [same]
      exact other.tail.starts

/-- An interpolation ends as early as any other. -/
theorem length_interpolation_le {inside other : List Char}
    (cut : IsSplit text (.interpolation inside :: rest))
    (otherCut : IsSplit text (.interpolation other :: more)) : inside.length ≤ other.length := by
  have same := cut.whole.trans otherCut.whole.symm
  simp only [List.flatMap_cons, Segment.chars_interpolation_append, List.cons.injEq, true_and] at same
  exact cut.first [] inside rest rfl other (more.flatMap Segment.chars) same

/-- No literal starts where an interpolation starts. -/
theorem not_starts (cut : IsSplit text (.literal chars :: rest)) : ¬StartsInterpolation text := by
  rw [← cut.whole]
  refine cut.blocked [] chars rfl ?_
  rintro rfl
  exact cut.filled List.mem_cons_self

/-- The first segment of a text is determined. -/
theorem head_eq {segment next : Segment} (cut : IsSplit text (segment :: rest))
    (other : IsSplit text (next :: more)) : segment = next := by
  have same := cut.whole.trans other.whole.symm
  match segment, next with
  | .literal chars, .literal others =>
      have lengths := Nat.le_antisymm (cut.length_literal_le other) (other.length_literal_le cut)
      exact congrArg Segment.literal (List.append_inj_left same lengths)
  | .literal chars, .interpolation inside => exact absurd other.starts cut.not_starts
  | .interpolation inside, .literal chars => exact absurd cut.starts other.not_starts
  | .interpolation inside, .interpolation others =>
      have lengths :=
        Nat.le_antisymm (cut.length_interpolation_le other) (other.length_interpolation_le cut)
      simp only [List.flatMap_cons, Segment.chars_interpolation_append, List.cons.injEq,
        true_and] at same
      exact congrArg Segment.interpolation (List.append_inj_left same lengths)

end Comparing

/-- A text is cut in one way. -/
theorem unique {text : List Char} {segments others : List Segment} (cut : IsSplit text segments)
    (other : IsSplit text others) : segments = others := by
  induction segments generalizing text others with
  | nil =>
      obtain rfl : [] = text := cut.whole
      exact other.eq_nil.symm
  | cons segment rest inductionHypothesis =>
      cases others with
      | nil =>
          obtain rfl : [] = text := other.whole
          exact cut.eq_nil
      | cons next more =>
          obtain rfl := cut.head_eq other
          have behind : rest.flatMap Segment.chars = more.flatMap Segment.chars :=
            List.append_cancel_left (cut.whole.trans other.whole.symm)
          rw [inductionHypothesis cut.tail (behind ▸ other.tail)]

end IsSplit

/-- Splitting a text follows the way it is cut. -/
theorem exists_isSplit (covered : Nat) (literal chars : List Char)
    (blocked : NoStartWithin literal.reverse (chars.drop covered)) :
    ∃ segments, IsSplit (literal.reverse ++ chars.drop covered) segments ∧
      segments.map Segment.part = splitFrom covered literal chars := by
  induction chars generalizing covered literal with
  | nil =>
      rw [splitFrom, List.drop_nil, List.append_nil]
      by_cases empty : literal = []
      · subst empty
        exact ⟨[], isSplit_nil, rfl⟩
      · refine ⟨[.literal literal.reverse],
          isSplit_literal (by simpa using empty) blocked.not_hasInterpolation, ?_⟩
        simp [literalPart, empty, Segment.part]
  | cons c rest inductionHypothesis =>
      cases covered with
      | succ covered =>
          rw [splitFrom]
          exact inductionHypothesis covered literal blocked
      | zero =>
          rw [List.drop_zero] at blocked ⊢
          cases found : interpolation? (c :: rest) with
          | none =>
              have here : ¬StartsInterpolation (c :: rest) := by
                intro starts
                simpa [found] using starts.isSome
              have later := inductionHypothesis 0 (c :: literal) (by simpa using blocked.concat here)
              simpa [splitFrom, found] using later
          | some inside =>
              obtain ⟨after, whole, oneLine, first⟩ := interpolation?_eq_some found
              have behind : rest.drop (inside.length + 3) = after := by
                rw [(List.cons.inj whole).2]
                simp
              obtain ⟨segments, cut, parts⟩ :=
                inductionHypothesis (inside.length + 3) [] (noStartWithin_nil _)
              rw [behind, List.reverse_nil, List.nil_append] at cut
              have marked := cut.interpolation_cons oneLine first
              rw [← whole] at marked
              have step : splitFrom 0 literal (c :: rest) = literalPart literal ++
                  (Segment.interpolation inside :: segments).map Segment.part := by
                rw [List.map_cons, parts, splitFrom, found]
                rfl
              rw [step]
              by_cases empty : literal = []
              · subst empty
                exact ⟨_, marked, rfl⟩
              · refine ⟨_, marked.literal_cons (by simpa using empty) blocked, ?_⟩
                simp [literalPart, empty, Segment.part]

/-- A text is cut in one way, and splitting gives its segments. -/
theorem splitInterpolations_exact (text : String) :
    ∃ segments, IsSplit text.toList segments ∧
      segments.map Segment.part = splitInterpolations text ∧
      ∀ others, IsSplit text.toList others → others = segments := by
  obtain ⟨segments, cut, parts⟩ := exists_isSplit 0 [] text.toList (noStartWithin_nil _)
  exact ⟨segments, cut, parts, fun others other => other.unique cut⟩

end HtmlTemplate.Template
