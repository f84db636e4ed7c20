/-
This file holds patterns of text and the global replacement of what they match. A pattern is tried in a fixed
order, and the first way in which it matches counts. Replacing what a pattern matches is then replacing what a
reader finds.
-/

import HtmlTemplate.Proofs.Text.Replace

namespace HtmlTemplate.Text

/-- A pattern of text. A class of characters is given by its ranges. -/
inductive Pattern where
  | word (chars : List Char)
  | oneOf (ranges : List (Char × Char))
  | many (ranges : List (Char × Char))
  | optional (pattern : Pattern)
  | either (first second : Pattern)
  | group (pattern : Pattern)
  | followed (first second : Pattern)

/-- One way in which a pattern matches at the front of a text. -/
structure Match where
  taken : List Char
  grouped : List Char
  rest : List Char

def inRanges (ranges : List (Char × Char)) (c : Char) : Bool :=
  ranges.any fun range => decide (range.1 ≤ c) && decide (c ≤ range.2)

/-- The runs of allowed characters at the front of a text, the longest first. -/
def runs (allowed : Char → Bool) : List Char → List Match
  | [] => []
  | c :: rest =>
      if allowed c then
        (runs allowed rest).map (fun run => { run with taken := c :: run.taken }) ++ [⟨[c], [], rest⟩]
      else []

namespace Match

/-- The match of one pattern and then of another behind it. -/
def join (first second : Match) : Match :=
  ⟨first.taken ++ second.taken, first.grouped ++ second.grouped, second.rest⟩

end Match

namespace Pattern

/-- The ways in which a pattern matches, in the order they are tried. -/
def attempts : Pattern → List Char → List Match
  | .word chars, text =>
      if chars.isPrefixOf text then [⟨chars, [], text.drop chars.length⟩] else []
  | .oneOf _, [] => []
  | .oneOf ranges, c :: rest => if inRanges ranges c then [⟨[c], [], rest⟩] else []
  | .many ranges, text => runs (inRanges ranges) text
  | .optional pattern, text => pattern.attempts text ++ [⟨[], [], text⟩]
  | .either first second, text => first.attempts text ++ second.attempts text
  | .group pattern, text =>
      (pattern.attempts text).map fun found => { found with grouped := found.taken }
  | .followed first second, text =>
      (first.attempts text).flatMap fun found => (second.attempts found.rest).map found.join

/-- A pattern that takes at least one character wherever it matches. -/
def consumes : Pattern → Bool
  | .word chars => !chars.isEmpty
  | .oneOf _ => true
  | .many _ => true
  | .optional _ => false
  | .either first second => first.consumes && second.consumes
  | .group pattern => pattern.consumes
  | .followed first second => first.consumes || second.consumes

/-- A range of one character is spelled as that character. -/
def rangeText (range : Char × Char) : List Char :=
  if range.1 = range.2 then [range.1] else [range.1, '-', range.2]

/-- How a pattern is spelled between the slashes of a regular expression. -/
def text : Pattern → List Char
  | .word chars => chars
  | .oneOf ranges => '[' :: ranges.flatMap rangeText ++ [']']
  | .many ranges => '[' :: ranges.flatMap rangeText ++ [']', '+']
  | .optional pattern => pattern.text ++ ['?']
  | .either first second => first.text ++ '|' :: second.text
  | .group pattern => '(' :: pattern.text ++ [')']
  | .followed first second => first.text ++ second.text

/-- The first match in a text, with the text before it. -/
def find? (pattern : Pattern) : List Char → Option (List Char × Match)
  | [] => (pattern.attempts []).head?.map fun found => ([], found)
  | c :: rest =>
      match (pattern.attempts (c :: rest)).head? with
      | some found => some ([], found)
      | none => (pattern.find? rest).map fun (before, found) => (c :: before, found)

end Pattern

/-- A run and what it leaves make up the text. -/
theorem runs_append {allowed : Char → Bool} {text : List Char} {found : Match}
    (member : found ∈ runs allowed text) : found.taken ++ found.rest = text ∧ found.taken ≠ [] := by
  induction text generalizing found with
  | nil => exact absurd member List.not_mem_nil
  | cons c rest inductionHypothesis =>
      rw [runs] at member
      split at member
      · rcases List.mem_append.mp member with longer | single
        · obtain ⟨run, inRest, rfl⟩ := List.mem_map.mp longer
          exact ⟨congrArg (c :: ·) (inductionHypothesis inRest).1, List.cons_ne_nil _ _⟩
        · rw [List.mem_singleton.mp single]
          exact ⟨rfl, List.cons_ne_nil _ _⟩
      · exact absurd member List.not_mem_nil

/-- The run that is tried first is the longest one. -/
theorem head?_runs (allowed : Char → Bool) (text : List Char) :
    (runs allowed text).head? =
      if (text.takeWhile allowed).isEmpty then none
      else some ⟨text.takeWhile allowed, [], text.dropWhile allowed⟩ := by
  induction text with
  | nil => rfl
  | cons c rest inductionHypothesis =>
      rw [runs, List.takeWhile_cons, List.dropWhile_cons]
      by_cases allows : allowed c = true
      · rw [if_pos allows, if_pos allows, if_pos allows, List.head?_append, List.head?_map,
          inductionHypothesis]
        cases run : rest.takeWhile allowed with
        | nil =>
            have whole := List.takeWhile_append_dropWhile (p := allowed) (l := rest)
            rw [run, List.nil_append] at whole
            simp [whole]
        | cons d run => rfl
      · rw [if_neg allows, if_neg allows]
        rfl

namespace Pattern

/-- A match takes a front part of the text and leaves the rest. -/
theorem attempts_spec {pattern : Pattern} {text : List Char} {found : Match}
    (member : found ∈ pattern.attempts text) :
    found.taken ++ found.rest = text ∧ (pattern.consumes = true → found.taken ≠ []) := by
  induction pattern generalizing text found with
  | word chars =>
      rw [attempts] at member
      split at member
      · rename_i front
        obtain ⟨rest, rfl⟩ := List.isPrefixOf_iff_prefix.mp front
        rw [List.mem_singleton.mp member, List.drop_left]
        exact ⟨rfl, by simp [consumes]⟩
      · exact absurd member List.not_mem_nil
  | oneOf ranges =>
      cases text with
      | nil => exact absurd member List.not_mem_nil
      | cons c rest =>
          rw [attempts] at member
          split at member
          · rw [List.mem_singleton.mp member]
            exact ⟨rfl, fun _ => List.cons_ne_nil _ _⟩
          · exact absurd member List.not_mem_nil
  | many ranges =>
      obtain ⟨whole, filled⟩ := runs_append member
      exact ⟨whole, fun _ => filled⟩
  | optional pattern inductionHypothesis =>
      rcases List.mem_append.mp member with taken | skipped
      · exact ⟨(inductionHypothesis taken).1, fun consuming => absurd consuming Bool.false_ne_true⟩
      · rw [List.mem_singleton.mp skipped]
        exact ⟨rfl, fun consuming => absurd consuming Bool.false_ne_true⟩
  | either first second firstHypothesis secondHypothesis =>
      rw [consumes, Bool.and_eq_true]
      rcases List.mem_append.mp member with left | right
      · obtain ⟨whole, filled⟩ := firstHypothesis left
        exact ⟨whole, fun both => filled both.1⟩
      · obtain ⟨whole, filled⟩ := secondHypothesis right
        exact ⟨whole, fun both => filled both.2⟩
  | group pattern inductionHypothesis =>
      obtain ⟨inner, isInner, rfl⟩ := List.mem_map.mp member
      exact @inductionHypothesis text inner isInner
  | followed first second firstHypothesis secondHypothesis =>
      obtain ⟨before, isBefore, joined⟩ := List.mem_flatMap.mp member
      obtain ⟨behind, isBehind, rfl⟩ := List.mem_map.mp joined
      obtain ⟨firstWhole, firstFilled⟩ := firstHypothesis isBefore
      obtain ⟨secondWhole, secondFilled⟩ := secondHypothesis isBehind
      rw [consumes, Bool.or_eq_true, Match.join, List.append_assoc, secondWhole]
      refine ⟨firstWhole, ?_⟩
      rintro (left | right)
      · exact List.append_ne_nil_of_left_ne_nil (firstFilled left) _
      · exact List.append_ne_nil_of_right_ne_nil _ (secondFilled right)

/-- A word matches in front of any text. -/
theorem attempts_word_append (chars text : List Char) :
    (word chars).attempts (chars ++ text) = [⟨chars, [], text⟩] := by
  have front : chars.isPrefixOf (chars ++ text) = true :=
    List.isPrefixOf_iff_prefix.mpr (List.prefix_append chars text)
  rw [attempts, if_pos front, List.drop_left]

/-- A word matches nothing else. -/
theorem attempts_word_eq_nil {chars text : List Char} (other : ¬ chars <+: text) :
    (word chars).attempts text = [] := by
  rw [attempts, if_neg]
  exact fun front => other (List.isPrefixOf_iff_prefix.mp front)

/-- A word takes itself. -/
theorem taken_of_mem_word {chars text : List Char} {found : Match}
    (member : found ∈ (word chars).attempts text) : found.taken = chars := by
  rw [attempts] at member
  split at member
  · rw [List.mem_singleton.mp member]
  · exact absurd member List.not_mem_nil

/-- A pattern behind a single match is tried behind that match. -/
theorem attempts_followed_of_single {first : Pattern} {text : List Char} {found : Match}
    (single : first.attempts text = [found]) (second : Pattern) :
    (followed first second).attempts text = (second.attempts found.rest).map found.join := by
  rw [attempts, single, List.flatMap_singleton]

/-- A pattern behind one without matches has none. -/
theorem attempts_followed_of_nil {first : Pattern} {text : List Char}
    (none : first.attempts text = []) (second : Pattern) :
    (followed first second).attempts text = [] := by
  rw [attempts, none, List.flatMap_nil]

/-- Where the second pattern always matches, the first way of the first pattern counts. -/
theorem head?_attempts_followed (first : Pattern) {second : Pattern}
    (always : ∀ text, second.attempts text ≠ []) (text : List Char) :
    ((followed first second).attempts text).head? =
      (first.attempts text).head?.bind fun found =>
        (second.attempts found.rest).head?.map found.join := by
  rw [attempts]
  cases first.attempts text with
  | nil => rfl
  | cons found others =>
      rw [List.flatMap_cons, List.head?_append]
      cases behind : second.attempts found.rest with
      | nil => exact absurd behind (always found.rest)
      | cons next later => simp [behind]

/-- The first match stands somewhere in the text. -/
theorem find?_spec {pattern : Pattern} {text before : List Char} {found : Match}
    (first : pattern.find? text = some (before, found)) :
    ∃ behind, text = before ++ behind ∧ found ∈ pattern.attempts behind := by
  induction text generalizing before with
  | nil =>
      obtain ⟨inner, head, same⟩ := Option.map_eq_some_iff.mp first
      obtain ⟨rfl, rfl⟩ := Prod.mk.inj same
      exact ⟨[], rfl, List.mem_of_mem_head? head⟩
  | cons c rest inductionHypothesis =>
      rw [find?] at first
      split at first
      · rename_i inner head
        obtain ⟨rfl, rfl⟩ := Prod.mk.inj (Option.some.inj first)
        exact ⟨c :: rest, rfl, List.mem_of_mem_head? head⟩
      · obtain ⟨⟨later, inner⟩, inRest, same⟩ := Option.map_eq_some_iff.mp first
        obtain ⟨rfl, rfl⟩ := Prod.mk.inj same
        obtain ⟨behind, rfl, member⟩ := inductionHypothesis inRest
        exact ⟨behind, rfl, member⟩

/-- A match and what it leaves are no longer than the text. -/
theorem find?_length_le {pattern : Pattern} {text before : List Char} {found : Match}
    (first : pattern.find? text = some (before, found)) :
    found.taken.length + found.rest.length ≤ text.length := by
  obtain ⟨behind, rfl, member⟩ := find?_spec first
  have lengths := congrArg List.length (attempts_spec member).1
  rw [List.length_append] at lengths ⊢
  omega

/-- Replaces every match by what is written for its group. -/
def replaceGlobal (pattern : Pattern) (write : List Char → List Char) (text : List Char) : List Char :=
  match first : pattern.find? text with
  | none => text
  | some (before, ⟨[], grouped, []⟩) => before ++ write grouped
  | some (before, ⟨[], grouped, c :: rest⟩) =>
      have : 0 + (rest.length + 1) ≤ text.length := find?_length_le first
      before ++ (write grouped ++ c :: replaceGlobal pattern write rest)
  | some (before, ⟨_ :: taken, grouped, rest⟩) =>
      have : taken.length + 1 + rest.length ≤ text.length := find?_length_le first
      before ++ (write grouped ++ replaceGlobal pattern write rest)
termination_by text.length
decreasing_by all_goals omega

/-- The reader that finds what a pattern matches. -/
def reader (pattern : Pattern) (write : List Char → List Char) (text : List Char) :
    Option (List Char × Nat) :=
  (pattern.attempts text).head?.map fun found => (write found.grouped, found.taken.length - 1)

/-- A text without a match is not replaced. -/
theorem reader_eq_none {pattern : Pattern} {text : List Char} (unmatched : pattern.attempts text = [])
    (write : List Char → List Char) : pattern.reader write text = none := by
  rw [reader, unmatched]
  rfl

section

variable {pattern : Pattern} (consuming : pattern.consumes = true) (write : List Char → List Char)
include consuming

/-- A match is not empty. -/
theorem taken_ne_nil {text before : List Char} {found : Match}
    (first : pattern.find? text = some (before, found)) : found.taken ≠ [] := by
  obtain ⟨_, _, member⟩ := find?_spec first
  exact (attempts_spec member).2 consuming

theorem find?_nil : pattern.find? [] = none := by
  apply Option.eq_none_iff_forall_ne_some.mpr
  rintro ⟨before, found⟩ first
  have short : found.taken.length + found.rest.length ≤ 0 := find?_length_le first
  exact taken_ne_nil consuming first (List.eq_nil_of_length_eq_zero (by omega))

/-- Reading from the left meets the first match first. -/
theorem replaceAll_reader (text : List Char) :
    replaceAll (pattern.reader write) text =
      match pattern.find? text with
      | none => text
      | some (before, found) =>
          before ++ (write found.grouped ++ replaceAll (pattern.reader write) found.rest) := by
  induction text with
  | nil =>
      rw [find?_nil consuming]
      rfl
  | cons c rest inductionHypothesis =>
      rw [find?]
      cases head : (pattern.attempts (c :: rest)).head? with
      | none =>
          rw [replaceAll_kept (by rw [reader, head]; rfl), inductionHypothesis]
          cases pattern.find? rest <;> rfl
      | some found =>
          obtain ⟨whole, filled⟩ := attempts_spec (List.mem_of_mem_head? head)
          obtain ⟨taken, grouped, behind⟩ := found
          cases taken with
          | nil => exact absurd rfl (filled consuming)
          | cons d word =>
              obtain ⟨rfl, rfl⟩ := List.cons.inj whole
              have found : pattern.reader write (d :: (word ++ behind)) =
                  some (write grouped, word.length) :=
                congrArg (Option.map _) head
              exact replaceAll_found found

/-- The global replacement reads the text from left to right. -/
theorem replaceGlobal_eq (text : List Char) :
    pattern.replaceGlobal write text = replaceAll (pattern.reader write) text := by
  fun_induction replaceGlobal pattern write text with
  | case1 text first => rw [replaceAll_reader consuming, first]
  | case2 text before grouped first => exact absurd rfl (taken_ne_nil consuming first)
  | case3 text before grouped c rest first _ inductionHypothesis =>
      exact absurd rfl (taken_ne_nil consuming first)
  | case4 text before c taken grouped rest first _ inductionHypothesis =>
      rw [replaceAll_reader consuming, first, inductionHypothesis]

end

end Pattern

end HtmlTemplate.Text
