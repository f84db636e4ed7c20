/-
This file gives the grammar of the values of loop directives. A strict reading accepts exactly the values
that the grammar spells, each in one way.
-/

import HtmlTemplate.Proofs.Template.Directive

namespace HtmlTemplate

namespace Template

/-- A trimmed value that goes on with the word `in` after its first part. -/
theorem ForClause.parse?_of_trim {chars iterator gap content : List Char}
    (kept : (iterator.all fun c => !Text.isWhiteSpace c) = true)
    (blank : gap.all Text.isWhiteSpace = true) (filled : gap ≠ [])
    (trimmed : Text.trim chars = iterator ++ (gap ++ 'i' :: 'n' :: content)) :
    parse? chars =
      if (content.head?.any Text.isWhiteSpace) && Text.isIdentifier iterator &&
          !(Text.trim content).isEmpty then
        some ⟨String.ofList iterator, String.ofList (Text.trim content)⟩
      else none := by
  obtain ⟨first, others, rfl⟩ := List.exists_cons_of_ne_nil filled
  rw [List.all_cons, Bool.and_eq_true] at blank
  have stops : Text.Stops (fun c => !Text.isWhiteSpace c)
      (first :: others ++ 'i' :: 'n' :: content) :=
    Text.stops_cons _ (by rw [blank.1]; rfl)
  have word : Text.trimStart ((first :: others ++ 'i' :: 'n' :: content).drop 1) =
      'i' :: 'n' :: content := Text.trimStart_word blank.2 (Text.stops_cons _ rfl)
  simp only [parse?, trimmed, Text.takeWhile_word kept stops, Text.dropWhile_word kept stops, word]

/-- What is accepted has the word `in` after its first part. -/
theorem ForClause.parse?_eq_some {chars : List Char} {clause : ForClause}
    (parsed : parse? chars = some clause) :
    ∃ content,
      Text.trimStart (((Text.trim chars).dropWhile fun c => !Text.isWhiteSpace c).drop 1) =
        'i' :: 'n' :: content ∧
      content.head?.any Text.isWhiteSpace = true ∧
      Text.isIdentifier ((Text.trim chars).takeWhile fun c => !Text.isWhiteSpace c) = true ∧
      Text.trim content ≠ [] ∧
      clause = ⟨String.ofList ((Text.trim chars).takeWhile fun c => !Text.isWhiteSpace c),
        String.ofList (Text.trim content)⟩ := by
  unfold parse? at parsed
  dsimp only at parsed
  split at parsed
  · rename_i content word
    split at parsed
    · rename_i accepted
      simp only [Bool.and_eq_true, Bool.not_eq_true', List.isEmpty_eq_false_iff] at accepted
      obtain ⟨⟨parted, identifier⟩, filled⟩ := accepted
      exact ⟨content, word, parted, identifier, filled, (Option.some.inj parsed).symm⟩
    · contradiction
  · contradiction

/-- The value of a loop directive as the grammar spells it. -/
@[ext] structure ForSpelling where
  lead : List Char
  iterator : List Char
  gap : List Char
  between : List Char
  source : List Char
  trail : List Char
  leadBlank : lead.all Text.isWhiteSpace = true
  isIdentifier : Text.IsIdentifier iterator
  gapBlank : gap.all Text.isWhiteSpace = true
  gapFilled : gap ≠ []
  betweenBlank : between.all Text.isWhiteSpace = true
  betweenFilled : between ≠ []
  sourceFilled : source ≠ []
  sourceTrimmed : Text.IsTrimmed source
  trailBlank : trail.all Text.isWhiteSpace = true

namespace ForSpelling

/-- The characters from the word `in` on. -/
def rest (spelling : ForSpelling) : List Char :=
  'i' :: 'n' :: (spelling.between ++ (spelling.source ++ spelling.trail))

def chars (spelling : ForSpelling) : List Char :=
  spelling.lead ++ (spelling.iterator ++ (spelling.gap ++ spelling.rest))

def clause (spelling : ForSpelling) : ForClause :=
  ⟨String.ofList spelling.iterator, String.ofList spelling.source⟩

/-- The identifier opens without white space. -/
theorem iterator_opens (spelling : ForSpelling) (tail : List Char) :
    Text.Stops Text.isWhiteSpace (spelling.iterator ++ tail) :=
  spelling.isIdentifier.opens.append spelling.isIdentifier.filled tail

/-- The expression opens without white space. -/
theorem source_opens (spelling : ForSpelling) (tail : List Char) :
    Text.Stops Text.isWhiteSpace (spelling.source ++ tail) :=
  Text.Stops.append spelling.sourceTrimmed.opens spelling.sourceFilled tail

/-- The identifier has no white space. -/
theorem iterator_kept (spelling : ForSpelling) :
    (spelling.iterator.all fun c => !Text.isWhiteSpace c) = true := by
  rw [List.all_eq_true]
  intro c member
  rw [spelling.isIdentifier.isWhiteSpace_eq_false member]
  rfl

/-- What stands between the outer white space is trimmed. -/
theorem trim_chars (spelling : ForSpelling) :
    Text.trim spelling.chars = spelling.iterator ++
      (spelling.gap ++ 'i' :: 'n' :: (spelling.between ++ spelling.source)) := by
  let core := spelling.iterator ++
    (spelling.gap ++ 'i' :: 'n' :: (spelling.between ++ spelling.source))
  have whole : spelling.chars = spelling.lead ++ (core ++ spelling.trail) := by
    simp [chars, rest, core]
  have filled : core ≠ [] := List.append_ne_nil_of_left_ne_nil spelling.isIdentifier.filled _
  have closes : ∀ c ∈ core.getLast?, Text.isWhiteSpace c = false := by
    have split : core = (spelling.iterator ++ (spelling.gap ++ 'i' :: 'n' :: spelling.between)) ++
        spelling.source := by simp [core]
    rw [split, List.getLast?_append_of_ne_nil _ spelling.sourceFilled]
    exact spelling.sourceTrimmed.closes
  rw [whole]
  exact Text.trim_padded spelling.leadBlank filled ⟨spelling.iterator_opens _, closes⟩
    spelling.trailBlank

/-- A value that the grammar spells is accepted. -/
theorem parse?_chars (spelling : ForSpelling) :
    ForClause.parse? spelling.chars = some spelling.clause := by
  have source : Text.trim (spelling.between ++ spelling.source) = spelling.source := by
    have padded := Text.trim_padded spelling.betweenBlank spelling.sourceFilled
      spelling.sourceTrimmed (List.all_nil)
    rwa [List.append_nil] at padded
  have parted : (spelling.between ++ spelling.source).head?.any Text.isWhiteSpace = true := by
    rw [List.head?_append_of_ne_nil _ spelling.betweenFilled]
    exact Text.head_isWhiteSpace spelling.betweenBlank spelling.betweenFilled
  rw [ForClause.parse?_of_trim spelling.iterator_kept spelling.gapBlank spelling.gapFilled
    spelling.trim_chars, source, parted, (Text.isIdentifier_iff _).mpr spelling.isIdentifier]
  simp [spelling.sourceFilled, clause]

/-- A value is spelled in one way only. -/
theorem chars_injective : Function.Injective chars := by
  intro first second same
  have read : first.clause = second.clause :=
    Option.some.inj (by rw [← parse?_chars, ← parse?_chars, same])
  simp only [clause, ForClause.mk.injEq, String.ofList_inj] at read
  obtain ⟨iterator, source⟩ := read
  -- Every run of white space ends where a part starts that is known.
  obtain ⟨lead, named⟩ := Text.blanks_inj first.leadBlank second.leadBlank
    (first.iterator_opens _) (second.iterator_opens _) same
  rw [iterator] at named
  obtain ⟨gap, word⟩ := Text.blanks_inj first.gapBlank second.gapBlank (Text.stops_cons _ rfl)
    (Text.stops_cons _ rfl) (List.append_cancel_left named)
  simp only [List.cons.injEq, true_and] at word
  obtain ⟨between, ends⟩ := Text.blanks_inj first.betweenBlank second.betweenBlank
    (first.source_opens _) (second.source_opens _) word
  rw [source] at ends
  exact ForSpelling.ext lead iterator gap between source (List.append_cancel_left ends)

end ForSpelling

/-- A value that is accepted is spelled by the grammar. -/
theorem ForClause.exists_spelling_of_parse? {chars : List Char} {clause : ForClause}
    (parsed : parse? chars = some clause) :
    ∃ spelling : ForSpelling, spelling.chars = chars ∧ spelling.clause = clause := by
  obtain ⟨content, word, parted, identifier, filled, rfl⟩ := parse?_eq_some parsed
  obtain ⟨lead, trail, leadBlank, trailBlank, whole⟩ := Text.exists_trim_padded chars
  obtain ⟨gap, gapBlank, gapFilled, value⟩ := Text.exists_gap word (List.cons_ne_nil _ _)
  have more : content ≠ [] := by
    rintro rfl
    contradiction
  have closes : ∀ c ∈ content.getLast?, Text.isWhiteSpace c = false := by
    have last := (Text.isTrimmed_trim chars).closes
    have split : Text.trim chars =
        ((Text.trim chars).takeWhile (fun c => !Text.isWhiteSpace c) ++ (gap ++ ['i', 'n'])) ++
          content := by
      rw [List.append_assoc, List.append_assoc]
      exact value
    rwa [split, List.getLast?_append_of_ne_nil _ more] at last
  obtain ⟨between, betweenBlank, betweenFilled, parts⟩ := Text.exists_trim_blanks parted closes
  refine ⟨⟨lead, _, gap, between, Text.trim content, trail, leadBlank,
    (Text.isIdentifier_iff _).mp identifier, gapBlank, gapFilled, betweenBlank, betweenFilled,
    filled, Text.isTrimmed_trim content, trailBlank⟩, ?_, rfl⟩
  rw [ForSpelling.chars, ForSpelling.rest, ← List.append_assoc between, ← parts]
  calc lead ++ ((Text.trim chars).takeWhile (fun c => !Text.isWhiteSpace c) ++
        (gap ++ 'i' :: 'n' :: (content ++ trail)))
    _ = lead ++ (((Text.trim chars).takeWhile (fun c => !Text.isWhiteSpace c) ++
        (gap ++ 'i' :: 'n' :: content)) ++ trail) := by simp only [List.append_assoc, List.cons_append]
    _ = lead ++ (Text.trim chars ++ trail) := by rw [← value]
    _ = chars := whole.symm

/-- The grammar spells exactly the values that are accepted. -/
theorem ForClause.parse?_eq_some_iff {chars : List Char} {clause : ForClause} :
    parse? chars = some clause ↔
      ∃ spelling : ForSpelling, spelling.chars = chars ∧ spelling.clause = clause := by
  refine ⟨exists_spelling_of_parse?, ?_⟩
  rintro ⟨spelling, rfl, rfl⟩
  exact spelling.parse?_chars

/-- The grammar refuses exactly what it does not spell. -/
theorem ForClause.parse?_eq_none_iff {chars : List Char} :
    parse? chars = none ↔ ∀ spelling : ForSpelling, spelling.chars ≠ chars := by
  rw [Option.eq_none_iff_forall_ne_some]
  constructor
  · intro rejected spelling same
    exact rejected spelling.clause (parse?_eq_some_iff.mpr ⟨spelling, same, rfl⟩)
  · intro unspelled clause parsed
    obtain ⟨spelling, same, _⟩ := parse?_eq_some_iff.mp parsed
    exact unspelled spelling same

/-- A value is read strictly exactly if it is spelled. -/
theorem ForClause.read_strict_eq_ok_iff {value : String} {location : Location} {clause : ForClause} :
    read true value location = .ok clause ↔
      ∃ spelling : ForSpelling, spelling.chars = value.toList ∧ spelling.clause = clause := by
  rw [← parse?_eq_some_iff, read, if_pos rfl]
  cases parse? value.toList <;> simp

/-- Strictly, a loop value is accepted exactly if the grammar spells it. -/
theorem ForClause.read_strict_iff (value : String) (location : Location) :
    (∀ clause, read true value location = .ok clause ↔
      ∃ spelling : ForSpelling, spelling.chars = value.toList ∧ spelling.clause = clause) ∧
    Function.Injective ForSpelling.chars ∧
    ∀ fault, read true value location = .error fault ↔
      (∀ spelling : ForSpelling, spelling.chars ≠ value.toList) ∧
        fault =
          { code := .malformedForExpression
            location := some location
            detail := some ("for=\"" ++ value ++ "\"") } := by
  refine ⟨fun clause => read_strict_eq_ok_iff, ForSpelling.chars_injective, ?_⟩
  intro fault
  rw [← parse?_eq_none_iff, read, if_pos rfl]
  cases parse? value.toList <;> simp [eq_comm]

end Template

end HtmlTemplate
