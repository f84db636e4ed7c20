/-
This file compares the two readings of loop values. A lenient reading takes the first and the third piece
between single spaces, and gives the parts of a well-formed value only if its spaces stand in a certain way.
-/

import HtmlTemplate.Proofs.Template.LoopValues

namespace HtmlTemplate.Template

namespace ForClause

theorem all_noSpace {word : List Char} (apart : ' ' ∉ word) : word.all (· != ' ') = true := by
  rw [List.all_eq_true]
  intro c member
  rw [bne_iff_ne]
  rintro rfl
  exact apart member

/-- A piece ends before a space, or with the value. -/
theorem takeWhile_eq_word_iff {word tail : List Char} :
    (word ++ tail).takeWhile (· != ' ') = word ↔ ' ' ∉ word ∧ ∀ c ∈ tail.head?, c = ' ' := by
  constructor
  · intro taken
    have apart : ' ' ∉ word := by
      intro member
      rw [← taken] at member
      simpa using List.mem_takeWhile_imp member
    rw [List.takeWhile_append_of_pos (List.all_eq_true.mp (all_noSpace apart)),
      List.append_right_eq_self] at taken
    refine ⟨apart, ?_⟩
    intro c isHead
    cases tail with
    | nil => contradiction
    | cons first others =>
        obtain rfl : first = c := Option.some.inj isHead
        simpa using taken
  · rintro ⟨apart, ends⟩
    refine Text.takeWhile_word (all_noSpace apart) ?_
    intro c isHead
    rw [ends c isHead]
    rfl

/-- No white space stands before a piece that is a word. -/
theorem eq_nil_of_takeWhile {blanks word tail : List Char}
    (blank : blanks.all Text.isWhiteSpace = true) (filled : word ≠ [])
    (opens : ∀ c ∈ word.head?, Text.isWhiteSpace c = false)
    (taken : (blanks ++ tail).takeWhile (· != ' ') = word) : blanks = [] := by
  cases blanks with
  | nil => rfl
  | cons first others =>
      rw [List.all_cons, Bool.and_eq_true] at blank
      rw [List.cons_append, List.takeWhile_cons] at taken
      split at taken
      · have visible := opens first (by rw [← taken]; rfl)
        rw [blank.1] at visible
        contradiction
      · exact absurd taken.symm filled

/-- The pieces behind a space are counted from there. -/
theorem piece?_succ {word : List Char} (apart : ' ' ∉ word) (number : Nat) (rest : List Char) :
    piece? (number + 1) (word ++ ' ' :: rest) = piece? number rest := by
  rw [piece?, Text.dropWhile_word (all_noSpace apart) (Text.stops_cons rest rfl)]

/-- A word without spaces is the only piece. -/
theorem piece?_succ_eq_none {word : List Char} (apart : ' ' ∉ word) (number : Nat) :
    piece? (number + 1) word = none := by
  rw [piece?, List.dropWhile_eq_nil_iff.mpr (List.all_eq_true.mp (all_noSpace apart))]

/-- A guess takes the first and the third piece. -/
theorem guess_eq_iff {chars iterator source : List Char} :
    guess chars = ⟨String.ofList iterator, String.ofList source⟩ ↔
      chars.takeWhile (· != ' ') = iterator ∧ (piece? 2 chars).getD "undefined".toList = source := by
  have third : ((piece? 2 chars).map String.ofList).getD "undefined" =
      String.ofList ((piece? 2 chars).getD "undefined".toList) := by
    cases piece? 2 chars with
    | none => exact String.ofList_toList.symm
    | some word => rfl
  rw [guess]
  simp only [third, ForClause.mk.injEq, String.ofList_inj]
  simp only [piece?, Option.map_some, Option.getD_some, String.ofList_inj]

end ForClause

namespace ForSpelling

/-- The ways in which the first and third piece are identifier and expression. -/
inductive AgreesInPieces (spelling : ForSpelling) : Prop where
  /-- One space stands before the word `in`, and one between that word and the expression, right before
  it. The expression has no space, and goes up to one or to the end of the value. -/
  | third (before after : List Char) (lead : spelling.lead = [])
      (gap : spelling.gap = ' ' :: before) (noSpaceBefore : ' ' ∉ before)
      (between : spelling.between = after ++ [' ']) (noSpaceAfter : ' ' ∉ after)
      (source : ' ' ∉ spelling.source) (trail : ∀ c ∈ spelling.trail.head?, c = ' ')
  /-- The third piece is the word `in`, and the expression is the same word. -/
  | keyword (before : List Char) (lead : spelling.lead = [])
      (gap : spelling.gap = ' ' :: (before ++ [' '])) (noSpaceBefore : ' ' ∉ before)
      (between : spelling.between.head? = some ' ') (source : spelling.source = ['i', 'n'])
  /-- There is no third piece, and the expression is the word that stands for a missing one. -/
  | missing (before : List Char) (lead : spelling.lead = [])
      (gap : spelling.gap = ' ' :: before) (noSpaceBefore : ' ' ∉ before)
      (between : ' ' ∉ spelling.between) (source : spelling.source = "undefined".toList)
      (trail : ' ' ∉ spelling.trail)

/-- The identifier has no space. -/
theorem noSpace_iterator (spelling : ForSpelling) : ' ' ∉ spelling.iterator := by
  intro member
  have visible := spelling.isIdentifier.isWhiteSpace_eq_false member
  contradiction

/-- The first piece is the identifier exactly if a space follows it. -/
theorem takeWhile_chars_iff (spelling : ForSpelling) :
    spelling.chars.takeWhile (· != ' ') = spelling.iterator ↔
      spelling.lead = [] ∧ spelling.gap.head? = some ' ' := by
  obtain ⟨first, others, gap⟩ := List.exists_cons_of_ne_nil spelling.gapFilled
  constructor
  · intro taken
    have lead : spelling.lead = [] :=
      ForClause.eq_nil_of_takeWhile spelling.leadBlank spelling.isIdentifier.filled
        spelling.isIdentifier.opens taken
    rw [chars, lead, List.nil_append, ForClause.takeWhile_eq_word_iff, gap] at taken
    rw [gap, taken.2 first rfl]
    exact ⟨lead, rfl⟩
  · rintro ⟨lead, space⟩
    rw [gap, List.head?_cons, Option.some.injEq] at space
    rw [chars, lead, List.nil_append, ForClause.takeWhile_eq_word_iff, gap]
    exact ⟨spelling.noSpace_iterator, fun c isHead => (Option.some.inj isHead).symm.trans space⟩

/-- The third piece is the second one after the first space. -/
theorem piece?_chars (spelling : ForSpelling) {before : List Char} (lead : spelling.lead = [])
    (gap : spelling.gap = ' ' :: before) :
    ForClause.piece? 2 spelling.chars = ForClause.piece? 1 (before ++ spelling.rest) := by
  rw [chars, lead, gap, List.nil_append, List.cons_append]
  exact ForClause.piece?_succ spelling.noSpace_iterator 1 _

/-- An expression at the piece of the word `in` is that word. -/
theorem source_eq_in (spelling : ForSpelling)
    (taken : spelling.rest.takeWhile (· != ' ') = spelling.source) :
    spelling.between.head? = some ' ' ∧ spelling.source = ['i', 'n'] := by
  have noSpace : ' ' ∉ spelling.source := by
    intro member
    rw [← taken] at member
    simpa using List.mem_takeWhile_imp member
  have word : 'i' :: 'n' :: (spelling.between ++ (spelling.source ++ spelling.trail)).takeWhile
      (· != ' ') = spelling.source := taken
  by_cases inBetween : ' ' ∈ spelling.between
  · obtain ⟨first, second, between, apart⟩ := List.eq_append_cons_of_mem inBetween
    have ends : (spelling.between ++ (spelling.source ++ spelling.trail)).takeWhile (· != ' ') =
        first := by
      rw [between, List.append_assoc]
      exact ForClause.takeWhile_eq_word_iff.mpr ⟨apart, by simp⟩
    rw [ends] at word
    -- The expression does not end with white space, so that none stands before the space.
    have none : first = [] := by
      by_contra filled
      have isLast : first.getLast filled ∈ spelling.source.getLast? := by
        rw [← word]
        exact (List.getLast?_append_of_ne_nil ['i', 'n'] filled).trans
          (List.getLast?_eq_some_getLast filled)
      have blank := List.all_eq_true.mp spelling.betweenBlank (first.getLast filled) (by
        rw [between]
        exact List.mem_append_left _ (List.getLast_mem filled))
      rw [spelling.sourceTrimmed.closes _ isLast] at blank
      contradiction
    rw [none] at word between
    rw [between]
    exact ⟨rfl, word.symm⟩
  · -- Without a space before it the piece would go on with the expression and be longer than it.
    have longer := congrArg List.length word
    rw [List.takeWhile_append_of_pos (List.all_eq_true.mp (ForClause.all_noSpace inBetween)),
      List.takeWhile_append_of_pos (List.all_eq_true.mp (ForClause.all_noSpace noSpace))] at longer
    simp only [List.length_cons, List.length_append] at longer
    omega

/-- Where the spaces stand if the second piece after the first is the expression. -/
theorem agreesInPieces_of_piece? (spelling : ForSpelling) {before : List Char}
    (lead : spelling.lead = []) (gap : spelling.gap = ' ' :: before)
    (second : (ForClause.piece? 1 (before ++ spelling.rest)).getD "undefined".toList =
      spelling.source) : spelling.AgreesInPieces := by
  have taken {word tail : List Char} (split : before ++ spelling.rest = word ++ ' ' :: tail)
      (apart : ' ' ∉ word) : tail.takeWhile (· != ' ') = spelling.source := by
    rwa [split, ForClause.piece?_succ apart] at second
  have noBlanks {blanks tail : List Char} (blank : blanks.all Text.isWhiteSpace = true)
      (here : (blanks ++ tail).takeWhile (· != ' ') = spelling.source) : blanks = [] :=
    ForClause.eq_nil_of_takeWhile blank spelling.sourceFilled spelling.sourceTrimmed.opens here
  by_cases inGap : ' ' ∈ before
  · obtain ⟨first, later, rfl, apart⟩ := List.eq_append_cons_of_mem inGap
    have blank := spelling.gapBlank
    simp only [gap, List.all_cons, List.all_append, Bool.and_eq_true] at blank
    have here := taken (List.append_assoc first (' ' :: later) spelling.rest) apart
    obtain rfl := noBlanks blank.2.2.2 here
    obtain ⟨between, source⟩ := spelling.source_eq_in here
    exact .keyword first lead gap apart between source
  by_cases inBetween : ' ' ∈ spelling.between
  · obtain ⟨first, later, between, apart⟩ := List.eq_append_cons_of_mem inBetween
    have blank := spelling.betweenBlank
    simp only [between, List.all_cons, List.all_append, Bool.and_eq_true] at blank
    have here : (later ++ (spelling.source ++ spelling.trail)).takeWhile (· != ' ') =
        spelling.source :=
      @taken (before ++ 'i' :: 'n' :: first) _ (by simp [rest, between]) (by simp [inGap, apart])
    obtain rfl := noBlanks blank.2.2 here
    rw [List.nil_append] at here
    obtain ⟨source, trail⟩ := ForClause.takeWhile_eq_word_iff.mp here
    exact .third before first lead gap inGap between apart source trail
  by_cases inSource : ' ' ∈ spelling.source
  · obtain ⟨first, later, source, apart⟩ := List.eq_append_cons_of_mem inSource
    have here : (later ++ spelling.trail).takeWhile (· != ' ') = spelling.source :=
      @taken (before ++ 'i' :: 'n' :: (spelling.between ++ first)) _ (by simp [rest, source])
        (by simp [inGap, inBetween, apart])
    rw [← here] at inSource
    exact absurd (List.mem_takeWhile_imp inSource) (by simp)
  by_cases inTrail : ' ' ∈ spelling.trail
  · obtain ⟨first, later, trail, apart⟩ := List.eq_append_cons_of_mem inTrail
    have blank := spelling.trailBlank
    simp only [trail, List.all_cons, List.all_append, Bool.and_eq_true] at blank
    have here : (later ++ []).takeWhile (· != ' ') = spelling.source :=
      @taken (before ++ 'i' :: 'n' :: (spelling.between ++ (spelling.source ++ first))) _
        (by simp [rest, trail]) (by simp [inGap, inBetween, inSource, apart])
    obtain rfl := noBlanks blank.2.2 here
    exact absurd here.symm spelling.sourceFilled
  · have none : ForClause.piece? 1 (before ++ spelling.rest) = none :=
      ForClause.piece?_succ_eq_none (by simp [rest, inGap, inBetween, inSource, inTrail]) 0
    rw [none] at second
    exact .missing before lead gap inGap inBetween second.symm inTrail

/-- A guess is right where the pieces agree. -/
theorem guess_of_agreesInPieces {spelling : ForSpelling} (agrees : spelling.AgreesInPieces) :
    ForClause.guess spelling.chars = spelling.clause := by
  rw [clause, ForClause.guess_eq_iff, takeWhile_chars_iff]
  cases agrees with
  | third before after lead gap noSpaceBefore between noSpaceAfter source trail =>
      refine ⟨⟨lead, by rw [gap]; rfl⟩, ?_⟩
      have split : before ++ spelling.rest =
          (before ++ 'i' :: 'n' :: after) ++ ' ' :: (spelling.source ++ spelling.trail) := by
        simp [rest, between]
      rw [piece?_chars spelling lead gap, split,
        ForClause.piece?_succ (by simp [noSpaceBefore, noSpaceAfter])]
      exact ForClause.takeWhile_eq_word_iff.mpr ⟨source, trail⟩
  | keyword before lead gap noSpaceBefore between source =>
      refine ⟨⟨lead, by rw [gap]; rfl⟩, ?_⟩
      rw [piece?_chars spelling lead gap, List.append_assoc, List.singleton_append,
        ForClause.piece?_succ noSpaceBefore, source]
      have follows : ∀ c ∈ (spelling.between ++ (spelling.source ++ spelling.trail)).head?, c = ' ' := by
        rw [List.head?_append_of_ne_nil _ spelling.betweenFilled, between]
        exact fun c isHead => (Option.some.inj isHead).symm
      exact (@ForClause.takeWhile_eq_word_iff ['i', 'n'] _).mpr ⟨by decide, follows⟩
  | missing before lead gap noSpaceBefore between source trail =>
      refine ⟨⟨lead, by rw [gap]; rfl⟩, ?_⟩
      have none : ForClause.piece? 1 (before ++ spelling.rest) = none :=
        ForClause.piece?_succ_eq_none (by simp [rest, noSpaceBefore, between, source, trail]) 0
      rw [piece?_chars spelling lead gap, none, source]
      rfl

/-- A lenient reading gives the parts exactly if the spaces stand so. -/
theorem guess_chars_iff (spelling : ForSpelling) :
    ForClause.guess spelling.chars = spelling.clause ↔ spelling.AgreesInPieces := by
  refine ⟨fun guessed => ?_, guess_of_agreesInPieces⟩
  rw [clause, ForClause.guess_eq_iff, takeWhile_chars_iff] at guessed
  obtain ⟨⟨lead, space⟩, third⟩ := guessed
  obtain ⟨first, before, gap⟩ := List.exists_cons_of_ne_nil spelling.gapFilled
  rw [gap, List.head?_cons, Option.some.injEq] at space
  subst space
  rw [piece?_chars spelling lead gap] at third
  exact agreesInPieces_of_piece? spelling lead gap third

end ForSpelling

/-- Both readings agree exactly if the spaces part the value as the grammar does. -/
theorem ForClause.readings_agree_iff (value : String) (location : Location) (clause : ForClause) :
    (read true value location = .ok clause ∧ read false value location = .ok clause) ↔
      ∃ spelling : ForSpelling, spelling.chars = value.toList ∧ spelling.clause = clause ∧
        spelling.AgreesInPieces := by
  have lenient : read false value location = .ok (guess value.toList) := rfl
  rw [read_strict_eq_ok_iff, lenient, Except.ok.injEq]
  constructor
  · rintro ⟨⟨spelling, same, rfl⟩, guessed⟩
    rw [← same] at guessed
    exact ⟨spelling, same, rfl, spelling.guess_chars_iff.mp guessed⟩
  · rintro ⟨spelling, same, rfl, agrees⟩
    rw [← same]
    exact ⟨⟨spelling, rfl, rfl⟩, spelling.guess_chars_iff.mpr agrees⟩

/-- A lenient reading cuts the expression off at its first space. -/
theorem ForClause.read_lenient_cuts_expression :
    read true "row in data.rows.slice(0, 3)" .stub = .ok ⟨"row", "data.rows.slice(0, 3)"⟩ ∧
      read false "row in data.rows.slice(0, 3)" .stub = .ok ⟨"row", "data.rows.slice(0,"⟩ := by
  decide +kernel

end HtmlTemplate.Template
