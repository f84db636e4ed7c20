/-
This file says what the locations of a source are: the text of a location is what stands between its ends,
and each end has the line and the column of its offset.
-/

import HtmlTemplate.Proofs.Text.Slices
import HtmlTemplate.Source.Basic

namespace HtmlTemplate

/-- The line breaks of a text are those of its parts. -/
theorem lineBreaks_append (offset : Nat) (first second : List Char) :
    lineBreaks offset (first ++ second) =
      lineBreaks offset first ++ lineBreaks (offset + Text.byteLength first) second := by
  induction first generalizing offset with
  | nil => rfl
  | cons c rest inductionHypothesis =>
      rw [List.cons_append, lineBreaks, lineBreaks, inductionHypothesis, Text.byteLength_cons,
        Nat.add_assoc]
      split <;> rfl

/-- There is an offset for every line break. -/
theorem length_lineBreaks (offset : Nat) (chars : List Char) :
    (lineBreaks offset chars).length = chars.count '\n' := by
  induction chars generalizing offset with
  | nil => rfl
  | cons c rest inductionHypothesis =>
      rw [lineBreaks, List.count_cons]
      split <;> simp_all

theorem lineBreaks_eq_nil (offset : Nat) {chars : List Char} (none : '\n' ∉ chars) :
    lineBreaks offset chars = [] := by
  rw [← List.length_eq_zero_iff, length_lineBreaks, List.count_eq_zero_of_not_mem none]

/-- The line breaks of a text stand in it. -/
theorem bounds_of_mem_lineBreaks {offset place : Nat} {chars : List Char}
    (member : place ∈ lineBreaks offset chars) :
    offset ≤ place ∧ place < offset + Text.byteLength chars := by
  induction chars generalizing offset with
  | nil => contradiction
  | cons c rest inductionHypothesis =>
      have positive := c.utf8Size_pos
      have later (inRest : place ∈ lineBreaks (offset + c.utf8Size) rest) :
          offset ≤ place ∧ place < offset + Text.byteLength (c :: rest) := by
        obtain ⟨lower, upper⟩ := inductionHypothesis inRest
        rw [Text.byteLength_cons]
        omega
      rw [lineBreaks] at member
      split at member
      · rcases List.mem_cons.mp member with rfl | inRest
        · rw [Text.byteLength_cons]
          omega
        · exact later inRest
      · exact later member

/-- The line breaks before an offset are those of the text before it. -/
theorem takeWhile_lineBreaks (before after : List Char) :
    (lineBreaks 0 (before ++ after)).takeWhile (· < Text.byteLength before) =
      lineBreaks 0 before := by
  have below : ∀ place ∈ lineBreaks 0 before, decide (place < Text.byteLength before) = true := by
    intro place member
    simpa using (bounds_of_mem_lineBreaks member).2
  rw [lineBreaks_append, List.takeWhile_append_of_pos below, Nat.zero_add]
  cases later : lineBreaks (Text.byteLength before) after with
  | nil => exact List.append_nil _
  | cons place others =>
      have above : Text.byteLength before ≤ place :=
        (bounds_of_mem_lineBreaks (later ▸ List.mem_cons_self)).1
      rw [List.takeWhile_cons_of_neg (by simpa using above), List.append_nil]

/-- The position after a text, with its numbers kept as `kept` says. -/
structure Position.IsAfter (kept : Nat → Nat) (before : List Char) (position : Position) : Prop where
  offset : position.offset = Text.byteLength before
  line : position.line = kept (1 + before.count '\n')
  column_first : '\n' ∉ before → position.column = kept (Text.byteLength before + 1)
  column_later : ∀ earlier line, before = earlier ++ '\n' :: line → '\n' ∉ line →
    position.column = kept (Text.byteLength before - Text.byteLength earlier)

/-- The numbers of a position are kept in words. -/
theorem Position.isAfter_ofOffset {before after : List Char}
    (small : Text.byteLength before < wordSize) :
    (ofOffset (lineBreaks 0 (before ++ after)) (Text.byteLength before)).IsAfter (· % wordSize)
      before where
  offset := Nat.mod_eq_of_lt small
  line := by
    simp only [ofOffset, takeWhile_lineBreaks, length_lineBreaks, Nat.add_comm]
  column_first none := by
    simp only [ofOffset, takeWhile_lineBreaks, lineBreaks_eq_nil 0 none, List.getLast?_nil]
  column_later earlier line split none := by
    have breaks : lineBreaks 0 before = lineBreaks 0 earlier ++ [Text.byteLength earlier] := by
      rw [split, lineBreaks_append, Nat.zero_add, lineBreaks, if_pos rfl, lineBreaks_eq_nil _ none]
    simp only [ofOffset, takeWhile_lineBreaks, breaks, List.getLast?_append, List.getLast?_singleton,
      Option.some_or]

/-- Ways of keeping numbers that agree on a text agree on its position. -/
theorem Position.IsAfter.congr {kept other : Nat → Nat} {before : List Char} {position : Position}
    (isAfter : position.IsAfter kept before)
    (same : ∀ number ≤ Text.byteLength before + 1, kept number = other number) :
    position.IsAfter other before where
  offset := isAfter.offset
  line := by
    have breaks : before.count '\n' ≤ Text.byteLength before :=
      Nat.le_trans List.count_le_length (Text.length_le_byteLength before)
    rw [isAfter.line, same _ (by omega)]
  column_first none := by rw [isAfter.column_first none, same _ (Nat.le_refl _)]
  column_later earlier line split none := by
    rw [isAfter.column_later earlier line split none, same _ (by omega)]

/-- A location has the text between its ends, at their positions. -/
def Location.Covers (kept : Nat → Nat) (source : Source) (location : Location) : Prop :=
  ∃ before covered after, source.chars = before ++ (covered ++ after) ∧
    location.text = String.ofList covered ∧ location.start.IsAfter kept before ∧
    location.stop.IsAfter kept (before ++ covered)

/-- A location that is exact up to the size of a word. -/
abbrev Location.IsExact (source : Source) (location : Location) : Prop :=
  location.Covers (· % Position.wordSize) source

namespace Location.Covers

variable {kept : Nat → Nat} {source : Source} {location : Location}

/-- A location that covers a text ends behind its start. -/
theorem ordered (exact : location.Covers kept source) :
    location.start.offset ≤ location.stop.offset := by
  obtain ⟨before, covered, after, _, _, start, stop⟩ := exact
  rw [start.offset, stop.offset, Text.byteLength_append]
  exact Nat.le_add_right _ _

theorem isBoundary_start (exact : location.Covers kept source) :
    Text.IsBoundary source.chars location.start.offset := by
  obtain ⟨before, covered, after, whole, _, start, _⟩ := exact
  exact ⟨before, _, whole, start.offset⟩

theorem isBoundary_stop (exact : location.Covers kept source) :
    Text.IsBoundary source.chars location.stop.offset := by
  obtain ⟨before, covered, after, whole, _, _, stop⟩ := exact
  exact ⟨before ++ covered, after, by rw [whole, List.append_assoc], stop.offset⟩

/-- The numbers of a source that is small enough are kept as they are. -/
theorem plain (exact : location.IsExact source) (small : source.size + 1 < Position.wordSize) :
    location.Covers id source := by
  obtain ⟨before, covered, after, whole, text, start, stop⟩ := exact
  have size := source.size_eq
  rw [whole, Text.byteLength_append, Text.byteLength_append] at size
  have same : ∀ number ≤ source.size + 1, number % Position.wordSize = id number :=
    fun number bound => Nat.mod_eq_of_lt (Nat.lt_of_le_of_lt bound small)
  refine ⟨before, covered, after, whole, text, start.congr ?_, stop.congr ?_⟩
  · exact fun number bound => same number (by omega)
  · intro number bound
    rw [Text.byteLength_append] at bound
    exact same number (by omega)

end Location.Covers

/-- An exact location with the given ends. -/
structure Location.Spans (source : Source) (start stop : Nat) (location : Location) : Prop where
  exact : location.IsExact source
  start_eq : location.start.offset = start
  stop_eq : location.stop.offset = stop

namespace Source

variable {source : Source}

theorem isBoundary_size (source : Source) : Text.IsBoundary source.chars source.size :=
  ⟨source.chars, [], (List.append_nil _).symm, source.size_eq⟩

/-- Boundaries stand in the source. -/
theorem le_size_of_isBoundary {offset : Nat} (boundary : Text.IsBoundary source.chars offset) :
    offset ≤ source.size := by
  obtain ⟨before, after, whole, rfl⟩ := boundary
  rw [source.size_eq, whole, Text.byteLength_append]
  exact Nat.le_add_right _ _

/-- Ends that are in the source and in order are not moved. -/
theorem location_of_le (source : Source) {start stop : Nat} (ordered : start ≤ stop)
    (within : stop ≤ source.size) :
    source.location start stop = ⟨Position.ofOffset source.breaks start,
      Position.ofOffset source.breaks stop, source.slice start stop⟩ := by
  rw [location, Nat.min_eq_left within, Nat.min_eq_left ordered]

/-- The location between two boundaries spans what is between them. -/
theorem location_spans {start stop : Nat} (small : source.size < Position.wordSize)
    (first : Text.IsBoundary source.chars start) (last : Text.IsBoundary source.chars stop)
    (ordered : start ≤ stop) : (source.location start stop).Spans source start stop := by
  have inside := le_size_of_isBoundary last
  obtain ⟨before, covered, after, whole, startOffset, stopOffset⟩ := first.split last ordered
  have startAfter : (Position.ofOffset source.breaks start).IsAfter (· % Position.wordSize) before := by
    rw [source.breaks_eq, whole, startOffset]
    exact Position.isAfter_ofOffset (by omega)
  have stopAfter : (Position.ofOffset source.breaks stop).IsAfter (· % Position.wordSize)
      (before ++ covered) := by
    rw [source.breaks_eq, whole, stopOffset, ← List.append_assoc]
    exact Position.isAfter_ofOffset (by omega)
  have text : source.slice start stop = String.ofList covered := by
    rw [slice, whole, startOffset, stopOffset, Text.byteLength_append, Text.sliceBytes_append]
  rw [source.location_of_le ordered inside]
  exact ⟨⟨before, covered, after, whole, text, startAfter, stopAfter⟩,
    startAfter.offset.trans startOffset.symm, stopAfter.offset.trans stopOffset.symm⟩

/-- What would go on beyond the source ends with it. -/
theorem location_end (source : Source) (start : Nat) {stop : Nat} (beyond : source.size ≤ stop) :
    source.location start stop = source.location start source.size := by
  rw [location, location, Nat.min_eq_right beyond, Nat.min_self]

end Source

end HtmlTemplate
