/-
This file compares the line breaks that are met while a source is cut into segments with those of the whole
source. A scan visits every character but the last two of a comment, so they are the same, also for offsets
beyond the end of the source. The line of an offset is one more than the number of line breaks before it, which
is where every search among them ends, and the column is counted from the last of them. Lines and columns are
kept in words, which hold them for all offsets but the greatest word.
-/

import HtmlTemplate.Proofs.Markup.Placement
import HtmlTemplate.Proofs.Source.Positions
import Mathlib.Data.List.Perm.Subperm
import Mathlib.Data.List.TakeWhile

namespace HtmlTemplate

/-- The offsets of all line breaks of a text, in increasing order. -/
structure AreBreaks (chars : List Char) (breaks : List Nat) : Prop where
  increasing : breaks.Pairwise (· < ·)
  mem_iff : ∀ place, place ∈ breaks ↔
    ∃ before after, chars = before ++ '\n' :: after ∧ place = Text.byteLength before

/-- Line breaks stand where the line feeds are. -/
theorem mem_lineBreaks {offset place : Nat} {chars : List Char} :
    place ∈ lineBreaks offset chars ↔
      ∃ before after, chars = before ++ '\n' :: after ∧ place = offset + Text.byteLength before := by
  constructor
  · intro member
    induction chars generalizing offset with
    | nil => contradiction
    | cons c rest inductionHypothesis =>
        have later (inRest : place ∈ lineBreaks (offset + c.utf8Size) rest) :
            ∃ before after, c :: rest = before ++ '\n' :: after ∧
              place = offset + Text.byteLength before := by
          obtain ⟨before, after, rfl, rfl⟩ := inductionHypothesis inRest
          exact ⟨c :: before, after, rfl, Nat.add_assoc _ _ _⟩
        rw [lineBreaks] at member
        split at member
        · rename_i isBreak
          rcases List.mem_cons.mp member with rfl | inRest
          · exact ⟨[], rest, by rw [isBreak, List.nil_append], rfl⟩
          · exact later inRest
        · exact later member
  · rintro ⟨before, after, rfl, rfl⟩
    rw [lineBreaks_append, lineBreaks, if_pos rfl]
    exact List.mem_append_right _ List.mem_cons_self

/-- Line breaks are in increasing order. -/
theorem pairwise_lineBreaks (offset : Nat) (chars : List Char) :
    (lineBreaks offset chars).Pairwise (· < ·) := by
  induction chars generalizing offset with
  | nil => exact .nil
  | cons c rest inductionHypothesis =>
      rw [lineBreaks]
      split
      · refine .cons ?_ (inductionHypothesis _)
        intro place member
        exact Nat.lt_of_lt_of_le (Nat.lt_add_of_pos_right c.utf8Size_pos)
          (bounds_of_mem_lineBreaks member).1
      · exact inductionHypothesis _

/-- The line breaks of a text are its line feeds. -/
theorem areBreaks_lineBreaks (chars : List Char) : AreBreaks chars (lineBreaks 0 chars) where
  increasing := pairwise_lineBreaks 0 chars
  mem_iff place := by simp only [mem_lineBreaks, Nat.zero_add]

/-- Where a search for an offset may end: there or where it belongs. -/
def IsSearchEnd (places : List Nat) (offset index : Nat) : Prop :=
  places[index]? = some offset ∨
    index ≤ places.length ∧ (∀ place ∈ places.take index, place < offset) ∧
      ∀ place ∈ places.drop index, offset < place

section

variable {places : List Nat} {offset : Nat}

/-- The offsets below a place are those in front. -/
theorem countP_of_split {before after : List Nat} (below : ∀ place ∈ before, place < offset)
    (above : ∀ place ∈ after, offset ≤ place) :
    (before ++ after).countP (· < offset) = before.length := by
  have all : before.countP (· < offset) = before.length :=
    List.countP_eq_length.mpr fun place member => decide_eq_true (below place member)
  have none : after.countP (· < offset) = 0 :=
    List.countP_eq_zero.mpr fun place member => by simpa using above place member
  rw [List.countP_append, all, none, Nat.add_zero]

theorem lt_of_mem_takeWhile : ∀ place ∈ places.takeWhile (· < offset), place < offset := by
  intro place member
  simpa using List.mem_takeWhile_imp member

/-- Behind the offsets below a place there are no more. -/
theorem le_of_mem_dropWhile (increasing : places.Pairwise (· < ·)) :
    ∀ place ∈ places.dropWhile (· < offset), offset ≤ place := by
  induction places with
  | nil => exact List.forall_mem_nil _
  | cons first rest inductionHypothesis =>
      obtain ⟨above, others⟩ := List.pairwise_cons.mp increasing
      by_cases below : first < offset
      · rw [List.dropWhile_cons_of_pos (by simpa using below)]
        exact inductionHypothesis others
      · rw [List.dropWhile_cons_of_neg (by simpa using below)]
        have here := Nat.le_of_not_lt below
        exact List.forall_mem_cons.mpr
          ⟨here, fun place member => Nat.le_trans here (Nat.le_of_lt (above place member))⟩

/-- The places before an offset are the first ones. -/
theorem length_takeWhile (increasing : places.Pairwise (· < ·)) :
    (places.takeWhile (· < offset)).length = places.countP (· < offset) := by
  rw [← countP_of_split lt_of_mem_takeWhile (le_of_mem_dropWhile increasing),
    List.takeWhile_append_dropWhile]

/-- A search ends at the number of places before the offset. -/
theorem isSearchEnd_iff (increasing : places.Pairwise (· < ·)) (index : Nat) :
    IsSearchEnd places offset index ↔ index = places.countP (· < offset) := by
  constructor
  · rintro (found | ⟨within, below, above⟩)
    · obtain ⟨inside, here⟩ := List.getElem?_eq_some_iff.mp found
      have split : places = places.take index ++ offset :: places.drop (index + 1) := by
        rw [← here, ← List.drop_eq_getElem_cons inside, List.take_append_drop]
      have ordered := increasing
      rw [split, List.pairwise_append, List.pairwise_cons] at ordered
      obtain ⟨_, ⟨above, _⟩, below⟩ := ordered
      rw [split, countP_of_split (fun place member => below place member offset List.mem_cons_self)
        (List.forall_mem_cons.mpr ⟨Nat.le_refl _, fun place member => Nat.le_of_lt (above place member)⟩),
        List.length_take_of_le (Nat.le_of_lt inside)]
    · have count := countP_of_split below fun place member => Nat.le_of_lt (above place member)
      rw [List.take_append_drop, List.length_take_of_le within] at count
      exact count.symm
  · rintro rfl
    rw [← length_takeWhile increasing]
    have whole : places.takeWhile (· < offset) ++ places.dropWhile (· < offset) = places :=
      List.takeWhile_append_dropWhile
    have below : ∀ place ∈ places.takeWhile (· < offset), place < offset := lt_of_mem_takeWhile
    have above : ∀ place ∈ places.dropWhile (· < offset), offset ≤ place :=
      le_of_mem_dropWhile increasing
    generalize places.takeWhile (· < offset) = before at whole below ⊢
    generalize places.dropWhile (· < offset) = after at whole above
    subst whole
    cases after with
    | nil =>
        refine .inr ⟨?_, ?_, ?_⟩
        · simp
        · simpa using below
        · simp
    | cons next later =>
        rcases Nat.eq_or_lt_of_le (above next List.mem_cons_self) with rfl | beyond
        · exact .inl (by simp)
        · have later := (List.pairwise_cons.mp (List.pairwise_append.mp increasing).2.1).1
          refine .inr ⟨by simp, by simpa using below, ?_⟩
          rw [List.drop_left]
          exact List.forall_mem_cons.mpr
            ⟨beyond, fun place member => Nat.lt_trans beyond (later place member)⟩

/-- There are no more places before an offset than numbers. -/
theorem countP_le (increasing : places.Pairwise (· < ·)) : places.countP (· < offset) ≤ offset := by
  have distinct : (places.filter (· < offset)).Nodup :=
    ((increasing.imp fun less => Nat.ne_of_lt less).filter _)
  have subset : places.filter (· < offset) ⊆ List.range offset := by
    intro place member
    simpa using (List.mem_filter.mp member).2
  have bound := (List.subperm_of_subset distinct subset).length_le
  rwa [List.length_range, ← List.countP_eq_length_filter] at bound

end

namespace Position

/-- The position of an offset among line breaks, with numbers kept as given. -/
structure IsAt (kept : Nat → Nat) (breaks : List Nat) (offset : Nat) (position : Position) : Prop where
  offset_eq : position.offset = offset
  line : position.line = kept (1 + breaks.countP (· < offset))
  column_first : (∀ place ∈ breaks, offset ≤ place) → position.column = kept (offset + 1)
  column_later : ∀ last ∈ breaks, last < offset → (∀ place ∈ breaks, place < offset → place ≤ last) →
    last + position.column = offset

variable {breaks : List Nat} {offset : Nat}

/-- The last line break before an offset is the last one that is counted. -/
theorem getLast?_takeWhile (increasing : breaks.Pairwise (· < ·)) {last : Nat} (member : last ∈ breaks)
    (below : last < offset) (greatest : ∀ place ∈ breaks, place < offset → place ≤ last) :
    (breaks.takeWhile (· < offset)).getLast? = some last := by
  have whole : breaks.takeWhile (· < offset) ++ breaks.dropWhile (· < offset) = breaks :=
    List.takeWhile_append_dropWhile
  have counted : last ∈ breaks.takeWhile (· < offset) := by
    rcases List.mem_append.mp (whole ▸ member) with isBefore | isAfter
    · exact isBefore
    · exact absurd below (Nat.not_lt_of_le (le_of_mem_dropWhile increasing last isAfter))
  cases final : (breaks.takeWhile (· < offset)).getLast? with
  | none => exact absurd (List.getLast?_eq_none_iff.mp final) (List.ne_nil_of_mem counted)
  | some place =>
      obtain ⟨earlier, same⟩ := List.getLast?_eq_some_iff.mp final
      have isPlace : place ∈ breaks.takeWhile (· < offset) := List.mem_of_getLast? final
      have upper : place ≤ last :=
        greatest place ((List.takeWhile_sublist _).mem isPlace) (lt_of_mem_takeWhile place isPlace)
      have ordered := increasing.sublist (List.takeWhile_sublist (· < offset))
      rw [same, List.pairwise_append] at ordered
      have lower : last ≤ place := by
        rcases List.mem_append.mp (same ▸ counted) with isEarlier | isLast
        · exact Nat.le_of_lt (ordered.2.2 last isEarlier place List.mem_cons_self)
        · exact Nat.le_of_eq (List.mem_singleton.mp isLast)
      rw [Nat.le_antisymm upper lower]

/-- A position is where its offset is. -/
theorem isAt_ofOffset (increasing : breaks.Pairwise (· < ·)) (small : offset < wordSize) :
    (ofOffset breaks offset).IsAt (· % wordSize) breaks offset where
  offset_eq := Nat.mod_eq_of_lt small
  line := by simp only [ofOffset, length_takeWhile increasing, Nat.add_comm]
  column_first none := by
    have nothing : breaks.takeWhile (· < offset) = [] := by
      rw [List.eq_nil_iff_forall_not_mem]
      intro place member
      exact absurd (lt_of_mem_takeWhile place member)
        (Nat.not_lt_of_le (none place ((List.takeWhile_sublist _).mem member)))
    simp only [ofOffset, nothing, List.getLast?_nil]
  column_later last member below greatest := by
    simp only [ofOffset, getLast?_takeWhile increasing member below greatest]
    rw [Nat.mod_eq_of_lt (Nat.lt_of_le_of_lt (Nat.sub_le _ _) small)]
    exact Nat.add_sub_of_le (Nat.le_of_lt below)

/-- Numbers that fit into words are kept as they are. -/
theorem IsAt.plain {position : Position} (isAt : position.IsAt (· % wordSize) breaks offset)
    (increasing : breaks.Pairwise (· < ·)) (small : offset + 1 < wordSize) :
    position.IsAt id breaks offset where
  offset_eq := isAt.offset_eq
  line := by
    have bound : breaks.countP (· < offset) ≤ offset := countP_le increasing
    rw [isAt.line]
    exact Nat.mod_eq_of_lt (by omega)
  column_first none := by
    rw [isAt.column_first none]
    exact Nat.mod_eq_of_lt small
  column_later := isAt.column_later

/-- The line and the column of an offset determine it. -/
theorem ofOffset_inj (increasing : breaks.Pairwise (· < ·)) {first second : Nat}
    (firstSmall : first < wordSize) (secondSmall : second < wordSize)
    (line : (ofOffset breaks first).line = (ofOffset breaks second).line)
    (column : (ofOffset breaks first).column = (ofOffset breaks second).column) : first = second := by
  have firstBound : breaks.countP (· < first) ≤ first := countP_le increasing
  have secondBound : breaks.countP (· < second) ≤ second := countP_le increasing
  -- Words tell the numbers from one to the size of a word apart, and a line or a column is one of those.
  have length : (breaks.takeWhile (· < first)).length = (breaks.takeWhile (· < second)).length := by
    simp only [ofOffset] at line
    rw [length_takeWhile increasing, length_takeWhile increasing] at line ⊢
    rw [wordSize] at line firstSmall secondSmall
    omega
  have same : breaks.takeWhile (· < first) = breaks.takeWhile (· < second) := by
    have start (offset : Nat) : breaks.takeWhile (· < offset) =
        breaks.take (breaks.takeWhile (· < offset)).length :=
      List.prefix_iff_eq_take.mp <| List.takeWhile_prefix _
    rw [start first, length, ← start second]
  simp only [ofOffset, same] at column
  cases last : (breaks.takeWhile (· < second)).getLast? with
  | none =>
      simp only [last] at column
      rw [wordSize] at column firstSmall secondSmall
      omega
  | some place =>
      have member := List.mem_of_getLast? last
      have belowSecond := lt_of_mem_takeWhile place member
      have belowFirst := lt_of_mem_takeWhile place (same ▸ member)
      simp only [last] at column
      rw [wordSize] at column firstSmall secondSmall
      omega

end Position

namespace Markup

/-- A segment is visited whole, but for the end of a comment. -/
def Segment.IsVisited (piece : Segment) : Prop :=
  piece.covered.chars = piece.visited ∨
    (∃ content, piece.token = .comment content) ∧
      piece.covered.chars = piece.visited ++ ['-', '>']

/-- A comment is visited up to the first character of its closing mark. -/
theorem visited_comment {first closing : Cursor} {body : List Char} {content : Lexeme}
    (passes : first.Passes body closing) (stops : content.stop = closing.offset) {mark : Char}
    (single : mark.utf8Size = 1) (passed : List Char) :
    Segment.visited ⟨⟨first.offset, body ++ mark :: passed⟩, .comment content⟩ = body ++ [mark] := by
  have length : content.stop + 1 - first.offset = Text.byteLength (body ++ [mark]) := by
    rw [Text.byteLength_append, Text.byteLength_cons, single, Text.byteLength_nil, stops,
      passes.offset]
    omega
  have whole : body ++ mark :: passed = (body ++ [mark]) ++ passed := by simp
  simp only [Segment.visited]
  rw [length, whole, Text.takeBytes_append]

/-- A token is visited as it is placed. -/
theorem Token.Placed.isVisited {first last : Cursor} {word : List Char} {token : Token}
    (placed : token.Placed first last) (passes : first.Passes word last) :
    Segment.IsVisited ⟨⟨first.offset, word⟩, token⟩ := by
  cases token with
  | comment content =>
      obtain ⟨opening, closing, mark, ⟨ahead, opens⟩, _, between, closes, isMark⟩ := placed
      have body : first.Passes (ahead ++ content.chars) closing := opens.trans between.2
      have stops : content.stop = closing.offset := by
        rw [Lexeme.stop, between.1, between.2.offset]
      obtain rfl := passes.unique (body.trans closes)
      rcases isMark with rfl | rfl
      · exact .inl (visited_comment body stops rfl []).symm
      · refine .inr ⟨⟨content, rfl⟩, ?_⟩
        rw [visited_comment body stops rfl]
        simp
  | _ => exact .inl rfl

/-- There is no line break in what is passed over. -/
theorem Segment.IsVisited.lineBreaks_eq {piece : Segment} (isVisited : piece.IsVisited)
    (offset : Nat) : lineBreaks offset piece.visited = lineBreaks offset piece.covered.chars := by
  rcases isVisited with whole | ⟨_, whole⟩
  · rw [whole]
  · have none (place : Nat) : lineBreaks place ['-', '>'] = [] := rfl
    rw [whole, lineBreaks_append, none, List.append_nil]

/-- Every segment that is laid is visited. -/
theorem isVisited_of_lays {cursor : Cursor} {pieces : List Segment} (lays : cursor.Lays pieces) :
    ∀ piece ∈ pieces, piece.IsVisited := by
  induction lays with
  | done => exact List.forall_mem_nil _
  | token passes _ placed _ inductionHypothesis =>
      exact List.forall_mem_cons.mpr ⟨placed.isVisited passes, inductionHypothesis⟩

namespace LineTrack

/-- Visiting a text meets its line breaks. -/
theorem breaks_foldl_visit (track : LineTrack) (chars : List Char) :
    (chars.foldl visit track).breaks.toList =
      track.breaks.toList ++ lineBreaks track.offset chars := by
  induction chars generalizing track with
  | nil => simp [lineBreaks]
  | cons c rest inductionHypothesis =>
      rw [List.foldl_cons, inductionHypothesis, lineBreaks, visit]
      split <;> simp

/-- Scanning segments meets the line breaks of all that they cover. -/
theorem breaks_foldl_scan {cursor : Cursor} {pieces : List Segment} (lays : cursor.Lays pieces)
    (track : LineTrack) (here : track.offset = cursor.offset) :
    (pieces.foldl scan track).breaks.toList =
      track.breaks.toList ++ lineBreaks cursor.offset cursor.rest := by
  induction lays generalizing track with
  | done ended => simp [ended, lineBreaks]
  | @token cursor after word token later passes _ placed _ inductionHypothesis =>
      let piece : Segment := ⟨⟨cursor.offset, word⟩, token⟩
      have behind : (track.scan piece).offset = after.offset := passes.offset.symm
      have visited := (placed.isVisited passes).lineBreaks_eq track.offset
      have met : (track.scan piece).breaks.toList =
          track.breaks.toList ++ lineBreaks cursor.offset word := by
        rw [scan, breaks_foldl_visit, visited, here]
      rw [List.foldl_cons, inductionHypothesis (track.scan piece) behind, met, passes.rest,
        lineBreaks_append, passes.offset, List.append_assoc]

end LineTrack

/-- No line break is passed over between the segments or inside of them. -/
theorem segmentBreaks_eq (source : Source) : segmentBreaks source.chars = source.breaks := by
  rw [source.breaks_eq, segmentBreaks, segments,
    LineTrack.breaks_foldl_scan (lays_segmentsFrom _) _ rfl]
  rfl

end Markup

/-- Both ways of locating an offset agree, and lines and columns determine offsets. -/
theorem positions_agree (source : Source) :
    AreBreaks source.chars source.breaks ∧
    (∀ piece ∈ Markup.segments source.chars, piece.IsVisited) ∧
    Markup.segmentBreaks source.chars = source.breaks ∧
    (∀ offset < Position.wordSize,
      Position.ofOffset (Markup.segmentBreaks source.chars) offset =
        Position.ofOffset source.breaks offset ∧
      (∀ index, IsSearchEnd source.breaks offset index ↔
        index = source.breaks.countP (· < offset)) ∧
      (Position.ofOffset source.breaks offset).IsAt (· % Position.wordSize) source.breaks offset ∧
      (offset + 1 < Position.wordSize →
        (Position.ofOffset source.breaks offset).IsAt id source.breaks offset)) ∧
    ∀ first < Position.wordSize, ∀ second < Position.wordSize,
      (Position.ofOffset source.breaks first).line = (Position.ofOffset source.breaks second).line →
      (Position.ofOffset source.breaks first).column =
        (Position.ofOffset source.breaks second).column → first = second := by
  have areBreaks : AreBreaks source.chars source.breaks := by
    rw [source.breaks_eq]
    exact areBreaks_lineBreaks source.chars
  refine ⟨areBreaks, Markup.isVisited_of_lays (Markup.lays_segmentsFrom _),
    Markup.segmentBreaks_eq source, ?_, ?_⟩
  · intro offset small
    have isAt := Position.isAt_ofOffset areBreaks.increasing small
    exact ⟨by rw [Markup.segmentBreaks_eq], isSearchEnd_iff areBreaks.increasing, isAt,
      isAt.plain areBreaks.increasing⟩
  · intro first firstSmall second secondSmall
    exact Position.ofOffset_inj areBreaks.increasing firstSmall secondSmall

/-- The end of a comment is passed in one step. -/
theorem positions_agree_brokenComment :
    let source := Source.ofString "a\n<!--\n-->\nb"
    4294967294 + 1 < Position.wordSize ∧ Markup.segmentBreaks source.chars = [1, 6, 10] ∧
      source.breaks = [1, 6, 10] ∧
      (Position.ofOffset (Markup.segmentBreaks source.chars) 4294967294).IsAt id source.breaks
        4294967294 := by
  intro source
  have small : 4294967294 + 1 < Position.wordSize := by decide
  have gathered : Markup.segmentBreaks source.chars = [1, 6, 10] := by decide +kernel
  obtain ⟨_, _, same, located, _⟩ := positions_agree source
  obtain ⟨agree, _, _, plain⟩ := located 4294967294 (Nat.lt_of_succ_lt small)
  refine ⟨small, gathered, same.symm.trans gathered, ?_⟩
  rw [agree]
  exact plain small

/-- The column of the greatest word in a first line is not kept. -/
theorem column_of_greatest_word :
    let source := Source.ofString "no newline"
    source.size < Position.wordSize ∧ 4294967295 < Position.wordSize ∧
      Position.ofOffset (Markup.segmentBreaks source.chars) 4294967295 = ⟨4294967295, 1, 0⟩ ∧
      (Position.ofOffset source.breaks 4294967295).column ≠ 4294967295 + 1 := by
  decide +kernel

end HtmlTemplate
