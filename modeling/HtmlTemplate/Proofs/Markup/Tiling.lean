/-
This file shows that the segments of a source tile it: texts and constructs of markup follow one another
without a gap, and the events name stretches of the source in their order.
-/

import HtmlTemplate.Proofs.Markup.Reports

namespace HtmlTemplate.Markup

namespace Cursor

theorem Reaches.offset_le {first second : Cursor} (reaches : first.Reaches second) :
    first.offset ≤ second.offset := by
  obtain ⟨word, passes⟩ := reaches
  rw [passes.offset]
  exact Nat.le_add_right _ _

theorem Passes.eq_of_nil {first second : Cursor} (passes : first.Passes [] second) :
    second = first := by
  have sameRest := passes.rest
  have sameOffset := passes.offset
  rw [List.nil_append] at sameRest
  rw [Text.byteLength_nil, Nat.add_zero] at sameOffset
  rcases first with ⟨offset, rest⟩
  rcases second with ⟨later, remaining⟩
  exact congr (congrArg Cursor.mk sameOffset) sameRest.symm

/-- Only one word leads from one cursor to another. -/
theorem Passes.unique {first second : Cursor} {word other : List Char}
    (passes : first.Passes word second) (same : first.Passes other second) : word = other :=
  List.append_cancel_right (passes.rest.symm.trans same.rest)

theorem covered_eq {first second : Cursor} {word : List Char} (passes : first.Passes word second) :
    first.covered second = ⟨first.offset, word⟩ := by
  rw [covered, passes.rest, passes.offset, Nat.add_sub_cancel_left, Text.takeBytes_append]

/-- The segments follow one another from the cursor to the end of the source. -/
inductive Tiles : Cursor → List Segment → Prop where
  | done {cursor : Cursor} (ended : cursor.rest = []) : Tiles cursor []
  | text {cursor after : Cursor} {word : List Char} {later : List Segment}
      (passes : cursor.Passes word after) (filled : word ≠ []) (tiles : Tiles after later) :
      Tiles cursor (⟨⟨cursor.offset, word⟩, .text ⟨cursor.offset, word⟩⟩ :: later)
  | markup {cursor after : Cursor} {word : List Char} {token : Token} {later : List Segment}
      (passes : cursor.Passes word after) (opens : word.head? = some '<')
      (reading : Reading cursor (token, after)) (tiles : Tiles after later) :
      Tiles cursor (⟨⟨cursor.offset, word⟩, token⟩ :: later)

end Cursor

/-- Raw text is a text of its own, unless it is empty. -/
theorem tiles_readRawText {token : Token} {cursor : Cursor} {later : List Segment}
    (tiles : (readRawText token cursor).2.Tiles later) :
    cursor.Tiles ((readRawText token cursor).1 ++ later) := by
  unfold readRawText at tiles ⊢
  cases raw : token.rawText? with
  | none =>
      rw [raw] at tiles
      exact tiles
  | some tag =>
      rw [raw] at tiles
      have passes := cursor.passes_skipUntil (startsRawTextEnd tag.toList)
      dsimp only at tiles ⊢
      split
      · rename_i empty
        rw [List.isEmpty_iff.mp empty] at passes
        rwa [passes.eq_of_nil] at tiles
      · rename_i filled
        have filled : (cursor.readUntil (startsRawTextEnd tag.toList)).chars ≠ [] := by
          simpa using filled
        exact .text passes filled tiles

theorem tiles_segmentsFrom (cursor : Cursor) : cursor.Tiles (segmentsFrom cursor) := by
  fun_induction segmentsFrom cursor with
  | case1 cursor ended => exact .done ended
  | case2 cursor more step raw shorter inductionHypothesis =>
      have later : step.2.Tiles (raw.1 ++ segmentsFrom raw.2) :=
        tiles_readRawText inductionHypothesis
      -- The raw text after a start tag is a segment too, so the later segments start at `step.2`.
      rcases readToken_reading cursor with isText | ⟨opens, reading⟩
      · have passes := Cursor.passes_skipName more (· != '<')
        have filled := Cursor.readName_ne_nil more (· != '<')
        have token : step.1 = .text ⟨cursor.offset, (cursor.readName (· != '<')).chars⟩ := by
          rw [← (Cursor.between_readName more (· != '<')).1]
          exact congrArg Prod.fst isText
        have after : step.2 = cursor.skipName (· != '<') := congrArg Prod.snd isText
        rw [after] at later
        rw [token, after, Cursor.covered_eq passes]
        exact .text passes filled later
      · obtain ⟨word, passes⟩ := reading.reports.reaches
        have filled : word ≠ [] := by
          rintro rfl
          have same := passes.rest
          have less := readToken_length_lt cursor more
          rw [same] at less
          exact absurd less (Nat.lt_irrefl _)
        have opensWord : word.head? = some '<' := by
          obtain ⟨first, others, rfl⟩ := List.exists_cons_of_ne_nil filled
          rwa [passes.rest] at opens
        rw [Cursor.covered_eq passes]
        exact .markup passes opensWord reading later

namespace Cursor

section

variable {cursor : Cursor} {segments : List Segment}

theorem Tiles.joined (tiles : cursor.Tiles segments) :
    segments.flatMap (·.covered.chars) = cursor.rest := by
  induction tiles with
  | done ended => exact ended.symm
  | text passes _ _ inductionHypothesis =>
      rw [List.flatMap_cons, inductionHypothesis, passes.rest]
  | markup passes _ _ _ inductionHypothesis =>
      rw [List.flatMap_cons, inductionHypothesis, passes.rest]

theorem Tiles.eq_nil (tiles : cursor.Tiles segments) (ended : cursor.rest = []) : segments = [] := by
  cases tiles with
  | done _ => rfl
  | text passes filled _ =>
      have empty := List.append_eq_nil_iff.mp (passes.rest.symm.trans ended)
      exact absurd empty.1 filled
  | markup passes opens _ _ =>
      have empty := List.append_eq_nil_iff.mp (passes.rest.symm.trans ended)
      rw [empty.1] at opens
      contradiction

/-- Every segment starts where the segments before it end. -/
theorem Tiles.split {before after : List Segment} {piece : Segment}
    (tiles : cursor.Tiles (before ++ piece :: after)) :
    ∃ here, cursor.Passes (before.flatMap (·.covered.chars)) here ∧ here.Tiles (piece :: after) := by
  induction before generalizing cursor with
  | nil => exact ⟨cursor, .refl cursor, tiles⟩
  | cons segment rest inductionHypothesis =>
      cases tiles with
      | text passes _ later =>
          obtain ⟨here, onward, remaining⟩ := inductionHypothesis later
          exact ⟨here, passes.trans onward, remaining⟩
      | markup passes _ _ later =>
          obtain ⟨here, onward, remaining⟩ := inductionHypothesis later
          exact ⟨here, passes.trans onward, remaining⟩

theorem Tiles.reports (tiles : cursor.Tiles segments) :
    cursor.Reports (segments.flatMap (·.token.events)) cursor.finish := by
  induction tiles with
  | done ended => exact .nothing (passes_finish _).reaches
  | @text cursor after word _ passes filled _ inductionHypothesis =>
      rw [passes.finish_eq] at inductionHypothesis
      have named : Lexeme.Between ⟨cursor.offset, word⟩ cursor after := ⟨rfl, passes⟩
      exact (reports_single (named.of_filled rfl filled)).append inductionHypothesis
  | markup passes _ reading _ inductionHypothesis =>
      rw [passes.finish_eq] at inductionHypothesis
      exact reading.reports.append inductionHypothesis

/-- What the segments report follows the grammar of events. -/
theorem Tiles.isBody (tiles : cursor.Tiles segments) :
    IsBody (segments.flatMap (·.token.events)) := by
  induction tiles with
  | done _ => exact .tail .nothing
  | text _ _ _ inductionHypothesis => exact .item (.text _) inductionHypothesis
  | markup _ _ reading later inductionHypothesis =>
      rcases reading.ends with ⟨_, item, _⟩ | ⟨_, body, ended⟩
      · exact .item item inductionHypothesis
      · rw [later.eq_nil ended, List.flatMap_singleton]
        exact body

end

section

variable {first last : Cursor} {events : List Event}

/-- Every event that is reported names a stretch on the way. -/
theorem Reports.between (reports : first.Reports events last) {event : Event}
    (member : event ∈ events) :
    ∃ start stop, first.Reaches start ∧ event.Between start stop ∧ stop.Reaches last := by
  induction reports with
  | nothing _ => contradiction
  | event reaches between later inductionHypothesis =>
      rcases List.mem_cons.mp member with rfl | isLater
      · exact ⟨_, _, reaches, between, later.reaches⟩
      · obtain ⟨start, stop, onward, place, remaining⟩ := inductionHypothesis isLater
        exact ⟨start, stop, reaches.trans (between.reaches.trans onward), place, remaining⟩

end

end Cursor

theorem Lexeme.Between.stop_eq {content : Lexeme} {first second : Cursor}
    (between : content.Between first second) : content.stop = second.offset := by
  rw [Lexeme.stop, between.1, between.2.offset]

/-- One event names nothing before the end of what another names. -/
def Event.Precedes (first second : Event) : Prop :=
  ∀ earlier ∈ first.stretch?, ∀ later ∈ second.stretch?, earlier.stop ≤ later.start

namespace Cursor

variable {first last : Cursor} {events : List Event}

/-- What an event names lies between the cursors of the whole. -/
theorem Reports.within (reports : first.Reports events last) {event : Event}
    (member : event ∈ events) {stretch : Lexeme} (named : stretch ∈ event.stretch?) :
    first.offset ≤ stretch.start ∧ stretch.stop ≤ last.offset := by
  obtain ⟨start, stop, reaches, ⟨content, same, between, _⟩, remaining⟩ := reports.between member
  obtain rfl : content = stretch := Option.some.inj (same.symm.trans named)
  rw [between.1, between.stop_eq]
  exact ⟨reaches.offset_le, remaining.offset_le⟩

theorem Reports.precedes (reports : first.Reports events last) : events.Pairwise Event.Precedes := by
  induction reports with
  | nothing _ => exact .nil
  | event reaches between later inductionHypothesis =>
      refine .cons ?_ inductionHypothesis
      intro other member earlier isEarlier stretch isLater
      obtain ⟨content, same, place, _⟩ := between
      obtain rfl : content = earlier := Option.some.inj (same.symm.trans isEarlier)
      rw [place.stop_eq]
      exact (later.within member isLater).1

end Cursor

theorem tiles_segments (source : List Char) : Cursor.Tiles ⟨0, source⟩ (segments source) :=
  tiles_segmentsFrom ⟨0, source⟩

theorem events_eq (source : List Char) :
    events source = (segments source).flatMap (·.token.events) ++ [.finish] := by
  rw [events, tokens, List.flatMap_map]

/-- An event that names something comes from a segment. -/
theorem mem_segments_events {source : List Char} {event : Event} (reported : event ∈ events source)
    {stretch : Lexeme} (named : stretch ∈ event.stretch?) :
    event ∈ (segments source).flatMap (·.token.events) := by
  rw [events_eq, List.mem_append, List.mem_singleton] at reported
  rcases reported with inSegment | rfl
  · exact inSegment
  · contradiction

/-- What an event names stands in the source at its offset. -/
theorem stretch_located {source : List Char} {event : Event} (reported : event ∈ events source)
    {stretch : Lexeme} (named : stretch ∈ event.stretch?) :
    (∃ before after, source = before ++ (stretch.chars ++ after) ∧
      stretch.start = Text.byteLength before) ∧ (event.isFilled = true → stretch.chars ≠ []) := by
  obtain ⟨first, second, ⟨before, passes⟩, ⟨content, same, between, filled⟩, _⟩ :=
    (tiles_segments source).reports.between (mem_segments_events reported named)
  obtain rfl : content = stretch := Option.some.inj (same.symm.trans named)
  refine ⟨⟨before, second.rest, ?_, ?_⟩, filled⟩
  · rw [← between.2.rest, ← passes.rest]
  · rw [between.1, passes.offset, Nat.zero_add]

/-- Whether an event does not go on with a start tag. -/
def Event.begins : Event → Bool
  | .attributeName _ => false
  | .value _ => false
  | .attributeEnd _ _ => false
  | .startTagEnd _ => false
  | .selfClosing _ => false
  | _ => true

/-- The events of attributes go on with their tag. -/
theorem not_begins_of_mem {attributes : List AttributeToken} {event : Event}
    (member : event ∈ attributes.flatMap (·.events)) : event.begins = false := by
  obtain ⟨written, _, reported⟩ := List.mem_flatMap.mp member
  cases event <;> simp_all [AttributeToken.events, Event.begins]

/-- A fault is reported only for nameless end tags and unfinished constructs. -/
theorem isUnfinished_of_error {token : Token} {code : Diagnostic.Code} {offset : Nat}
    (member : .error code offset ∈ token.events) :
    code = .missingEndTagName ∨ token.isUnfinished = true := by
  have apart (attributes : List AttributeToken) :
      .error code offset ∉ attributes.flatMap (·.events) :=
    fun inside => Bool.noConfusion (not_begins_of_mem inside)
  cases token with
  | startTag name attributes selfClosing stop =>
      cases selfClosing <;> simp [Token.events, apart] at member
  | namelessEndTag stop => simp_all [Token.events]
  | unfinished construct stop => exact .inr rfl
  | _ => simp [Token.events] at member

/-- Only a text reports a text. -/
theorem eq_text_of_mem {token : Token} {content : Lexeme} (member : .text content ∈ token.events) :
    token = .text content := by
  have apart (attributes : List AttributeToken) : .text content ∉ attributes.flatMap (·.events) :=
    fun inside => Bool.noConfusion (not_begins_of_mem inside)
  cases token with
  | text other => simp_all [Token.events]
  | startTag name attributes selfClosing stop =>
      cases selfClosing <;> simp [Token.events, apart] at member
  | unfinished construct stop =>
      cases construct <;> simp [Token.events, Unfinished.events, apart] at member
  | _ => simp [Token.events] at member

theorem Token.isUnfinished_of_isClosed {token : Token} (closed : token.isClosed = true) :
    token.isUnfinished = false := by
  cases token <;> simp_all [isClosed, isUnfinished]

/-- A text that is reported as a whole. -/
def Segment.IsText (piece : Segment) : Prop := piece.token = .text piece.covered

/-- A construct between angle brackets, or one that is unfinished. -/
structure Segment.IsMarkup (piece : Segment) : Prop where
  opens : piece.covered.chars.head? = some '<'
  closes : piece.token.isUnfinished = false → piece.covered.chars.getLast? = some '>'
  noText : ∀ content, .text content ∉ piece.token.events

namespace Cursor.Tiles

variable {cursor : Cursor} {piece : Segment} {later : List Segment}

theorem start_eq (tiles : cursor.Tiles (piece :: later)) : piece.covered.start = cursor.offset := by
  cases tiles <;> rfl

theorem kind (tiles : cursor.Tiles (piece :: later)) : piece.IsText ∨ piece.IsMarkup := by
  cases tiles with
  | text passes filled _ => exact .inl rfl
  | markup passes opens reading _ =>
      refine .inr ⟨opens, ?_, ?_⟩
      · intro finished
        rcases reading.ends with ⟨_, _, _, closing, ⟨word, onward⟩, _, closes⟩ | ⟨unfinished, _⟩
        · obtain rfl := passes.unique (onward.trans closes)
          exact List.getLast?_concat
        · rw [finished] at unfinished
          contradiction
      · intro content member
        exact reading.ne_text content (eq_text_of_mem member)

theorem last (tiles : cursor.Tiles (piece :: later)) (unfinished : piece.token.isUnfinished = true) :
    later = [] := by
  cases tiles with
  | text passes filled _ => contradiction
  | markup passes opens reading tiles =>
      rcases reading.ends with ⟨closed, _⟩ | ⟨_, _, ended⟩
      · rw [Token.isUnfinished_of_isClosed closed] at unfinished
        contradiction
      · exact tiles.eq_nil ended

theorem inside (tiles : cursor.Tiles (piece :: later)) {event : Event}
    (reported : event ∈ piece.token.events) {stretch : Lexeme} (named : stretch ∈ event.stretch?) :
    piece.covered.start ≤ stretch.start ∧ stretch.stop ≤ piece.covered.stop := by
  cases tiles with
  | text passes filled _ =>
      obtain rfl := List.mem_singleton.mp reported
      obtain rfl := Option.some.inj named
      exact ⟨Nat.le_refl _, Nat.le_refl _⟩
  | markup passes opens reading tiles =>
      have within := reading.reports.within reported named
      rwa [passes.offset] at within

end Cursor.Tiles

theorem tiles_of_split {source : List Char} {before after : List Segment} {piece : Segment}
    (whole : segments source = before ++ piece :: after) :
    ∃ here : Cursor, here.offset = Text.byteLength (before.flatMap (·.covered.chars)) ∧
      here.Tiles (piece :: after) := by
  have tiles := tiles_segments source
  rw [whole] at tiles
  obtain ⟨here, passes, later⟩ := tiles.split
  exact ⟨here, by rw [passes.offset, Nat.zero_add], later⟩

theorem tiles_of_mem {source : List Char} {piece : Segment} (member : piece ∈ segments source) :
    ∃ (here : Cursor) (after : List Segment), here.Tiles (piece :: after) := by
  obtain ⟨before, after, whole⟩ := List.append_of_mem member
  obtain ⟨here, _, tiles⟩ := tiles_of_split whole
  exact ⟨here, after, tiles⟩

/-- The codes of faults that the end of a source causes. -/
def endCodes : List Diagnostic.Code := [.eofInTag, .eofInComment, .eofInDoctype]

/-- The end of the source is reported exactly if a segment is unfinished. -/
theorem exists_unfinished_iff (source : List Char) :
    (∃ piece ∈ segments source, piece.token.isUnfinished = true) ↔
      ∃ code offset, .error code offset ∈ events source ∧ code ∈ endCodes := by
  constructor
  · rintro ⟨⟨covered, token⟩, member, unfinished⟩
    cases token with
    | unfinished construct stop =>
        have reported : .error construct.code stop ∈ events source := by
          rw [events_eq]
          exact List.mem_append_left _
            (List.mem_flatMap.mpr ⟨_, member, List.mem_append_right _ List.mem_cons_self⟩)
        have isEnd : construct.code ∈ endCodes := by
          cases construct <;> simp [Unfinished.code, endCodes]
        exact ⟨construct.code, stop, reported, isEnd⟩
    | _ => contradiction
  · rintro ⟨code, offset, reported, isEnd⟩
    have inSegment := mem_segments_events reported (Option.mem_some_self _)
    obtain ⟨piece, member, inPiece⟩ := List.mem_flatMap.mp inSegment
    rcases isUnfinished_of_error inPiece with rfl | unfinished
    · contradiction
    · exact ⟨piece, member, unfinished⟩

theorem events_precede (source : List Char) : (events source).Pairwise Event.Precedes := by
  rw [events_eq, List.pairwise_append]
  refine ⟨(tiles_segments source).reports.precedes, List.pairwise_singleton _ _, ?_⟩
  intro event _ last isLast earlier _ later named
  rw [List.mem_singleton.mp isLast] at named
  contradiction

/-- What an event names is made of whole characters of the source. -/
theorem stretch_bounded {source : List Char} {event : Event} (reported : event ∈ events source)
    {stretch : Lexeme} (named : stretch ∈ event.stretch?) :
    stretch.stop ≤ Text.byteLength source ∧ Text.IsBoundary source stretch.start ∧
      Text.IsBoundary source stretch.stop := by
  obtain ⟨⟨before, after, whole, start⟩, _⟩ := stretch_located reported named
  have stop : stretch.stop = Text.byteLength (before ++ stretch.chars) := by
    rw [Lexeme.stop, start, Text.byteLength_append]
  have split : source = (before ++ stretch.chars) ++ after := by rw [whole, List.append_assoc]
  refine ⟨?_, ⟨before, _, whole, start⟩, ⟨before ++ stretch.chars, after, split, stop⟩⟩
  rw [stop, split, Text.byteLength_append (before ++ stretch.chars)]
  exact Nat.le_add_right _ _

/-- A source is tiled by pieces, whose events are all that is reported. -/
structure IsTiling (source : List Char) (pieces : List Segment) (reported : List Event) : Prop where
  /-- All events come from the pieces, in their order. -/
  events : reported = pieces.flatMap (·.token.events) ++ [.finish]
  /-- The pieces follow one another from the start of the source to its end. -/
  joined : pieces.flatMap (·.covered.chars) = source
  start : ∀ before piece after, pieces = before ++ piece :: after →
    piece.covered.start = Text.byteLength (before.flatMap (·.covered.chars))
  /-- A piece is a text or a construct of markup. -/
  kind : ∀ piece ∈ pieces, piece.IsText ∨ piece.IsMarkup
  /-- Only the last piece may be unfinished. -/
  last : ∀ before piece after, pieces = before ++ piece :: after →
    piece.token.isUnfinished = true → after = []
  /-- A piece is unfinished exactly if the end of the source is reported inside of a construct. -/
  unfinished : (∃ piece ∈ pieces, piece.token.isUnfinished = true) ↔
    ∃ code offset, .error code offset ∈ reported ∧ code ∈ endCodes
  /-- Whatever the events of a piece name lies inside of the piece. -/
  inside : ∀ piece ∈ pieces, ∀ event ∈ piece.token.events, ∀ stretch ∈ event.stretch?,
    piece.covered.start ≤ stretch.start ∧ stretch.stop ≤ piece.covered.stop
  /-- Nothing is named twice or out of order. -/
  ordered : reported.Pairwise Event.Precedes
  /-- Only whole characters of the source are named. -/
  bounded : ∀ event ∈ reported, ∀ stretch ∈ event.stretch?,
    stretch.start ≤ stretch.stop ∧ stretch.stop ≤ Text.byteLength source ∧
      Text.IsBoundary source stretch.start ∧ Text.IsBoundary source stretch.stop
  /-- Texts, names and values are not empty. -/
  filled : ∀ event ∈ reported, event.isFilled = true → ∀ stretch ∈ event.stretch?,
    stretch.start < stretch.stop

/-- The segments of every source tile it. -/
theorem segments_tile (source : List Char) :
    IsTiling source (segments source) (events source) where
  events := events_eq source
  joined := (tiles_segments source).joined
  start := by
    intro before piece after whole
    obtain ⟨here, offset, tiles⟩ := tiles_of_split whole
    rw [tiles.start_eq, offset]
  kind := by
    intro piece member
    obtain ⟨here, after, tiles⟩ := tiles_of_mem member
    exact tiles.kind
  last := by
    intro before piece after whole
    obtain ⟨here, _, tiles⟩ := tiles_of_split whole
    exact tiles.last
  unfinished := exists_unfinished_iff source
  inside := by
    intro piece member event reported stretch named
    obtain ⟨here, after, tiles⟩ := tiles_of_mem member
    exact tiles.inside reported named
  ordered := events_precede source
  bounded := by
    intro event reported stretch named
    exact ⟨Nat.le_add_right _ _, stretch_bounded reported named⟩
  filled := by
    intro event reported filled stretch named
    have some := (stretch_located reported named).2 filled
    exact Nat.lt_add_of_pos_right (Text.byteLength_pos some)

end HtmlTemplate.Markup
