/-
This file says what is reported of a raw text: it is one text, as it stands in the source, up to the end tag
of its element or to the end of the source.
-/

import HtmlTemplate.Proofs.Markup.Placement
import HtmlTemplate.Proofs.Markup.Scan
import Mathlib.Data.List.Basic
import Mathlib.Order.Bounds.Defs

namespace HtmlTemplate.Markup

/-- The names of the raw text elements, in any case of the letters. -/
def IsRawTextName (name : List Char) : Prop :=
  ∃ tag ∈ ["script", "style", "textarea", "title"], Text.lower name = tag.toList

/-- The rest of a source opens with an end tag of the name. -/
def EndsRawText (name rest : List Char) : Prop :=
  ∃ word tail, rest = '<' :: '/' :: (word ++ tail) ∧ Text.lower word = Text.lower name ∧
    ∀ c ∈ tail.head?, c = '/' ∨ c = '>' ∨ Text.isBlank c = true

/-- An end tag of the given name stands at an offset of the source. -/
def RawTextEndsAt (source name : List Char) (offset : Nat) : Prop :=
  ∃ before rest, source = before ++ rest ∧ offset = Text.byteLength before ∧ EndsRawText name rest

/-- A raw text stops at the first end tag of its name. -/
inductive RawTextStops (source name : List Char) (start : Nat) : Nat → Prop where
  | endTag {stop : Nat}
      (least : IsLeast { offset | start ≤ offset ∧ RawTextEndsAt source name offset } stop) :
      RawTextStops source name start stop
  | sourceEnd (none : ∀ offset, start ≤ offset → ¬RawTextEndsAt source name offset) :
      RawTextStops source name start (Text.byteLength source)

/-- A raw text stops at the first end tag if there is one. -/
theorem RawTextStops.isLeast {source name : List Char} {start stop : Nat}
    (stops : RawTextStops source name start stop)
    (ends : ∃ offset, start ≤ offset ∧ RawTextEndsAt source name offset) :
    IsLeast { offset | start ≤ offset ∧ RawTextEndsAt source name offset } stop := by
  cases stops with
  | endTag least => exact least
  | sourceEnd none =>
      obtain ⟨offset, onward, isEnd⟩ := ends
      exact absurd isEnd (none offset onward)

/-- The events of a source report the start tag of a raw text element. -/
structure OpensRawText (source : List Char) (earlier : List Event) (name : Lexeme)
    (attributes : List Event) (stop : Nat) (later : List Event) : Prop where
  reported : events source =
    earlier ++ .startTag name :: attributes ++ .startTagEnd stop :: later
  inTag : ∀ event ∈ attributes, event.begins = false
  isRawText : IsRawTextName name.chars

theorem ne_nil_of_endsRawText {name rest : List Char} (ends : EndsRawText name rest) : rest ≠ [] := by
  obtain ⟨word, tail, rfl, _⟩ := ends
  exact List.cons_ne_nil _ _

theorem endsTagName_iff (c : Char) :
    endsTagName c = true ↔ c = '/' ∨ c = '>' ∨ Text.isBlank c = true := by
  simp only [endsTagName, Bool.or_eq_true, beq_iff_eq, or_assoc]

/-- The test for the end of a raw text looks for an end tag. -/
theorem startsRawTextEnd_iff {tag name : List Char} (same : Text.lower tag = Text.lower name)
    (rest : List Char) : startsRawTextEnd tag rest = true ↔ EndsRawText name rest := by
  constructor
  · intro starts
    unfold startsRawTextEnd at starts
    split at starts
    · rename_i inside
      rw [Bool.and_eq_true, Text.agree, beq_iff_eq] at starts
      refine ⟨inside.take tag.length, inside.drop tag.length, ?_, starts.1.trans same, ?_⟩
      · rw [List.take_append_drop]
      · intro c isHead
        have ends := starts.2
        obtain ⟨more, follows⟩ := List.head?_eq_some_iff.mp isHead
        rw [follows] at ends
        exact (endsTagName_iff c).mp ends
    · contradiction
  · rintro ⟨word, tail, rfl, agrees, ends⟩
    have length : word.length = tag.length := by
      have lengths := congrArg List.length (agrees.trans same.symm)
      rwa [Text.lower, Text.lower, List.length_map, List.length_map] at lengths
    rw [startsRawTextEnd, ← length, List.take_left, List.drop_left, Bool.and_eq_true, Text.agree,
      beq_iff_eq]
    refine ⟨agrees.trans same.symm, ?_⟩
    cases tail with
    | nil => rfl
    | cons c more => exact (endsTagName_iff c).mpr (ends c rfl)

/-- What is checked for each raw text name holds in any case. -/
theorem IsRawTextName.check {name : List Char} (isRawText : IsRawTextName name)
    (test : List Char → Bool)
    (all : ∀ tag ∈ ["script", "style", "textarea", "title"], test tag.toList = true) :
    test (Text.lower name) = true := by
  obtain ⟨tag, member, lowered⟩ := isRawText
  rw [lowered]
  exact all tag member

/-- A raw text name is known in any case. -/
theorem exists_rawTextTag? {name : List Char} (isRawText : IsRawTextName name) :
    ∃ tag, rawTextTag? name = some tag ∧ Text.lower tag.toList = Text.lower name := by
  have found : (rawTextTag? name).isSome = true :=
    isRawText.check
      (fun chars => (rawTextTags.find? fun tag : String => Text.lower tag.toList == chars).isSome)
      (by decide)
  obtain ⟨tag, isTag⟩ := Option.isSome_iff_exists.mp found
  have agrees := List.find?_some isTag
  rw [Text.agree, beq_iff_eq] at agrees
  exact ⟨tag, isTag, agrees⟩

/-- A cursor in a source cuts it in two. -/
theorem Cursor.Reaches.exists_before {source : List Char} {cursor : Cursor}
    (reaches : Cursor.Reaches ⟨0, source⟩ cursor) :
    ∃ before, source = before ++ cursor.rest ∧ cursor.offset = Text.byteLength before := by
  obtain ⟨before, passes⟩ := reaches
  exact ⟨before, passes.rest, passes.offset.trans (Nat.zero_add _)⟩

section

variable {source name : List Char} {found : List Char → Bool} {cursor : Cursor}

/-- A search that ends before the source does has found an end tag. -/
theorem rawTextEndsAt_readUntil (detects : ∀ rest, found rest = true ↔ EndsRawText name rest)
    (reaches : Cursor.Reaches ⟨0, source⟩ cursor) (more : (cursor.skipUntil found).rest ≠ []) :
    RawTextEndsAt source name (cursor.readUntil found).stop := by
  obtain ⟨before, whole, offset⟩ :=
    (reaches.trans (cursor.passes_skipUntil found).reaches).exists_before
  exact ⟨before, _, whole, offset, (detects _).mp (Text.found_of_dropUntil more)⟩

/-- A search for the end of a raw text goes past no end tag. -/
theorem readUntil_prefix (detects : ∀ rest, found rest = true ↔ EndsRawText name rest)
    (reaches : Cursor.Reaches ⟨0, source⟩ cursor) {place : Nat} (onward : cursor.offset ≤ place)
    (ends : RawTextEndsAt source name place) :
    ∃ middle rest, cursor.rest = middle ++ rest ∧ rest ≠ [] ∧
      place = cursor.offset + Text.byteLength middle ∧ (cursor.readUntil found).chars <+: middle := by
  obtain ⟨before, whole, offset⟩ := reaches.exists_before
  obtain ⟨first, rest, split, rfl, isEnd⟩ := ends
  rw [offset] at onward
  obtain ⟨middle, rfl, left⟩ := Text.exists_middle (whole.symm.trans split) onward
  refine ⟨middle, rest, left, ne_nil_of_endsRawText isEnd, ?_, ?_⟩
  · rw [offset, Text.byteLength_append]
  · rw [Cursor.readUntil, left]
    exact Text.takeUntil_prefix found middle rest ((detects rest).mpr isEnd)

/-- The raw text stops where the search for its end stops. -/
theorem rawTextStops_readUntil (detects : ∀ rest, found rest = true ↔ EndsRawText name rest)
    (reaches : Cursor.Reaches ⟨0, source⟩ cursor) :
    RawTextStops source name cursor.offset (cursor.readUntil found).stop := by
  by_cases ended : (cursor.skipUntil found).rest = []
  · have all : cursor.rest = (cursor.readUntil found).chars := by
      rw [(cursor.passes_skipUntil found).rest, ended, List.append_nil]
    have stop : (cursor.readUntil found).stop = Text.byteLength source := by
      obtain ⟨before, whole, offset⟩ := reaches.exists_before
      rw [whole, Text.byteLength_append, all, ← offset]
      rfl
    rw [stop]
    refine .sourceEnd fun place onward ends => ?_
    obtain ⟨middle, rest, left, filled, _, isPrefix⟩ := readUntil_prefix detects reaches onward ends
    rw [← all, left] at isPrefix
    have short := isPrefix.length_le
    have positive := List.length_pos_iff.mpr filled
    rw [List.length_append] at short
    omega
  · refine .endTag ⟨⟨Nat.le_add_right _ _, rawTextEndsAt_readUntil detects reaches ended⟩, ?_⟩
    rintro place ⟨onward, ends⟩
    obtain ⟨middle, _, _, _, rfl, more, rfl⟩ := readUntil_prefix detects reaches onward ends
    rw [Lexeme.stop, Text.byteLength_append, ← Nat.add_assoc]
    exact Nat.le_add_right _ _

end

/-- What is reported from a token on that no raw text follows. -/
theorem events_segmentsFrom {cursor after : Cursor} {token : Token} (more : cursor.rest ≠ [])
    (read : readToken cursor = (token, after)) (plain : token.rawText? = none) :
    (segmentsFrom cursor).flatMap (·.token.events) =
      token.events ++ (segmentsFrom after).flatMap (·.token.events) := by
  rw [segmentsFrom_token more read plain, List.flatMap_cons]

theorem reaches_readRawText (token : Token) (cursor : Cursor) :
    cursor.Reaches (readRawText token cursor).2 := by
  unfold readRawText
  split
  · exact .refl cursor
  · exact (cursor.passes_skipUntil _).reaches

/-- A raw text is a single text. -/
theorem isText_of_mem_readRawText {token : Token} {cursor : Cursor} {piece : Segment}
    (member : piece ∈ (readRawText token cursor).1) : ∃ content, piece.token = .text content := by
  unfold readRawText at member
  split at member
  · contradiction
  · dsimp only at member
    split at member
    · contradiction
    · obtain rfl := List.mem_singleton.mp member
      exact ⟨_, rfl⟩

/-- An element of two joined lists is in one of them. -/
theorem append_eq_append_cons {Item : Type} {first second before after : List Item} {item : Item}
    (same : first ++ second = before ++ item :: after) :
    (∃ rest, first = before ++ item :: rest ∧ after = rest ++ second) ∨
      ∃ rest, before = first ++ rest ∧ second = rest ++ item :: after := by
  rcases List.append_eq_append_iff.mp same with ⟨rest, longer, left⟩ | ⟨rest, longer, left⟩
  · exact .inr ⟨rest, longer, left⟩
  · cases rest with
    | nil => exact .inr ⟨[], by simpa using longer.symm, left.symm⟩
    | cons other more =>
        obtain ⟨rfl, rfl⟩ := List.cons.inj left
        exact .inl ⟨more, longer, rfl⟩

/-- A segment of markup is read at a cursor, and the rest behind it. -/
theorem segmentsFrom_split {cursor : Cursor} {before after : List Segment} {piece : Segment}
    (split : segmentsFrom cursor = before ++ piece :: after)
    (markup : ∀ content, piece.token ≠ .text content) :
    ∃ here : Cursor, cursor.Reaches here ∧ here.rest ≠ [] ∧ (readToken here).1 = piece.token ∧
      after = (readRawText piece.token (readToken here).2).1 ++
        segmentsFrom (readRawText piece.token (readToken here).2).2 := by
  fun_induction segmentsFrom cursor generalizing before with
  | case1 cursor ended => simp at split
  | case2 cursor more step raw shorter =>
      rename_i inductionHypothesis
      cases before with
      | nil =>
          obtain ⟨rfl, rfl⟩ := List.cons.inj split
          exact ⟨cursor, .refl cursor, more, rfl, rfl⟩
      | cons first others =>
          rcases append_eq_append_cons (List.cons.inj split).2 with ⟨rest, inRaw, _⟩ | ⟨rest, _, same⟩
          · have member : piece ∈ raw.1 := by simp [inRaw]
            obtain ⟨content, isText⟩ := isText_of_mem_readRawText member
            exact absurd isText (markup content)
          · obtain ⟨here, reaches, reading⟩ := inductionHypothesis same
            have onward : cursor.Reaches raw.2 :=
              (reaches_readToken more).trans (reaches_readRawText step.1 step.2)
            exact ⟨here, onward.trans reaches, reading⟩

/-- An event belongs to the token of one segment. -/
theorem exists_segment_of_event {pieces : List Segment} {first second : List Event} {event : Event}
    (same : pieces.flatMap (·.token.events) = first ++ event :: second) :
    ∃ before piece after inner outer, pieces = before ++ piece :: after ∧
      piece.token.events = inner ++ event :: outer ∧
      first = before.flatMap (·.token.events) ++ inner ∧
      second = outer ++ after.flatMap (·.token.events) := by
  induction pieces generalizing first with
  | nil => simp at same
  | cons piece others inductionHypothesis =>
      rw [List.flatMap_cons] at same
      rcases append_eq_append_cons same with ⟨outer, inPiece, behind⟩ | ⟨rest, longer, left⟩
      · exact ⟨[], piece, others, first, outer, rfl, inPiece, rfl, behind⟩
      · obtain ⟨before, found, after, inner, outer, rfl, inPiece, ahead, behind⟩ :=
          inductionHypothesis left
        refine ⟨piece :: before, found, after, inner, outer, rfl, inPiece, ?_, behind⟩
        rw [longer, ahead, List.flatMap_cons, List.append_assoc]

/-- Only a start tag reports its end, and it reports the end last. -/
theorem eq_startTag_of_startTagEnd {token : Token} {stop : Nat} {inner outer : List Event}
    (same : token.events = inner ++ .startTagEnd stop :: outer) :
    ∃ name written, token = .startTag name written false stop ∧
      inner = .startTag name :: written.flatMap (·.events) ∧ outer = [] := by
  have member : .startTagEnd stop ∈ token.events := by simp [same]
  have apart (written : List AttributeToken) : .startTagEnd stop ∉ written.flatMap (·.events) := by
    simp [AttributeToken.events]
  cases token with
  | startTag name written selfClosing place =>
      have noEnd : .startTagEnd stop ∉ .startTag name :: written.flatMap (·.events) := by
        simpa using apart written
      obtain ⟨isInner, isEnd, isOuter⟩ :=
        (List.append_cons_inj_of_notMem noEnd List.not_mem_nil).mp same
      cases selfClosing with
      | true => contradiction
      | false =>
          obtain rfl := Event.startTagEnd.inj isEnd
          exact ⟨name, written, rfl, isInner.symm, isOuter.symm⟩
  | unfinished construct place =>
      cases construct <;> simp [Token.events, Unfinished.events, apart] at member
  | _ => simp [Token.events] at member

/-- The last event that begins something is determined. -/
theorem last_beginning_unique {first second inner outer : List Event} {event other : Event}
    (same : first ++ event :: inner = second ++ other :: outer) (begins : event.begins = true)
    (otherBegins : other.begins = true) (inTag : ∀ part ∈ inner, part.begins = false)
    (otherInTag : ∀ part ∈ outer, part.begins = false) :
    first = second ∧ event = other ∧ inner = outer := by
  rcases append_eq_append_cons same with ⟨rest, _, isOuter⟩ | ⟨rest, longer, left⟩
  · have member : event ∈ outer := by simp [isOuter]
    rw [otherInTag event member] at begins
    contradiction
  · cases rest with
    | nil =>
        obtain ⟨rfl, rfl⟩ := List.cons.inj left
        exact ⟨by simpa using longer.symm, rfl, rfl⟩
    | cons part more =>
        have member : other ∈ inner := by simp [(List.cons.inj left).2]
        rw [inTag other member] at otherBegins
        contradiction

/-- The events of a text. An empty one is not reported. -/
def Lexeme.textEvents (content : Lexeme) : List Event :=
  if content.start < content.stop then [.text content] else []

theorem Lexeme.textEvents_eq (content : Lexeme) :
    content.textEvents = if content.chars.isEmpty then [] else [.text content] := by
  rw [textEvents]
  cases empty : content.chars with
  | nil => simp [stop, empty]
  | cons c rest =>
      have filled : content.chars ≠ [] := by simp [empty]
      exact if_pos (Nat.lt_add_of_pos_right (Text.byteLength_pos filled))

namespace OpensRawText

variable {source : List Char} {earlier attributes later : List Event} {name : Lexeme} {stop : Nat}

/-- The start tag is a segment of the source. -/
theorem exists_segment (opens : OpensRawText source earlier name attributes stop later) :
    ∃ before piece written after, segments source = before ++ piece :: after ∧
      piece.token = .startTag name written false stop ∧
      earlier = before.flatMap (·.token.events) ∧ attributes = written.flatMap (·.events) ∧
      later = after.flatMap (·.token.events) ++ [.finish] := by
  have reported := opens.reported
  rw [events_eq] at reported
  rcases append_eq_append_cons reported with ⟨rest, inSegments, isLater⟩ | ⟨rest, _, left⟩
  · obtain ⟨before, piece, after, inner, outer, whole, inPiece, ahead, behind⟩ :=
      exists_segment_of_event inSegments
    obtain ⟨other, written, token, rfl, rfl⟩ := eq_startTag_of_startTagEnd inPiece
    obtain ⟨isEarlier, isName, isAttributes⟩ := last_beginning_unique ahead rfl rfl
      opens.inTag fun part member => not_begins_of_mem member
    obtain rfl := Event.startTag.inj isName
    refine ⟨before, piece, written, after, whole, token, isEarlier, isAttributes, ?_⟩
    rw [isLater, behind, List.nil_append]
  · have member : .startTagEnd stop ∈ [Event.finish] := by simp [left]
    simp at member

/-- After the start tag the raw text is searched for its end. -/
theorem exists_reading (opens : OpensRawText source earlier name attributes stop later) :
    ∃ (inside : Cursor) (found : List Char → Bool), Cursor.Reaches ⟨0, source⟩ inside ∧
      inside.offset = stop + 1 ∧ (∀ rest, found rest = true ↔ EndsRawText name.chars rest) ∧
      later = (inside.readUntil found).textEvents ++
        ((segmentsFrom (inside.skipUntil found)).flatMap (·.token.events) ++ [.finish]) := by
  obtain ⟨before, piece, written, after, whole, token, _, _, rfl⟩ := opens.exists_segment
  obtain ⟨here, reaches, more, read, rfl⟩ := segmentsFrom_split whole (by simp [token])
  have placed := placed_readToken more
  rw [read, token] at placed
  obtain ⟨_, closing, _, _, _, isStop, closes, _⟩ := placed
  obtain ⟨tag, isTag, same⟩ := exists_rawTextTag? opens.isRawText
  refine ⟨(readToken here).2, startsRawTextEnd tag.toList, reaches.trans (reaches_readToken more), ?_,
    startsRawTextEnd_iff same, ?_⟩
  · rw [closes.offset, isStop]
    rfl
  · rw [token, readRawText, Token.rawText?, isTag, Lexeme.textEvents_eq]
    dsimp only
    rw [List.flatMap_append, List.append_assoc]
    split <;> rfl

/-- Whatever is reported before the end of the start tag lies before it. -/
theorem precedes (opens : OpensRawText source earlier name attributes stop later) :
    ∀ event ∈ earlier ++ .startTag name :: attributes, ∀ stretch ∈ event.stretch?,
      stretch.stop ≤ stop := by
  intro event member stretch named
  have ordered := events_precede source
  rw [opens.reported, List.pairwise_append] at ordered
  exact ordered.2.2 event member (.startTagEnd stop) List.mem_cons_self stretch named _ rfl

end OpensRawText

/-- A raw text is reported verbatim, right after its start tag. -/
structure ReportsRawText (source name : List Char) (content : Lexeme) (later rest : List Event) :
    Prop where
  verbatim : content.chars = Text.sliceBytes source content.start content.stop
  stops : RawTextStops source name content.start content.stop
  first : later = content.textEvents ++ rest
  behind : ∀ event ∈ rest, ∀ stretch ∈ event.stretch?, content.stop ≤ stretch.start
  ended : (∀ offset, content.start ≤ offset → ¬RawTextEndsAt source name offset) → rest = [.finish]

/-- A raw text is reported verbatim, whatever it holds. -/
theorem rawText_reported_verbatim {source : List Char} {earlier attributes later : List Event}
    {name : Lexeme} {stop : Nat} (opens : OpensRawText source earlier name attributes stop later) :
    (∀ event ∈ earlier ++ .startTag name :: attributes, ∀ stretch ∈ event.stretch?,
      stretch.stop ≤ stop) ∧
    ∃ content rest, content.start = stop + 1 ∧
      ReportsRawText source name.chars content later rest := by
  refine ⟨opens.precedes, ?_⟩
  obtain ⟨inside, found, reaches, offset, detects, isLater⟩ := opens.exists_reading
  have onward := inside.passes_skipUntil found
  refine ⟨inside.readUntil found, _, offset, ?_, rawTextStops_readUntil detects reaches, isLater, ?_, ?_⟩
  · obtain ⟨before, whole, start⟩ := reaches.exists_before
    show _ = Text.sliceBytes source inside.offset
      (inside.offset + Text.byteLength (inside.readUntil found).chars)
    rw [whole, onward.rest, start, Text.sliceBytes_append]
  · intro event member stretch named
    rcases List.mem_append.mp member with inSegments | isFinish
    · exact ((tiles_segmentsFrom _).reports.within inSegments named).1
    · rw [List.mem_singleton.mp isFinish] at named
      contradiction
  · intro none
    have ended : (inside.skipUntil found).rest = [] :=
      Classical.byContradiction fun more =>
        none _ (Nat.le_add_right _ _) (rawTextEndsAt_readUntil detects reaches more)
    rw [(tiles_segmentsFrom _).eq_nil ended]
    rfl

/-- An end tag of a longer name belongs to the raw text. -/
theorem rawText_reported_verbatim_prefixedName :
    OpensRawText "<Script a>b</scripts></SCRIPT >".toList [] ⟨1, "Script".toList⟩
      [.attributeName ⟨8, ['a']⟩, .attributeEnd .noValue 9] 9
      [.text ⟨10, "b</scripts>".toList⟩, .endTag ⟨23, "SCRIPT".toList⟩, .finish] ∧
    ∃ content rest, content.start = 9 + 1 ∧
      ReportsRawText "<Script a>b</scripts></SCRIPT >".toList "Script".toList content
        [.text ⟨10, "b</scripts>".toList⟩, .endTag ⟨23, "SCRIPT".toList⟩, .finish] rest := by
  have opens : OpensRawText "<Script a>b</scripts></SCRIPT >".toList [] ⟨1, "Script".toList⟩
      [.attributeName ⟨8, ['a']⟩, .attributeEnd .noValue 9] 9
      [.text ⟨10, "b</scripts>".toList⟩, .endTag ⟨23, "SCRIPT".toList⟩, .finish] :=
    ⟨by decide +kernel, by decide, "script", by decide, by decide⟩
  exact ⟨opens, (rawText_reported_verbatim opens).2⟩

end HtmlTemplate.Markup
