/-
This file says where tokens stand in the part of the source that they cover: which marks open and close
them, and where the names and values inside them start and stop.
-/

import HtmlTemplate.Proofs.Markup.Tiling
import Mathlib.Data.List.TakeWhile

namespace HtmlTemplate.Markup

namespace Cursor

/-- Whatever lies further on than a character lies behind it. -/
theorem Reaches.next_reaches {first last : Cursor} {c : Char} {rest : List Char}
    (reaches : first.Reaches last) (same : first.rest = c :: rest)
    (onward : first.offset < last.offset) : first.next.Reaches last := by
  obtain ⟨word, passes⟩ := reaches
  cases word with
  | nil =>
      rw [passes.eq_of_nil] at onward
      exact absurd onward (Nat.lt_irrefl _)
  | cons d more =>
      have whole := passes.rest
      rw [same, List.cons_append, List.cons.injEq] at whole
      obtain ⟨rfl, whole⟩ := whole
      refine ⟨more, by rw [next_rest same, whole], ?_⟩
      rw [passes.offset, (passes_next same).offset, Text.byteLength_cons, Text.byteLength_cons,
        Text.byteLength_nil, Nat.add_zero, Nat.add_assoc]

/-- Characters of one byte each can be gone back over byte by byte. -/
theorem Passes.exists_before {first last : Cursor} {word : List Char} (passes : first.Passes word last)
    (single : ∀ c ∈ word, c.utf8Size = 1) {count : Nat} (enough : count ≤ word.length) :
    ∃ middle, first.Reaches middle ∧ middle.Reaches last ∧ middle.offset + count = last.offset := by
  have split := List.take_append_drop (word.length - count) word
  have length : (word.drop (word.length - count)).length = count := by
    rw [List.length_drop, Nat.sub_sub_self enough]
  have back : Text.byteLength (word.drop (word.length - count)) = count := by
    rw [Text.byteLength_eq_length fun c member => single c (List.mem_of_mem_drop member), length]
  have offset : last.offset =
      first.offset + Text.byteLength (word.take (word.length - count)) + count := by
    rw [passes.offset, ← split, Text.byteLength_append, split, back, Nat.add_assoc]
  refine ⟨⟨first.offset + Text.byteLength (word.take (word.length - count)),
    word.drop (word.length - count) ++ last.rest⟩, ⟨_, ?_, rfl⟩, ⟨_, rfl, ?_⟩, offset.symm⟩
  · rw [passes.rest, ← List.append_assoc, split]
  · rw [back, offset]

/-- A word with characters takes the cursor further. -/
theorem Passes.offset_lt {first last : Cursor} {word : List Char} (passes : first.Passes word last)
    (filled : word ≠ []) : first.offset < last.offset := by
  rw [passes.offset]
  exact Nat.lt_add_of_pos_right (Text.byteLength_pos filled)

end Cursor

theorem utf8Size_of_isBlank {c : Char} (blank : Text.isBlank c = true) : c.utf8Size = 1 := by
  simp only [Text.isBlank, Bool.or_eq_true, beq_iff_eq] at blank
  obtain (((rfl | rfl) | rfl) | rfl) | rfl := blank <;> rfl

/-- Where an attribute ends. A quoted value ends after its closing quote. -/
def AttributeToken.last (written : AttributeToken) : Nat :=
  match written.quote with
  | .noValue => written.stop
  | .unquoted => written.stop
  | .single => written.stop + 1
  | .double => written.stop + 1

/-- An attribute stands between two cursors. -/
def AttributeToken.Within (written : AttributeToken) (first last : Cursor) : Prop :=
  ∃ start stop : Cursor, first.Reaches start ∧ start.offset = written.name.start ∧
    start.Reaches stop ∧ stop.offset = written.last ∧ stop.Reaches last

/-- An attribute that is found ends where the reader goes on. -/
def TagStep.EndsAttribute : TagStep → Prop
  | .found written after => after.offset = written.last
  | .ended _ _ _ => True
  | .cut _ => True

/-- A quoted attribute stops at its quote. -/
theorem readQuoted_endsAttribute (name : Lexeme) {mark : Char} {quote : Quote} (cursor : Cursor)
    (single : mark.utf8Size = 1) (quoted : quote = .single ∨ quote = .double) :
    (readQuoted name mark quote cursor).EndsAttribute := by
  unfold readQuoted
  dsimp only
  split
  · trivial
  · rename_i c rest same
    obtain rfl : c = mark := by simpa using Cursor.keep_of_skip_eq_cons same
    have offset := (Cursor.passes_next same).offset
    rw [Text.byteLength_cons, Text.byteLength_nil, single] at offset
    rcases quoted with rfl | rfl <;> exact offset

/-- A bare attribute stops behind its value. -/
theorem readUnquoted_endsAttribute (name : Lexeme) (cursor : Cursor) :
    (readUnquoted name cursor).EndsAttribute := by
  unfold readUnquoted
  dsimp only
  split
  · trivial
  · rfl

theorem readValue_endsAttribute (name : Lexeme) (cursor : Cursor) :
    (readValue name cursor).EndsAttribute := by
  unfold readValue
  dsimp only
  split
  · trivial
  · exact readQuoted_endsAttribute name _ rfl (.inr rfl)
  · exact readQuoted_endsAttribute name _ rfl (.inl rfl)
  · exact readUnquoted_endsAttribute name _

/-- Every attribute stops where it is recorded to. -/
theorem nextAttribute_endsAttribute (cursor : Cursor) : (nextAttribute cursor).EndsAttribute := by
  unfold nextAttribute readAfterName
  dsimp only
  split
  · trivial
  · trivial
  · split
    · trivial
    · split
      · trivial
      · exact readValue_endsAttribute _ _
      · rfl

/-- The next attribute stands where it is read. -/
theorem nextAttribute_within {cursor after : Cursor} {written : AttributeToken}
    (found : nextAttribute cursor = .found written after) : written.Within cursor after := by
  have reported := nextAttribute_reported cursor
  have ends := nextAttribute_endsAttribute cursor
  rw [found] at reported ends
  obtain ⟨start, stop, reaches, ⟨stretch, named, between, _⟩, onward⟩ :=
    reported.2.between List.mem_cons_self
  obtain rfl : written.name = stretch := Option.some.inj named
  exact ⟨start, after, reaches, between.1.symm, between.2.reaches.trans onward, ends, .refl after⟩

/-- The attributes of a start tag stand before its closing angle bracket. -/
theorem readAttributes_within {cursor after : Cursor} {selfClosing : Bool} {stop : Nat}
    (ended : (readAttributes cursor).2 = .ended selfClosing stop after) :
    ∃ closing : Cursor, cursor.Reaches closing ∧ closing.offset = stop ∧ closing.Passes ['>'] after ∧
      ∀ written ∈ (readAttributes cursor).1, written.Within cursor closing := by
  fun_induction readAttributes cursor with
  | case1 cursor written next found shorter more inductionHypothesis =>
      obtain ⟨closing, reaches, place, closes, others⟩ := inductionHypothesis ended
      obtain ⟨start, last, first, named, inner, lasts, rest⟩ := nextAttribute_within found
      have onward : cursor.Reaches next := first.trans (inner.trans rest)
      refine ⟨closing, onward.trans reaches, place, closes, List.forall_mem_cons.mpr ⟨?_, ?_⟩⟩
      · exact ⟨start, last, first, named, inner, lasts, rest.trans reaches⟩
      · intro other member
        obtain ⟨otherStart, otherStop, before, remaining⟩ := others other member
        exact ⟨otherStart, otherStop, onward.trans before, remaining⟩
  | case2 cursor isSelfClosing place next found =>
      have reported := nextAttribute_reported cursor
      rw [found] at reported
      obtain ⟨rfl, rfl, rfl⟩ := TagEnd.ended.inj ended
      obtain ⟨closing, reaches, here, closes⟩ := reported
      exact ⟨closing, reaches, here, closes, List.forall_mem_nil _⟩
  | case3 cursor pending found => contradiction

/-- The name of an end tag stands two bytes behind its start. -/
def Lexeme.InEndTag (name : Lexeme) (first last : Cursor) : Prop :=
  ∃ opening start stop closing : Cursor, first.Reaches opening ∧ opening.Reaches start ∧
    opening.offset + 2 = start.offset ∧ name.Between start stop ∧ stop.Reaches closing ∧
    closing.offset = stop.offset + 1 ∧ closing.Reaches last

/-- The content of a comment stands between its marks. -/
def Lexeme.InComment (content : Lexeme) (first last : Cursor) : Prop :=
  ∃ (opening closing : Cursor) (mark : List Char), first.Reaches opening ∧
    first.offset < opening.offset ∧ content.Between opening closing ∧ closing.Passes mark last ∧
    (mark = ['>'] ∨ mark = ['-', '-', '>'])

/-- Where a token stands between two cursors. -/
def Token.Placed (first last : Cursor) : Token → Prop
  | .text content => content.Between first last
  | .startTag name attributes _ stop =>
      ∃ opening closing : Cursor, first.Passes ['<'] opening ∧ opening.offset = name.start ∧
        opening.Reaches closing ∧ closing.offset = stop ∧ closing.Passes ['>'] last ∧
        ∀ written ∈ attributes, written.Within opening closing
  | .endTag name => name.InEndTag first last
  | .namelessEndTag stop => first.Closes stop last
  | .comment content => content.InComment first last
  | .declaration content =>
      ∃ opening closing : Cursor, first.Passes ['<', '!'] opening ∧ content.Between opening closing ∧
        closing.Passes ['>'] last
  | .unfinished construct stop =>
      last.rest = [] ∧ last.offset = stop ∧ ∀ name, construct = .endTag name → name.InEndTag first last

/-- What is read up to a closing angle bracket is whole or cut off. -/
theorem readBracketed_cases (token : Lexeme → Token) (cutOff : Unfinished) (cursor : Cursor) :
    (∃ last, cursor.Reaches last ∧ last.rest = [] ∧
      readBracketed token cutOff cursor = (.unfinished cutOff last.offset, last)) ∨
    ∃ content closing last, content.Between cursor closing ∧ closing.Passes ['>'] last ∧
      readBracketed token cutOff cursor = (token content, last) := by
  have passes := cursor.passes_skip (· != '>')
  unfold readBracketed
  dsimp only
  split
  · rename_i ended
    exact .inl ⟨_, passes.reaches, ended, rfl⟩
  · rename_i c rest same
    obtain rfl : c = '>' := by simpa using Cursor.keep_of_skip_eq_cons same
    exact .inr ⟨_, _, _, ⟨rfl, passes⟩, Cursor.passes_next same, rfl⟩

theorem placed_unfinished {first last : Cursor} {construct : Unfinished} (ended : last.rest = [])
    (noName : ∀ name, construct ≠ .endTag name) :
    (Token.unfinished construct last.offset).Placed first last :=
  ⟨ended, rfl, fun name isEndTag => absurd isEndTag (noName name)⟩

theorem placed_bracketedComment {first cursor : Cursor} (reaches : first.Reaches cursor)
    (onward : first.offset < cursor.offset) :
    (readBracketed .comment .comment cursor).1.Placed first
      (readBracketed .comment .comment cursor).2 := by
  rcases readBracketed_cases .comment .comment cursor with
    ⟨last, _, ended, read⟩ | ⟨content, closing, last, between, closes, read⟩
  · rw [read]
    exact placed_unfinished ended (by simp)
  · rw [read]
    exact ⟨cursor, closing, _, reaches, onward, between, closes, .inl rfl⟩

/-- A comment stands between its marks. -/
theorem placed_readComment {first cursor : Cursor} (reaches : first.Reaches cursor)
    (onward : first.offset < cursor.offset) :
    (readComment cursor).1.Placed first (readComment cursor).2 := by
  have passes := cursor.passes_skipUntil startsCommentEnd
  unfold readComment
  dsimp only
  split
  · exact placed_unfinished ‹_› (by simp)
  · rename_i c rest same
    have found : startsCommentEnd (cursor.skipUntil startsCommentEnd).rest = true :=
      Text.found_of_dropUntil (show (cursor.skipUntil startsCommentEnd).rest ≠ [] by simp [same])
    obtain ⟨after, whole⟩ := List.isPrefixOf_iff_prefix.mp found
    have mark := (Cursor.passes_next_next whole.symm).trans
      (Cursor.passes_next (Cursor.next_rest (Cursor.next_rest whole.symm)))
    exact ⟨cursor, _, _, reaches, onward, ⟨rfl, passes⟩, mark, .inr rfl⟩

/-- A declaration stands between its marks. -/
theorem placed_readDeclaration {first cursor : Cursor} (opens : first.Passes ['<', '!'] cursor) :
    (readDeclaration cursor).1.Placed first (readDeclaration cursor).2 := by
  have onward := opens.offset_lt (List.cons_ne_nil _ _)
  unfold readDeclaration
  split
  · rename_i same
    have dashes := Cursor.passes_next_next same
    exact placed_readComment (opens.reaches.trans dashes.reaches)
      (Nat.lt_trans onward (dashes.offset_lt (List.cons_ne_nil _ _)))
  · exact placed_bracketedComment opens.reaches onward
  · exact placed_bracketedComment opens.reaches onward
  · rcases readBracketed_cases .declaration .declaration cursor with
      ⟨last, _, ended, read⟩ | ⟨content, closing, last, between, closes, read⟩
    · rw [read]
      exact placed_unfinished ended (by simp)
    · rw [read]
      exact ⟨cursor, closing, opens, between, closes⟩

theorem isEndTagNameChar_eq_false_iff (c : Char) :
    isEndTagNameChar c = false ↔ c = '>' ∨ Text.isBlank c = true := by
  simp only [isEndTagNameChar, Bool.not_eq_false', Bool.or_eq_true, beq_iff_eq]

/-- A blank or an angle bracket ends the name of an end tag. -/
theorem inEndTag {first cursor last : Cursor} {blanks : List Char} {c : Char} {rest : List Char}
    {name : Lexeme} {stop : Cursor} (opens : first.Passes ('<' :: '/' :: blanks) cursor)
    (isBlank : ∀ c ∈ blanks, Text.isBlank c = true) (between : name.Between cursor stop)
    (same : stop.rest = c :: rest) (ends : isEndTagNameChar c = false) (reaches : stop.Reaches last)
    (onward : stop.offset < last.offset) : name.InEndTag first last := by
  have single : ∀ c ∈ '<' :: '/' :: blanks, c.utf8Size = 1 := by
    intro c member
    rcases List.mem_cons.mp member with rfl | inRest
    · rfl
    · rcases List.mem_cons.mp inRest with rfl | inBlanks
      · rfl
      · exact utf8Size_of_isBlank (isBlank c inBlanks)
  obtain ⟨opening, before, after, offset⟩ := opens.exists_before single (Nat.le_add_left 2 _)
  have size : c.utf8Size = 1 := by
    rcases (isEndTagNameChar_eq_false_iff c).mp ends with rfl | blank
    · rfl
    · exact utf8Size_of_isBlank blank
  have step := Cursor.passes_next same
  refine ⟨opening, cursor, stop, stop.next, before, after, offset, between, step.reaches, ?_,
    reaches.next_reaches same onward⟩
  rw [step.offset, Text.byteLength_cons, Text.byteLength_nil, size]

/-- An end tag stands between its marks. -/
theorem placed_readEndTag {first cursor : Cursor} (opens : first.Passes ['<', '/'] cursor) :
    (readEndTag cursor).1.Placed first (readEndTag cursor).2 := by
  have blanks := cursor.passes_skip Text.isBlank
  have isBlank : ∀ c ∈ (cursor.read Text.isBlank).chars, Text.isBlank c = true :=
    fun c member => List.mem_takeWhile_imp member
  unfold readEndTag
  dsimp only
  split
  · exact placed_unfinished ‹_› (by simp)
  · rename_i rest same
    exact ⟨_, opens.reaches.trans blanks.reaches, rfl, Cursor.passes_next same⟩
  · rename_i c rest notEnd same
    have more : (cursor.skip Text.isBlank).rest ≠ [] := by simp [same]
    have between := Cursor.between_readName more isEndTagNameChar
    unfold readAfterEndTagName
    split
    · exact placed_unfinished ‹_› (by simp)
    · rename_i d others follows
      have ends : isEndTagNameChar d = false := Cursor.keep_of_skip_eq_cons follows
      have inTag {last : Cursor}
          (reaches : ((cursor.skip Text.isBlank).skipName isEndTagNameChar).Reaches last)
          (onward : ((cursor.skip Text.isBlank).skipName isEndTagNameChar).offset < last.offset) :=
        inEndTag (opens.trans blanks) isBlank between follows ends reaches onward
      rcases readBracketed_cases
          (fun _ => .endTag ((cursor.skip Text.isBlank).readName isEndTagNameChar))
          (.endTag ((cursor.skip Text.isBlank).readName isEndTagNameChar))
          ((cursor.skip Text.isBlank).skipName isEndTagNameChar) with
        ⟨last, reaches, ended, read⟩ | ⟨content, closing, last, inside, closes, read⟩
      · rw [read]
        refine ⟨ended, rfl, ?_⟩
        intro name isEndTag
        obtain rfl := Unfinished.endTag.inj isEndTag
        obtain ⟨word, passes⟩ := reaches
        refine inTag passes.reaches (passes.offset_lt ?_)
        rintro rfl
        rw [← passes.eq_of_nil, ended] at follows
        contradiction
      · rw [read]
        exact inTag (inside.2.reaches.trans closes.reaches)
          (Nat.lt_of_le_of_lt inside.2.reaches.offset_le (closes.offset_lt (List.cons_ne_nil _ _)))

/-- A start tag stands between its marks. -/
theorem placed_readStartTag {first cursor : Cursor} (opens : first.Passes ['<'] cursor)
    (more : cursor.rest ≠ []) : (readStartTag cursor).1.Placed first (readStartTag cursor).2 := by
  have named := Cursor.between_readName more fun c => !endsTagName c
  unfold readStartTag
  dsimp only
  split
  · exact placed_unfinished rfl (by simp)
  · split
    · rename_i selfClosing stop next ended
      obtain ⟨closing, reaches, place, closes, within⟩ := readAttributes_within ended
      refine ⟨cursor, closing, opens, named.1.symm, named.2.reaches.trans reaches, place, closes, ?_⟩
      intro written member
      obtain ⟨start, last, before, remaining⟩ := within written member
      exact ⟨start, last, named.2.reaches.trans before, remaining⟩
    · exact placed_unfinished rfl (by simp)

theorem placed_readText {cursor : Cursor} (more : cursor.rest ≠ []) :
    (readText cursor).1.Placed cursor (readText cursor).2 :=
  Cursor.between_readName more (· != '<')

/-- Every token that is read stands between the cursors before and after it. -/
theorem placed_readToken {cursor : Cursor} (more : cursor.rest ≠ []) :
    (readToken cursor).1.Placed cursor (readToken cursor).2 := by
  unfold readToken
  split
  · rename_i rest same
    exact placed_readDeclaration (Cursor.passes_next_next same)
  · rename_i rest same
    have opening := Cursor.passes_next_next same
    exact placed_bracketedComment opening.reaches (opening.offset_lt (List.cons_ne_nil _ _))
  · rename_i rest same
    exact placed_readEndTag (Cursor.passes_next_next same)
  · rename_i c rest _ _ _ same
    split
    · have named : cursor.next.rest ≠ [] := by simp [Cursor.next_rest same]
      exact placed_readStartTag (Cursor.passes_next same) named
    · exact placed_readText more
  · exact placed_readText more

theorem reaches_readToken {cursor : Cursor} (more : cursor.rest ≠ []) :
    cursor.Reaches (readToken cursor).2 := by
  rcases readToken_reading cursor with isText | ⟨_, reading⟩
  · rw [isText]
    exact (Cursor.passes_skipName more (· != '<')).reaches
  · exact reading.reports.reaches

/-- The segments follow one another, and each token stands in its segment. -/
inductive Cursor.Lays : Cursor → List Segment → Prop where
  | done {cursor : Cursor} (ended : cursor.rest = []) : Lays cursor []
  | token {cursor after : Cursor} {word : List Char} {token : Token} {later : List Segment}
      (passes : cursor.Passes word after) (filled : word ≠ []) (placed : token.Placed cursor after)
      (lays : Lays after later) : Lays cursor (⟨⟨cursor.offset, word⟩, token⟩ :: later)

/-- A raw text is laid behind its start tag. -/
theorem lays_readRawText {token : Token} {cursor : Cursor} {later : List Segment}
    (lays : (readRawText token cursor).2.Lays later) :
    cursor.Lays ((readRawText token cursor).1 ++ later) := by
  unfold readRawText at lays ⊢
  cases raw : token.rawText? with
  | none =>
      rw [raw] at lays
      exact lays
  | some tag =>
      rw [raw] at lays
      have passes := cursor.passes_skipUntil (startsRawTextEnd tag.toList)
      dsimp only at lays ⊢
      split
      · rename_i empty
        rw [List.isEmpty_iff.mp empty] at passes
        rwa [passes.eq_of_nil] at lays
      · rename_i filled
        have filled : (cursor.readUntil (startsRawTextEnd tag.toList)).chars ≠ [] := by
          simpa using filled
        exact .token passes filled ⟨rfl, passes⟩ lays

/-- The segments of a source are laid one after another. -/
theorem lays_segmentsFrom (cursor : Cursor) : cursor.Lays (segmentsFrom cursor) := by
  fun_induction segmentsFrom cursor with
  | case1 cursor ended => exact .done ended
  | case2 cursor more step raw shorter inductionHypothesis =>
      have later : step.2.Lays (raw.1 ++ segmentsFrom raw.2) := lays_readRawText inductionHypothesis
      have placed : step.1.Placed cursor step.2 := placed_readToken more
      obtain ⟨word, passes⟩ := reaches_readToken more
      have filled : word ≠ [] := by
        rintro rfl
        have less := readToken_length_lt cursor more
        rw [passes.rest] at less
        exact absurd less (Nat.lt_irrefl _)
      rw [Cursor.covered_eq passes]
      exact .token passes filled placed later

end HtmlTemplate.Markup
