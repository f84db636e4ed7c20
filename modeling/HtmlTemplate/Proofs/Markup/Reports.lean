/-
This file says what the readers of the tokenizer report. Each of them moves forward in the source and names
stretches of what it passes, in their order, up to a closing angle bracket or the end of the source.
-/

import HtmlTemplate.Markup.Token.Scan
import HtmlTemplate.Proofs.Markup.Cursor
import HtmlTemplate.Proofs.Markup.Protocol

namespace HtmlTemplate.Markup

/-- A closing angle bracket ends what is read. -/
def Cursor.Closes (first : Cursor) (stop : Nat) (after : Cursor) : Prop :=
  ∃ closing : Cursor, first.Reaches closing ∧ closing.offset = stop ∧ closing.Passes ['>'] after

/-- What a step inside a start tag reports of the characters that it passes. -/
def TagStep.Reported (start : Cursor) : TagStep → Prop
  | .found written after => written.IsMarked ∧ start.Reports written.events after
  | .ended _ stop after => start.Closes stop after
  | .cut pending => start.Reports (pending.toList.map .attributeName) start.finish

section

variable {start cursor : Cursor} {name : Lexeme}

/-- The name of an attribute has been reported. -/
def Cursor.Named (start : Cursor) (name : Lexeme) (cursor : Cursor) : Prop :=
  start.Reports [.attributeName name] cursor

theorem Cursor.Named.onward {later : Cursor} (named : start.Named name cursor)
    (reaches : cursor.Reaches later) : start.Named name later :=
  named.until reaches

theorem Cursor.Named.cut (named : start.Named name cursor) :
    (TagStep.cut (some name)).Reported start := by
  have toEnd := named.until cursor.passes_finish.reaches
  rwa [named.reaches.finish_eq] at toEnd

/-- A value is reported where it stands, unless it is empty. -/
theorem Cursor.Named.found {inner closing after : Cursor} {value : Lexeme} {quote : Quote}
    (named : start.Named name inner) (between : value.Between inner closing)
    (marked : quote = .noValue → value.chars = []) (reaches : closing.Reaches after) :
    (TagStep.found ⟨name, value, quote, closing.offset⟩ after).Reported start := by
  have reportsValue : inner.Reports (if value.chars.isEmpty then [] else [.value value]) closing := by
    split
    · exact .nothing between.2.reaches
    · rename_i filled
      exact Cursor.reports_single (between.of_filled rfl (by simpa using filled))
  have reportsEnd : closing.Reports [.attributeEnd quote closing.offset] closing :=
    Cursor.reports_single (closing.between_here.of_any rfl rfl)
  exact ⟨marked, (named.append (reportsValue.append reportsEnd)).until reaches⟩

/-- A quoted value is reported behind its name. -/
theorem readQuoted_reported (named : start.Named name cursor) (opening : cursor.rest ≠ [])
    (mark : Char) {quote : Quote} (quoted : quote ≠ .noValue) :
    (readQuoted name mark quote cursor).Reported start := by
  obtain ⟨first, rest, same⟩ := List.exists_cons_of_ne_nil opening
  have inside := named.onward (Cursor.passes_next same).reaches
  have passes := cursor.next.passes_skip (· != mark)
  unfold readQuoted
  dsimp only
  split
  · exact inside.cut
  · rename_i c more closing
    exact inside.found ⟨rfl, passes⟩ (fun bare => absurd bare quoted)
      (Cursor.passes_next closing).reaches

/-- A bare value is reported behind its name. -/
theorem readUnquoted_reported (named : start.Named name cursor) :
    (readUnquoted name cursor).Reported start := by
  have passes := cursor.passes_skip isUnquotedChar
  unfold readUnquoted
  dsimp only
  split
  · exact named.cut
  · exact named.found ⟨rfl, passes⟩ (fun bare => by contradiction) (.refl _)

theorem readValue_reported (named : start.Named name cursor) :
    (readValue name cursor).Reported start := by
  have atValue := named.onward (cursor.passes_skip Text.isBlank).reaches
  unfold readValue
  dsimp only
  split
  · exact atValue.cut
  · rename_i same
    exact readQuoted_reported atValue (by simp [same]) '"' (by decide)
  · rename_i same
    exact readQuoted_reported atValue (by simp [same]) '\'' (by decide)
  · exact readUnquoted_reported atValue

theorem readAfterName_reported (named : start.Named name cursor) :
    (readAfterName name cursor).Reported start := by
  have passes := cursor.passes_skip Text.isBlank
  have afterBlanks := named.onward passes.reaches
  unfold readAfterName
  split
  · exact .nothing start.passes_finish.reaches
  · dsimp only
    split
    · exact afterBlanks.cut
    · rename_i same
      exact readValue_reported (afterBlanks.onward (Cursor.passes_next same).reaches)
    · exact afterBlanks.found ⟨rfl, .refl _⟩ (fun _ => rfl) (.refl _)

/-- The next attribute is reported from the cursor on. -/
theorem nextAttribute_reported (cursor : Cursor) : (nextAttribute cursor).Reported cursor := by
  have passes := cursor.passes_skip isGap
  unfold nextAttribute
  dsimp only
  split
  · exact .nothing cursor.passes_finish.reaches
  · rename_i same
    exact ⟨cursor.skip isGap, passes.reaches, rfl, Cursor.passes_next same⟩
  · rename_i c rest notEnd same
    have more : (cursor.skip isGap).rest ≠ [] := by simp [same]
    have named : cursor.Named ((cursor.skip isGap).readName isAttributeNameChar)
        ((cursor.skip isGap).skipName isAttributeNameChar) :=
      .event passes.reaches
        ((Cursor.between_readName more _).of_filled rfl (Cursor.readName_ne_nil more _))
        (.nothing (.refl _))
    exact readAfterName_reported named

end

/-- How the inside of a start tag ends, after its attributes. -/
def TagEnd.Reported (start : Cursor) : TagEnd → Prop
  | .ended _ stop after => start.Closes stop after
  | .cut pending => start.Reports (pending.toList.map .attributeName) start.finish

/-- All attributes are reported one after another. -/
theorem readAttributes_reported (cursor : Cursor) :
    ∃ last, (∀ written ∈ (readAttributes cursor).1, written.IsMarked) ∧
      cursor.Reports ((readAttributes cursor).1.flatMap (·.events)) last ∧
      (readAttributes cursor).2.Reported last := by
  fun_induction readAttributes cursor with
  | case1 cursor written next found shorter more inductionHypothesis =>
      have step := nextAttribute_reported cursor
      rw [found] at step
      obtain ⟨last, marked, reports, ends⟩ := inductionHypothesis
      exact ⟨last, List.forall_mem_cons.mpr ⟨step.1, marked⟩, step.2.append reports, ends⟩
  | case2 cursor selfClosing stop after found =>
      have step := nextAttribute_reported cursor
      rw [found] at step
      exact ⟨cursor, List.forall_mem_nil _, .nothing (.refl cursor), step⟩
  | case3 cursor pending found =>
      have step := nextAttribute_reported cursor
      rw [found] at step
      exact ⟨cursor, List.forall_mem_nil _, .nothing (.refl cursor), step⟩

def Token.isUnfinished : Token → Bool
  | .unfinished _ _ => true
  | .text _ => false
  | .startTag _ _ _ _ => false
  | .endTag _ => false
  | .namelessEndTag _ => false
  | .comment _ => false
  | .declaration _ => false

/-- Whether a token is a construct that is complete. -/
def Token.isClosed : Token → Bool
  | .startTag _ _ _ _ => true
  | .endTag _ => true
  | .namelessEndTag _ => true
  | .comment _ => true
  | .declaration _ => true
  | .text _ => false
  | .unfinished _ _ => false

/-- The events of a construct name stretches of the characters passed. -/
structure Reading (start : Cursor) (result : Token × Cursor) : Prop where
  reports : start.Reports result.1.events result.2
  ends : (result.1.isClosed = true ∧ IsItem result.1.events ∧ ∃ stop, start.Closes stop result.2) ∨
    (result.1.isUnfinished = true ∧ IsBody result.1.events ∧ result.2.rest = [])

/-- What starts with an angle bracket is no text. -/
theorem Reading.ne_text {start after : Cursor} {token : Token} (reading : Reading start (token, after))
    (content : Lexeme) : token ≠ .text content := by
  rintro rfl
  rcases reading.ends with ⟨closed, _⟩ | ⟨unfinished, _⟩ <;> contradiction

theorem Reading.after {earlier start : Cursor} {result : Token × Cursor}
    (reaches : earlier.Reaches start) (reading : Reading start result) : Reading earlier result := by
  refine ⟨reading.reports.after reaches, ?_⟩
  rcases reading.ends with ⟨closed, item, stop, closing, onward, place, closes⟩ | cut
  · exact .inl ⟨closed, item, stop, closing, reaches.trans onward, place, closes⟩
  · exact .inr cut

/-- The end of the source cuts off a construct. -/
theorem reading_unfinished {start cursor last : Cursor} {construct : Unfinished}
    (body : ∀ offset, IsBody (construct.events ++ [.error construct.code offset]))
    (part : start.Reports construct.events cursor) (reaches : cursor.Reaches last)
    (ended : last.rest = []) : Reading start (.unfinished construct last.offset, last) := by
  have error : last.Reports [.error construct.code last.offset] last :=
    Cursor.reports_single (last.between_here.of_any rfl rfl)
  exact ⟨(part.until reaches).append error, .inr ⟨rfl, body _, ended⟩⟩

/-- A closing angle bracket ends a construct. -/
theorem reading_closed {start closing after : Cursor} {token : Token}
    (closed : token.isClosed = true) (item : IsItem token.events)
    (whole : start.Reports token.events closing) (closes : closing.Passes ['>'] after) :
    Reading start (token, after) :=
  ⟨whole.until closes.reaches,
    .inl ⟨closed, item, closing.offset, closing, whole.reaches, rfl, closes⟩⟩

/-- What is read up to a bracket is reported so. -/
theorem readBracketed_reading {start cursor : Cursor} {token : Lexeme → Token}
    {cutOff : Unfinished} (closed : ∀ content, (token content).isClosed = true)
    (item : ∀ content, IsItem (token content).events)
    (body : ∀ offset, IsBody (cutOff.events ++ [.error cutOff.code offset]))
    (whole : ∀ {content closing}, content.Between cursor closing →
      start.Reports (token content).events closing)
    (part : start.Reports cutOff.events cursor) :
    Reading start (readBracketed token cutOff cursor) := by
  have passes := cursor.passes_skip (· != '>')
  unfold readBracketed
  dsimp only
  split
  · exact reading_unfinished body part passes.reaches ‹_›
  · rename_i c rest same
    obtain rfl : c = '>' := by simpa using Cursor.keep_of_skip_eq_cons same
    exact reading_closed (closed _) (item _) (whole ⟨rfl, passes⟩) (Cursor.passes_next same)

/-- A comment is reported as it is read. -/
theorem readComment_reading (cursor : Cursor) : Reading cursor (readComment cursor) := by
  have passes := cursor.passes_skipUntil startsCommentEnd
  unfold readComment
  dsimp only
  split
  · exact reading_unfinished (fun offset => .tail (.comment offset)) (.nothing (.refl cursor))
      passes.reaches ‹_›
  · rename_i c rest same
    have found : startsCommentEnd (cursor.skipUntil startsCommentEnd).rest = true :=
      Text.found_of_dropUntil (show (cursor.skipUntil startsCommentEnd).rest ≠ [] by simp [same])
    obtain ⟨after, whole⟩ := List.isPrefixOf_iff_prefix.mp found
    have dashes := Cursor.passes_next_next whole.symm
    have bracket := Cursor.passes_next (Cursor.next_rest (Cursor.next_rest whole.symm))
    have content : cursor.Reports [.comment (cursor.readUntil startsCommentEnd)]
        (cursor.skipUntil startsCommentEnd) :=
      Cursor.reports_single (Lexeme.Between.of_any ⟨rfl, passes⟩ rfl rfl)
    exact reading_closed rfl (.comment _) (content.until dashes.reaches) bracket

theorem readBracketed_comment (cursor : Cursor) :
    Reading cursor (readBracketed .comment .comment cursor) :=
  readBracketed_reading (fun _ => rfl) (fun content => .comment content)
    (fun offset => .tail (.comment offset))
    (fun between => Cursor.reports_single (between.of_any rfl rfl)) (.nothing (.refl cursor))

/-- A declaration is reported as it is read. -/
theorem readDeclaration_reading (cursor : Cursor) : Reading cursor (readDeclaration cursor) := by
  unfold readDeclaration
  split
  · exact (readComment_reading _).after (Cursor.passes_next_next ‹_›).reaches
  · exact readBracketed_comment cursor
  · exact readBracketed_comment cursor
  · exact readBracketed_reading (fun _ => rfl) (fun content => .declaration content)
      (fun offset => .tail (.declaration offset))
      (fun between => Cursor.reports_single (between.of_any rfl rfl)) (.nothing (.refl cursor))

/-- An end tag is reported as it is read. -/
theorem readEndTag_reading (cursor : Cursor) : Reading cursor (readEndTag cursor) := by
  have passes := cursor.passes_skip Text.isBlank
  apply Reading.after passes.reaches
  unfold readEndTag
  dsimp only
  split
  · exact reading_unfinished (fun offset => .tail (.tag offset)) (.nothing (.refl _)) (.refl _) ‹_›
  · rename_i same
    have error : (cursor.skip Text.isBlank).Reports
        [.error .missingEndTagName (cursor.skip Text.isBlank).offset] (cursor.skip Text.isBlank) :=
      Cursor.reports_single ((Cursor.between_here _).of_any rfl rfl)
    exact reading_closed rfl (.namelessEndTag _) error (Cursor.passes_next same)
  · rename_i c rest notEnd same
    have more : (cursor.skip Text.isBlank).rest ≠ [] := by simp [same]
    have named : (cursor.skip Text.isBlank).Reports
        [.endTag ((cursor.skip Text.isBlank).readName isEndTagNameChar)]
        ((cursor.skip Text.isBlank).skipName isEndTagNameChar) :=
      Cursor.reports_single
        ((Cursor.between_readName more _).of_filled rfl (Cursor.readName_ne_nil more _))
    unfold readAfterEndTagName
    split
    · exact reading_unfinished (fun offset => .tail (.tag offset)) (.nothing named.reaches)
        (.refl _) ‹_›
    · exact readBracketed_reading (fun _ => rfl) (fun _ => .endTag _)
        (fun offset => .item (.endTag _) (.tail (.tag offset)))
        (fun between => named.until between.2.reaches) named

/-- A start tag is reported as it is read. -/
theorem readStartTag_reading {cursor : Cursor} (more : cursor.rest ≠ []) :
    Reading cursor (readStartTag cursor) := by
  have named : cursor.Reports [.startTag (cursor.readName fun c => !endsTagName c)]
      (cursor.skipName fun c => !endsTagName c) :=
    Cursor.reports_single
      ((Cursor.between_readName more _).of_filled rfl (Cursor.readName_ne_nil more _))
  obtain ⟨last, marked, reports, ends⟩ :=
    readAttributes_reported (cursor.skipName fun c => !endsTagName c)
  have inside := named.append reports
  have isAttributes := isAttributes_flatMap marked
  unfold readStartTag
  dsimp only
  split
  · exact reading_unfinished (fun offset => .tail (.tag offset)) (.nothing (.refl cursor))
      cursor.passes_finish.reaches rfl
  · split
    · rename_i selfClosing stop next ended
      rw [ended] at ends
      obtain ⟨closing, reaches, place, closes⟩ := ends
      have tagEnd : closing.Reports
          [if selfClosing then .selfClosing stop else .startTagEnd stop] closing := by
        rw [← place]
        split <;> exact Cursor.reports_single (closing.between_here.of_any rfl rfl)
      have item : IsItem (Token.startTag (cursor.readName fun c => !endsTagName c)
          (readAttributes (cursor.skipName fun c => !endsTagName c)).1 selfClosing stop).events := by
        cases selfClosing with
        | false => exact .startTag _ isAttributes stop
        | true => exact .selfClosing _ isAttributes stop
      exact reading_closed rfl item ((inside.until reaches).append tagEnd) closes
    · rename_i pending ended
      rw [ended] at ends
      have whole := inside.append ends
      rw [← inside.reaches.finish_eq]
      exact reading_unfinished (fun offset => .tail (.startTag _ isAttributes pending offset)) whole
        (.refl _) rfl

/-- A token is a text, or a construct that an angle bracket opens. -/
theorem readToken_reading (cursor : Cursor) :
    readToken cursor = readText cursor ∨
      cursor.rest.head? = some '<' ∧ Reading cursor (readToken cursor) := by
  unfold readToken
  split
  · rename_i rest same
    have opening := Cursor.passes_next_next same
    exact .inr ⟨by simp [same], (readDeclaration_reading _).after opening.reaches⟩
  · rename_i rest same
    have opening := Cursor.passes_next_next same
    exact .inr ⟨by simp [same], (readBracketed_comment _).after opening.reaches⟩
  · rename_i rest same
    have opening := Cursor.passes_next_next same
    exact .inr ⟨by simp [same], (readEndTag_reading _).after opening.reaches⟩
  · rename_i c rest _ _ _ same
    split
    · have named : cursor.next.rest ≠ [] := by simp [Cursor.next_rest same]
      exact .inr ⟨by simp [same],
        (readStartTag_reading named).after (Cursor.passes_next same).reaches⟩
    · exact .inl rfl
  · exact .inl rfl

end HtmlTemplate.Markup
