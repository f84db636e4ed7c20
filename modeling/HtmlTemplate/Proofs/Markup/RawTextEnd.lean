/-
This file says how the end tag is read at which a raw text stops. A slash right after the name ends the raw
text, but it does not end the name: the name of the end tag goes on with it, and then no element is closed.
-/

import HtmlTemplate.Proofs.Markup.EndTags
import HtmlTemplate.Proofs.Markup.Names
import HtmlTemplate.Proofs.Markup.RawText
import HtmlTemplate.Proofs.Markup.Scan

namespace HtmlTemplate.Markup

/-- An end tag of a raw text element as it is written. -/
structure RawTextEndTag (source name : List Char) (offset : Nat) where
  before : List Char
  word : List Char
  extra : List Char
  tail : List Char
  whole : source = before ++ '<' :: '/' :: (word ++ (extra ++ tail))
  place : offset = Text.byteLength before
  same : Text.lower word = Text.lower name
  slash : ∀ c ∈ extra.head?, c = '/'
  goesOn : ∀ c ∈ extra, c ≠ '>' ∧ Text.isBlank c = false
  stops : ∀ c ∈ tail.head?, c = '>' ∨ Text.isBlank c = true

theorem isEndTagNameChar_iff (c : Char) :
    isEndTagNameChar c = true ↔ c ≠ '>' ∧ Text.isBlank c = false := by
  simp [isEndTagNameChar]

namespace RawTextEndTag

variable {source name : List Char} {offset : Nat}

/-- The name that is read. -/
def written (endTag : RawTextEndTag source name offset) : Lexeme :=
  ⟨offset + 2, endTag.word ++ endTag.extra⟩

/-- An end tag is reported by its name, or as cut off. -/
inductive Reported (endTag : RawTextEndTag source name offset) : List Event → Prop where
  | cut (ended : endTag.tail = []) :
      endTag.Reported [.error .eofInTag (Text.byteLength source), .finish]
  | named (follows : endTag.tail ≠ []) (others : List Event) :
      endTag.Reported (.endTag endTag.written :: others)

theorem isTagName_word (endTag : RawTextEndTag source name offset) (isRawText : IsRawTextName name) :
    isTagName endTag.word = true := by
  rw [← isTagName_lower, endTag.same]
  exact isRawText.check isTagName (by decide)

/-- The name that is read is that of the element unless it goes on. -/
theorem written_stop_iff (endTag : RawTextEndTag source name offset) :
    endTag.written.stop = offset + 2 + Text.byteLength name ↔ endTag.extra = [] := by
  have size : Text.byteLength endTag.word = Text.byteLength name := by
    rw [← Text.byteLength_lower, endTag.same, Text.byteLength_lower]
  show offset + 2 + Text.byteLength (endTag.word ++ endTag.extra) = _ ↔ _
  rw [Text.byteLength_append, size, ← Nat.add_assoc, Nat.add_eq_left, Text.byteLength_eq_zero_iff]

/-- The end tag is read by its name. -/
theorem readToken_eq (endTag : RawTextEndTag source name offset) (isRawText : IsRawTextName name) :
    readToken ⟨offset, '<' :: '/' :: (endTag.word ++ (endTag.extra ++ endTag.tail))⟩ =
      readAfterEndTagName endTag.written ⟨endTag.written.stop, endTag.tail⟩ := by
  have named := endTag.isTagName_word isRawText
  have filled : endTag.word ++ endTag.extra ≠ [] := by
    intro empty
    rw [(List.append_eq_nil_iff.mp empty).1] at named
    contradiction
  have kept : (endTag.word ++ endTag.extra).all isEndTagNameChar = true := by
    rw [List.all_eq_true]
    intro c member
    rw [isEndTagNameChar_iff]
    rcases List.mem_append.mp member with inWord | inExtra
    · have inName := not_endsTagName_of_mem named c inWord
      simp_all [endsTagName]
    · exact endTag.goesOn c inExtra
  have stops : Text.Stops isEndTagNameChar endTag.tail :=
    fun c isNext => (isEndTagNameChar_eq_false_iff c).mpr (endTag.stops c isNext)
  rw [← List.append_assoc, readToken_endTagName offset _ _ filled kept stops]
  rfl

/-- Without a tail the source ends with the name. -/
theorem byteLength_source (endTag : RawTextEndTag source name offset) (ended : endTag.tail = []) :
    Text.byteLength source = endTag.written.stop := by
  have size := congrArg Text.byteLength endTag.whole
  rwa [ended, List.append_nil, Text.byteLength_append, ← endTag.place, Text.byteLength_cons,
    Text.byteLength_cons, ← Nat.add_assoc, ← Nat.add_assoc] at size

/-- The events from the end tag on. -/
theorem reported (endTag : RawTextEndTag source name offset) (isRawText : IsRawTextName name) :
    endTag.Reported ((segmentsFrom ⟨offset, '<' :: '/' ::
      (endTag.word ++ (endTag.extra ++ endTag.tail))⟩).flatMap (·.token.events) ++ [.finish]) := by
  have read := endTag.readToken_eq isRawText
  unfold readAfterEndTagName at read
  split at read
  · rename_i ended
    have cut := Reported.cut ended
    rw [endTag.byteLength_source ended] at cut
    rw [events_segmentsFrom (List.cons_ne_nil _ _) read rfl, (tiles_segmentsFrom _).eq_nil ended]
    exact cut
  · rename_i c more follows
    have filled : endTag.tail ≠ [] := by
      intro empty
      rw [empty] at follows
      contradiction
    rcases readBracketed_cases (fun _ => .endTag endTag.written) (.endTag endTag.written)
        ⟨endTag.written.stop, endTag.tail⟩ with
      ⟨last, _, _, bracketed⟩ | ⟨_, _, last, _, _, bracketed⟩
    · rw [events_segmentsFrom (List.cons_ne_nil _ _) (read.trans bracketed) rfl]
      exact .named filled _
    · rw [events_segmentsFrom (List.cons_ne_nil _ _) (read.trans bracketed) rfl]
      exact .named filled _

end RawTextEndTag

/-- The end tag that stands at a cursor. -/
theorem exists_rawTextEndTag {source name : List Char} {here : Cursor}
    (reaches : Cursor.Reaches ⟨0, source⟩ here) (ends : EndsRawText name here.rest) :
    ∃ endTag : RawTextEndTag source name here.offset,
      here.rest = '<' :: '/' :: (endTag.word ++ (endTag.extra ++ endTag.tail)) := by
  obtain ⟨before, whole, offset⟩ := reaches.exists_before
  obtain ⟨word, tail, opens, same, follows⟩ := ends
  have cut : tail.takeWhile isEndTagNameChar ++ tail.dropWhile isEndTagNameChar = tail :=
    List.takeWhile_append_dropWhile
  have goesOn : ∀ c ∈ tail.takeWhile isEndTagNameChar, c ≠ '>' ∧ Text.isBlank c = false :=
    fun c member => (isEndTagNameChar_iff c).mp (List.mem_takeWhile_imp member)
  refine ⟨⟨before, word, tail.takeWhile isEndTagNameChar, tail.dropWhile isEndTagNameChar, ?_, offset,
    same, ?_, goesOn, ?_⟩, ?_⟩
  · rw [cut, ← opens, whole]
  · intro c isFirst
    have inExtra := goesOn c (List.mem_of_mem_head? isFirst)
    have isNext : tail.head? = some c := by
      obtain ⟨more, starts⟩ := List.head?_eq_some_iff.mp isFirst
      rw [← cut, starts]
      rfl
    rcases follows c isNext with slash | bracket | blank
    · exact slash
    · exact absurd bracket inExtra.1
    · rw [inExtra.2] at blank
      contradiction
  · exact fun c isNext => (isEndTagNameChar_eq_false_iff c).mp (Text.stops_dropWhile _ tail c isNext)
  · show here.rest = '<' :: '/' ::
      (word ++ (tail.takeWhile isEndTagNameChar ++ tail.dropWhile isEndTagNameChar))
    rw [cut, opens]

/-- A cursor at the offset of an end tag goes on with it. -/
theorem endsRawText_of_reaches {source name : List Char} {here : Cursor}
    (reaches : Cursor.Reaches ⟨0, source⟩ here) (ends : RawTextEndsAt source name here.offset) :
    EndsRawText name here.rest := by
  obtain ⟨before, whole, offset⟩ := reaches.exists_before
  obtain ⟨first, rest, split, place, isEnd⟩ := ends
  obtain ⟨middle, rfl, left⟩ := Text.exists_middle (whole.symm.trans split) (by omega)
  have none : middle = [] := by
    rw [Text.byteLength_append] at place
    exact (Text.byteLength_eq_zero_iff middle).mp (by omega)
  rw [left, none]
  exact isEnd

section

variable {source : Source} {options : ReadOptions}

/-- Every open element has a tag name. -/
theorem isTagName_of_mem_frames {tokens : List Token} (named : ∀ token ∈ tokens, token.IsNamed)
    {element : OpenElement}
    (member : element ∈ (tokens.foldl (Construction.take source options) {}).frames) :
    isTagName element.tag.toList = true := by
  obtain ⟨lapsed, whole, _⟩ := Construction.accounts_takeAll source options {} tokens
  have opened : element ∈ openings source options tokens :=
    whole.mem_iff.mpr (List.mem_append_right _ member)
  obtain ⟨token, inTokens, opens⟩ := List.mem_filterMap.mp opened
  cases token with
  | startTag tagName written selfClosing stop =>
      simp only [Token.opens?, Option.ite_none_left_eq_some, Option.some.injEq] at opens
      obtain ⟨_, rfl⟩ := opens
      rw [String.toList_ofList, isTagName_lower]
      exact (named _ inTokens).1
  | _ => contradiction

/-- A text opens and closes no element. -/
theorem hearAll_textEvents (content : Lexeme) (state : Assembly) :
    ∃ next, Assembly.hearAll source options state content.textEvents = some next ∧
      next.tree.frames = state.tree.frames := by
  unfold Lexeme.textEvents
  split
  · obtain ⟨nodes, same⟩ := Construction.exists_withSiblings_addText source content state.tree
    refine ⟨_, rfl, ?_⟩
    rw [same, Construction.frames_withSiblings]
  · exact ⟨state, rfl, rfl⟩

variable {earlier attributes later : List Event} {name : Lexeme} {stop : Nat}

/-- A raw text element is the innermost open one after its start tag. -/
theorem OpensRawText.exists_innermost
    (opens : OpensRawText source.chars earlier name attributes stop later)
    (filled : options.isVoid (String.ofList (Text.lower name.chars)) = false) :
    ∃ state element outer,
      Assembly.hearAll source options {} (earlier ++ .startTag name :: attributes ++ [.startTagEnd stop]) =
        some state ∧
      state.tree.frames = element :: outer ∧ element.start = name.start - 1 ∧
      element.tag = String.ofList (Text.lower name.chars) ∧
      ∀ other ∈ element :: outer, isTagName other.tag.toList = true := by
  obtain ⟨before, piece, written, after, whole, token, rfl, rfl, _⟩ := opens.exists_segment
  let heard := (before ++ [piece]).map (·.token)
  have reported : heard.flatMap Token.events = before.flatMap (·.token.events) ++
      .startTag name :: written.flatMap (·.events) ++ [.startTagEnd stop] := by
    rw [List.flatMap_map, List.flatMap_append, List.flatMap_singleton, token, Token.events,
      List.append_assoc]
    rfl
  have named : ∀ other ∈ heard, other.IsNamed := by
    intro other member
    have inSource : other ∈ tokens source.chars := by
      rw [tokens, whole, List.append_cons, List.map_append]
      exact List.mem_append_left _ member
    exact isNamed_of_mem_tokens inSource
  have lastHeard : heard.foldl (Construction.take source options) {} =
      ((before.map (·.token)).foldl (Construction.take source options) {}).startTag source options name
        written false stop := by
    show ((before ++ [piece]).map (·.token)).foldl (Construction.take source options) {} = _
    rw [List.map_append, List.foldl_append, List.map_singleton, token]
    rfl
  have frames := Construction.frames_startTag source options name written false stop
    ((before.map (·.token)).foldl (Construction.take source options) {})
  simp only [← lastHeard, Token.opens?, Bool.false_or, filled, Bool.false_eq_true, ↓reduceIte,
    Option.toList_some, List.singleton_append] at frames
  obtain ⟨tag, pending, heardAll⟩ := Assembly.hearAll_tokens source options {} heard
  rw [reported] at heardAll
  refine ⟨_, _, _, heardAll, frames, rfl, rfl, ?_⟩
  rw [← frames]
  exact fun other member => isTagName_of_mem_frames named member

/-- The end tag of a raw text closes the innermost element of its name. -/
theorem RawTextEndTag.closes?_eq {chars rawName : List Char} {offset : Nat}
    (endTag : RawTextEndTag chars rawName offset) {tree : Construction} {element : OpenElement}
    {outer : List OpenElement} (frames : tree.frames = element :: outer)
    (tag : element.tag = String.ofList (Text.lower rawName))
    (filled : ∀ word, Text.lower word = Text.lower rawName → options.isVoid (String.ofList word) = false)
    (named : ∀ other ∈ element :: outer, isTagName other.tag.toList = true) :
    Event.closes? options tree (.endTag endTag.written) =
      if endTag.extra = [] then some element else none := by
  by_cases alone : endTag.extra = []
  · have isWord : endTag.written.chars = endTag.word := by
      rw [written, alone, List.append_nil]
    have agrees : Text.agree element.tag.toList endTag.word = true := by
      rw [Text.agree, beq_iff_eq, tag, String.toList_ofList, Text.lower_lower, endTag.same]
    rw [if_pos alone, Event.closes?, Lexeme.text, isWord, filled _ endTag.same, frames]
    simp [agrees]
  · have slash : '/' ∈ endTag.written.chars := by
      obtain ⟨first, more, starts⟩ := List.exists_cons_of_ne_nil alone
      have isSlash := endTag.slash first (by rw [starts]; rfl)
      rw [written, starts, isSlash]
      simp
    have apart : ∀ other ∈ element :: outer,
        ¬Text.agree other.tag.toList endTag.written.chars = true := by
      intro other member agrees
      rw [Text.agree, beq_iff_eq] at agrees
      have isName : isTagName endTag.written.chars = true := by
        rw [← isTagName_lower, ← agrees, isTagName_lower]
        exact named other member
      have inName := not_endsTagName_of_mem isName '/' slash
      contradiction
    rw [if_neg alone, Event.closes?, frames, List.find?_eq_none.mpr apart]
    split <;> rfl

end

/-- A raw text is left at its first end tag, which is reported next. -/
structure LeavesRawText (source : Source) (options : ReadOptions) (earlier later : List Event)
    (name content : Lexeme) (endTag : RawTextEndTag source.chars name.chars content.stop) : Prop where
  least : IsLeast { offset | content.start ≤ offset ∧ RawTextEndsAt source.chars name.chars offset }
    content.stop
  reported : ∃ rest, later = content.textEvents ++ rest ∧ endTag.Reported rest
  exact_iff : endTag.written.stop = content.stop + 2 + Text.byteLength name.chars ↔ endTag.extra = []
  closes : ∃ state element,
    Assembly.hearAll source options {} (earlier ++ content.textEvents) = some state ∧
    state.tree.frames.head? = some element ∧ element.start = name.start - 1 ∧
    Construction.EndTagEffect source options endTag.written
      (if endTag.extra = [] then some element else none) state.tree
      (state.tree.endTag source options endTag.written)

/-- The end tag of a raw text closes it unless a slash follows. -/
theorem rawText_closed_unless_slash {source : Source} {options : ReadOptions}
    {earlier attributes later : List Event} {name : Lexeme} {stop : Nat}
    (opens : OpensRawText source.chars earlier name attributes stop later)
    (ends : ∃ offset, stop + 1 ≤ offset ∧ RawTextEndsAt source.chars name.chars offset)
    (filled : ∀ word, Text.lower word = Text.lower name.chars →
      options.isVoid (String.ofList word) = false) :
    ∃ content endTag, content.start = stop + 1 ∧
      LeavesRawText source options (earlier ++ .startTag name :: attributes ++ [.startTagEnd stop]) later
        name content endTag := by
  obtain ⟨inside, found, reaches, offset, detects, isLater⟩ := opens.exists_reading
  have onward := reaches.trans (inside.passes_skipUntil found).reaches
  rw [← offset] at ends
  have least := (rawTextStops_readUntil detects reaches).isLeast ends
  obtain ⟨endTag, isRest⟩ := exists_rawTextEndTag onward (endsRawText_of_reaches onward least.1.2)
  have reported := endTag.reported opens.isRawText
  rw [← isRest] at reported
  obtain ⟨opened, element, outer, heardTag, frames, start, tag, named⟩ :=
    opens.exists_innermost (filled _ (Text.lower_lower _))
  obtain ⟨state, heardText, sameFrames⟩ := hearAll_textEvents (inside.readUntil found) opened
  rw [frames] at sameFrames
  refine ⟨inside.readUntil found, endTag, offset, least, ⟨_, isLater, reported⟩,
    endTag.written_stop_iff, state, element, ?_, ?_, start, ?_⟩
  · rw [Assembly.hearAll_append, heardTag]
    exact heardText
  · rw [sameFrames]
    rfl
  · rw [← endTag.closes?_eq sameFrames tag filled named]
    exact Construction.endTag_effect source options endTag.written state.tree

/-- By default no raw text element is void. -/
theorem not_isVoid_of_isRawTextName {name word : List Char} (isRawText : IsRawTextName name)
    (same : Text.lower word = Text.lower name) :
    ({} : ReadOptions).isVoid (String.ofList word) = false := by
  have isDefault : ({} : ReadOptions).isVoid = Tag.isVoid := rfl
  have content := isRawText.check (fun chars => !Tag.voidTags.contains (String.ofList chars)) (by decide)
  rw [Bool.not_eq_true'] at content
  rwa [isDefault, Tag.isVoid, Text.lowered, String.toList_ofList, same]

/-- A title is closed by its end tag in capitals. -/
theorem rawText_closed_unless_slash_spacedTitle :
    OpensRawText (Source.ofString "<title>a</TITLE >").chars [] ⟨1, "title".toList⟩ [] 6
      [.text ⟨7, ['a']⟩, .endTag ⟨10, "TITLE".toList⟩, .finish] ∧
    ∃ content endTag, content.start = 6 + 1 ∧
      LeavesRawText (Source.ofString "<title>a</TITLE >") {}
        [.startTag ⟨1, "title".toList⟩, .startTagEnd 6]
        [.text ⟨7, ['a']⟩, .endTag ⟨10, "TITLE".toList⟩, .finish] ⟨1, "title".toList⟩ content
        endTag := by
  have opens : OpensRawText (Source.ofString "<title>a</TITLE >").chars [] ⟨1, "title".toList⟩ [] 6
      [.text ⟨7, ['a']⟩, .endTag ⟨10, "TITLE".toList⟩, .finish] :=
    ⟨by decide +kernel, by decide, "title", by decide, by decide⟩
  have ends : RawTextEndsAt (Source.ofString "<title>a</TITLE >").chars "title".toList 8 :=
    ⟨"<title>a".toList, "</TITLE >".toList, by decide +kernel, by decide, "TITLE".toList, " >".toList,
      by decide, by decide, by simp [Text.isBlank]⟩
  exact ⟨opens, rawText_closed_unless_slash opens ⟨8, by decide, ends⟩ fun word same =>
    not_isVoid_of_isRawTextName opens.isRawText same⟩

/-- With a slash after its name an end tag does not close a script. -/
theorem script_not_closed_before_slash :
    events "<script></script/>".toList =
        [.startTag ⟨1, "script".toList⟩, .startTagEnd 7, .endTag ⟨10, "script/".toList⟩, .finish] ∧
      (Document.read "<script></script/>").diagnostics.map (·.code) =
        [.invalidEndTag, .missingEndTag] := by
  decide +kernel

end HtmlTemplate.Markup
