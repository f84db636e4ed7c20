/-
This file says how the end tags that are read are written in the source: which blanks may stand before the name,
and what may stand between the name and the closing angle bracket.
-/

import HtmlTemplate.Proofs.Markup.RawTextEnd

namespace HtmlTemplate.Markup

/-- How an end tag with a name is spelled. -/
structure EndTagSpelling (name : Lexeme) where
  blanks : List Char
  extra : List Char
  areBlank : ∀ c ∈ blanks, Text.isBlank c = true
  filled : name.chars ≠ []
  named : ∀ c ∈ name.chars, c ≠ '>' ∧ Text.isBlank c = false
  parted : ∀ c ∈ extra.head?, Text.isBlank c = true
  inside : '>' ∉ extra

def EndTagSpelling.chars {name : Lexeme} (spelling : EndTagSpelling name) : List Char :=
  '<' :: '/' :: (spelling.blanks ++ (name.chars ++ (spelling.extra ++ ['>'])))

/-- An end tag that stands in a source. -/
structure WrittenEndTag (source : List Char) (name : Lexeme) extends EndTagSpelling name where
  before : List Char
  after : List Char
  whole : source = before ++ (toEndTagSpelling.chars ++ after)
  place : name.start = Text.byteLength before + 2 + Text.byteLength blanks

namespace WrittenEndTag

variable {source : List Char} {name : Lexeme} (tag : WrittenEndTag source name)

/-- The offset of the opening angle bracket. -/
def start : Nat := Text.byteLength tag.before

/-- The offset behind the closing angle bracket. -/
def stop : Nat := tag.start + Text.byteLength tag.chars

theorem stop_eq : tag.stop = name.stop + 1 + Text.byteLength tag.extra := by
  have place := tag.place
  have mark : Text.byteLength ['>'] = 1 := rfl
  have opening (rest : List Char) :
      Text.byteLength ('<' :: '/' :: rest) = 2 + Text.byteLength rest := by
    rw [Text.byteLength_cons, Text.byteLength_cons, ← Nat.add_assoc]
    rfl
  rw [stop, start, EndTagSpelling.chars, opening, Text.byteLength_append, Text.byteLength_append,
    Text.byteLength_append, mark, Lexeme.stop]
  omega

/-- The byte behind the name belongs to the tag. -/
theorem nameStop_le (tag : WrittenEndTag source name) : name.stop + 1 ≤ Text.byteLength source := by
  have size := congrArg Text.byteLength tag.whole
  have stop := tag.stop_eq
  rw [Text.byteLength_append, Text.byteLength_append] at size
  rw [WrittenEndTag.stop, start] at stop
  omega

/-- Two bytes before the name the tag starts, unless blanks stand there. -/
theorem start_meets : name.start - 2 = tag.start ↔ tag.blanks = [] := by
  rw [← Text.byteLength_eq_zero_iff, tag.place, start]
  omega

/-- One byte behind the name the tag stops, unless more follows. -/
theorem stop_meets : name.stop + 1 = tag.stop ↔ tag.extra = [] := by
  rw [← Text.byteLength_eq_zero_iff, tag.stop_eq]
  omega

end WrittenEndTag

/-- An end tag is spelled out from the first cursor to the last one. -/
def Token.SpellsOut (first last : Cursor) : Token → Prop
  | .endTag name => ∃ spelling : EndTagSpelling name, first.Passes spelling.chars last ∧
      name.start = first.offset + 2 + Text.byteLength spelling.blanks
  | _ => True

/-- What is read up to a bracket is spelled out. -/
theorem spellsOut_readBracketed {token : Lexeme → Token} (cutOff : Unfinished) {first : Cursor}
    (cursor : Cursor) (other : ∀ content last, (token content).SpellsOut first last) :
    (readBracketed token cutOff cursor).1.SpellsOut first (readBracketed token cutOff cursor).2 := by
  unfold readBracketed
  dsimp only
  split
  · trivial
  · exact other _ _

theorem spellsOut_readDeclaration (first cursor : Cursor) :
    (readDeclaration cursor).1.SpellsOut first (readDeclaration cursor).2 := by
  unfold readDeclaration readComment
  dsimp only
  split
  · split <;> trivial
  all_goals exact spellsOut_readBracketed _ _ fun _ _ => trivial

/-- A start tag is spelled out. -/
theorem spellsOut_readStartTag (first cursor : Cursor) :
    (readStartTag cursor).1.SpellsOut first (readStartTag cursor).2 := by
  unfold readStartTag
  dsimp only
  split
  · trivial
  · split <;> trivial

/-- What follows the name of an end tag ends the tag or the source. -/
theorem spellsOut_readAfterEndTagName {name : Lexeme} {blanks : List Char}
    {first cursor after : Cursor} (opens : first.Passes ('<' :: '/' :: blanks) cursor)
    (areBlank : ∀ c ∈ blanks, Text.isBlank c = true) (between : name.Between cursor after)
    (filled : name.chars ≠ []) (named : ∀ c ∈ name.chars, c ≠ '>' ∧ Text.isBlank c = false)
    (stops : Text.Stops isEndTagNameChar after.rest) :
    (readAfterEndTagName name after).1.SpellsOut first (readAfterEndTagName name after).2 := by
  unfold readAfterEndTagName
  split
  · trivial
  · have passes := after.passes_skip (· != '>')
    unfold readBracketed
    dsimp only
    split
    · trivial
    · rename_i c rest same
      obtain rfl : c = '>' := by simpa using Cursor.keep_of_skip_eq_cons same
      let extra := (after.read (· != '>')).chars
      have inside : '>' ∉ extra := by
        intro member
        have kept := List.mem_takeWhile_imp member
        simp at kept
      have parted : ∀ c ∈ extra.head?, Text.isBlank c = true := by
        intro c isFirst
        have next : c ∈ after.rest.head? := by
          rw [passes.rest, List.head?_append, isFirst]
          rfl
        rcases (isEndTagNameChar_eq_false_iff c).mp (stops c next) with rfl | blank
        · exact absurd (List.mem_of_mem_head? isFirst) inside
        · exact blank
      refine ⟨⟨blanks, extra, areBlank, filled, named, parted, inside⟩, ?_, ?_⟩
      · exact opens.trans (between.2.trans (passes.trans (Cursor.passes_next same)))
      · rw [between.1, opens.offset, Text.byteLength_cons, Text.byteLength_cons, ← Nat.add_assoc,
          ← Nat.add_assoc]
        rfl

/-- An end tag is spelled out. -/
theorem spellsOut_readEndTag {first cursor : Cursor} (opens : first.Passes ['<', '/'] cursor) :
    (readEndTag cursor).1.SpellsOut first (readEndTag cursor).2 := by
  have blanks := cursor.passes_skip Text.isBlank
  unfold readEndTag
  dsimp only
  split
  · trivial
  · trivial
  · rename_i c rest notEnd same
    have more : (cursor.skip Text.isBlank).rest ≠ [] := by simp [same]
    have noBlank : Text.isBlank c = false := Cursor.keep_of_skip_eq_cons same
    have chars : ((cursor.skip Text.isBlank).readName isEndTagNameChar).chars =
        c :: rest.takeWhile isEndTagNameChar := by
      simp only [Cursor.readName, same]
    refine spellsOut_readAfterEndTagName (opens.trans blanks)
      (fun c member => List.mem_takeWhile_imp member) (Cursor.between_readName more isEndTagNameChar)
      (Cursor.readName_ne_nil more _) ?_ (Text.stops_dropWhile isEndTagNameChar _)
    rw [chars]
    refine List.forall_mem_cons.mpr ⟨⟨notEnd, noBlank⟩, fun d member => ?_⟩
    exact (isEndTagNameChar_iff d).mp (List.mem_takeWhile_imp member)

/-- Every token is spelled out. -/
theorem spellsOut_readToken (cursor : Cursor) :
    (readToken cursor).1.SpellsOut cursor (readToken cursor).2 := by
  unfold readToken
  split
  · exact spellsOut_readDeclaration _ _
  · exact spellsOut_readBracketed _ _ fun _ _ => trivial
  · rename_i rest same
    exact spellsOut_readEndTag (Cursor.passes_next_next same)
  · split
    · exact spellsOut_readStartTag _ _
    · trivial
  · trivial

/-- A complete end tag is one that is written in the source. -/
theorem exists_writtenEndTag {source : List Char} {before after : List Segment} {piece : Segment}
    {name : Lexeme} (split : segments source = before ++ piece :: after)
    (isEndTag : piece.token = .endTag name) : Nonempty (WrittenEndTag source name) := by
  have markup : ∀ content, piece.token ≠ .text content := by simp [isEndTag]
  obtain ⟨here, reaches, _, read, _⟩ := segmentsFrom_split split markup
  have spelled := spellsOut_readToken here
  rw [read, isEndTag] at spelled
  obtain ⟨spelling, passes, place⟩ := spelled
  obtain ⟨earlier, whole, offset⟩ := reaches.exists_before
  refine ⟨⟨spelling, earlier, (readToken here).2.rest, ?_, ?_⟩⟩
  · rw [whole, passes.rest]
  · rw [place, offset]

end HtmlTemplate.Markup
