/-
This file cuts a source into the segments that its tokens cover.
-/

import HtmlTemplate.Markup.Token.Attributes
import HtmlTemplate.Source.Basic

namespace HtmlTemplate.Markup

/-- The elements whose content is text up to their end tag. -/
def rawTextTags : List String := ["script", "style", "textarea", "title"]

/-- The raw text element that a name in any case belongs to. -/
def rawTextTag? (name : List Char) : Option String :=
  rawTextTags.find? fun tag => Text.agree tag.toList name

/-- Whether the end tag of the given raw text element starts here. -/
def startsRawTextEnd (tag : List Char) : List Char → Bool
  | '<' :: '/' :: rest =>
      Text.agree (rest.take tag.length) tag &&
        match rest.drop tag.length with
        | [] => true
        | c :: _ => endsTagName c
  | _ => false

def startsCommentEnd (chars : List Char) : Bool := ['-', '-', '>'].isPrefixOf chars

/-- Reads up to a closing angle bracket, and the bracket. -/
def readBracketed (token : Lexeme → Token) (cutOff : Unfinished) (cursor : Cursor) :
    Token × Cursor :=
  let after := cursor.skip (· != '>')
  match after.rest with
  | [] => (.unfinished cutOff after.offset, after)
  | _ :: _ => (token (cursor.read (· != '>')), after.next)

/-- Reads a comment after its opening mark. -/
def readComment (cursor : Cursor) : Token × Cursor :=
  let after := cursor.skipUntil startsCommentEnd
  match after.rest with
  | [] => (.unfinished .comment after.offset, after)
  | _ :: _ => (.comment (cursor.readUntil startsCommentEnd), after.next.next.next)

/-- Reads what an exclamation mark after an angle bracket starts. -/
def readDeclaration (cursor : Cursor) : Token × Cursor :=
  match cursor.rest with
  | '-' :: '-' :: _ => readComment cursor.next.next
  | '-' :: _ => readBracketed .comment .comment cursor
  | '[' :: _ => readBracketed .comment .comment cursor
  | _ => readBracketed .declaration .declaration cursor

def isEndTagNameChar (c : Char) : Bool := !(c == '>' || Text.isBlank c)

/-- Reads what follows the name of an end tag. -/
def readAfterEndTagName (name : Lexeme) (cursor : Cursor) : Token × Cursor :=
  match cursor.rest with
  | [] => (.unfinished .tag cursor.offset, cursor)
  | _ :: _ => readBracketed (fun _ => .endTag name) (.endTag name) cursor

/-- Reads an end tag after its opening mark. -/
def readEndTag (cursor : Cursor) : Token × Cursor :=
  let start := cursor.skip Text.isBlank
  match start.rest with
  | [] => (.unfinished .tag start.offset, start)
  | '>' :: _ => (.namelessEndTag start.offset, start.next)
  | _ :: _ => readAfterEndTagName (start.readName isEndTagNameChar) (start.skipName isEndTagNameChar)

/-- Reads a start tag from its name on. -/
def readStartTag (cursor : Cursor) : Token × Cursor :=
  let name := cursor.readName (fun c => !endsTagName c)
  let after := cursor.skipName (fun c => !endsTagName c)
  let finish := cursor.finish
  match after.rest with
  | [] => (.unfinished .tag finish.offset, finish)
  | _ :: _ =>
      let attributes := readAttributes after
      match attributes.2 with
      | .ended selfClosing stop next => (.startTag name attributes.1 selfClosing stop, next)
      | .cut pending => (.unfinished (.startTag name attributes.1 pending) finish.offset, finish)

/-- Reads a text: its first character, and all others up to an angle bracket. -/
def readText (cursor : Cursor) : Token × Cursor :=
  (.text (cursor.readName (· != '<')), cursor.skipName (· != '<'))

/-- Reads the construct at the cursor, markup or text. -/
def readToken (cursor : Cursor) : Token × Cursor :=
  match cursor.rest with
  | '<' :: '!' :: _ => readDeclaration cursor.next.next
  | '<' :: '?' :: _ => readBracketed .comment .comment cursor.next.next
  | '<' :: '/' :: _ => readEndTag cursor.next.next
  | '<' :: c :: _ => if c.isAlpha then readStartTag cursor.next else readText cursor
  | _ => readText cursor

/-- The raw text element that a token opens. -/
def Token.rawText? : Token → Option String
  | .startTag name _ false _ => rawTextTag? name.chars
  | _ => none

/-- Reads the raw text behind a token that opens a raw text element. -/
def readRawText (token : Token) (cursor : Cursor) : List Segment × Cursor :=
  match token.rawText? with
  | none => ([], cursor)
  | some tag =>
      let content := cursor.readUntil (startsRawTextEnd tag.toList)
      (if content.chars.isEmpty then [] else [⟨content, .text content⟩],
        cursor.skipUntil (startsRawTextEnd tag.toList))

/-- A construct between angle brackets ends behind its start. -/
theorem readBracketed_length_le (token : Lexeme → Token) (cutOff : Unfinished) (cursor : Cursor) :
    (readBracketed token cutOff cursor).2.rest.length ≤ cursor.rest.length := by
  have skipped := Cursor.skip_length_le cursor (· != '>')
  unfold readBracketed
  dsimp only
  split
  · exact skipped
  · exact Nat.le_trans (Cursor.next_length_le _) skipped

/-- A comment ends behind its start. -/
theorem readComment_length_le (cursor : Cursor) :
    (readComment cursor).2.rest.length ≤ cursor.rest.length := by
  have skipped := Cursor.skipUntil_length_le cursor startsCommentEnd
  unfold readComment
  dsimp only
  split
  · exact skipped
  · exact Nat.le_trans (Cursor.next_length_le _) (Nat.le_trans (Cursor.next_length_le _)
      (Nat.le_trans (Cursor.next_length_le _) skipped))

/-- A declaration ends behind its start. -/
theorem readDeclaration_length_le (cursor : Cursor) :
    (readDeclaration cursor).2.rest.length ≤ cursor.rest.length := by
  unfold readDeclaration
  split
  · exact Nat.le_trans (readComment_length_le _)
      (Nat.le_trans (Cursor.next_length_le _) (Cursor.next_length_le _))
  · exact readBracketed_length_le _ _ _
  · exact readBracketed_length_le _ _ _
  · exact readBracketed_length_le _ _ _

/-- An end tag ends behind its start. -/
theorem readEndTag_length_le (cursor : Cursor) :
    (readEndTag cursor).2.rest.length ≤ cursor.rest.length := by
  have skipped := Cursor.skip_length_le cursor Text.isBlank
  unfold readEndTag
  dsimp only
  split
  · exact skipped
  · exact Nat.le_trans (Cursor.next_length_le _) skipped
  · have named := Nat.le_trans (Cursor.skip_length_le (cursor.skip Text.isBlank).next isEndTagNameChar)
      (Cursor.next_length_le _)
    unfold readAfterEndTagName
    split
    · exact Nat.le_trans named skipped
    · exact Nat.le_trans (readBracketed_length_le _ _ _) (Nat.le_trans named skipped)

/-- A start tag ends behind its start. -/
theorem readStartTag_length_le (cursor : Cursor) :
    (readStartTag cursor).2.rest.length ≤ cursor.rest.length := by
  unfold readStartTag
  dsimp only
  split
  · simp [Cursor.finish, Cursor.past]
  · split
    · rename_i selfClosing stop next ended
      exact Nat.le_trans (readAttributes_length_le _ ended)
        (Nat.le_trans (Cursor.skip_length_le _ _) (Cursor.next_length_le _))
    · simp [Cursor.finish, Cursor.past]

/-- Every token takes at least one character. -/
theorem readToken_length_lt (cursor : Cursor) (more : cursor.rest ≠ []) :
    (readToken cursor).2.rest.length < cursor.rest.length := by
  have moved := Cursor.next_length_lt cursor more
  have twice := Nat.lt_of_le_of_lt (Cursor.next_length_le cursor.next) moved
  unfold readToken
  split
  · exact Nat.lt_of_le_of_lt (readDeclaration_length_le _) twice
  · exact Nat.lt_of_le_of_lt (readBracketed_length_le _ _ _) twice
  · exact Nat.lt_of_le_of_lt (readEndTag_length_le _) twice
  · split
    · exact Nat.lt_of_le_of_lt (readStartTag_length_le _) moved
    · exact Cursor.skipName_length_lt _ _ more
  · exact Cursor.skipName_length_lt _ _ more

/-- A raw text ends behind its start. -/
theorem readRawText_length_le (token : Token) (cursor : Cursor) :
    (readRawText token cursor).2.rest.length ≤ cursor.rest.length := by
  unfold readRawText
  split
  · exact Nat.le_refl _
  · exact Cursor.skipUntil_length_le _ _

/-- The segments from the cursor to the end of the source. -/
def segmentsFrom (cursor : Cursor) : List Segment :=
  if more : cursor.rest = [] then []
  else
    let step := readToken cursor
    let raw := readRawText step.1 step.2
    have := Nat.lt_of_le_of_lt (readRawText_length_le step.1 step.2) (readToken_length_lt cursor more)
    ⟨cursor.covered step.2, step.1⟩ :: raw.1 ++ segmentsFrom raw.2
termination_by cursor.rest.length

/-- The segments of a source. -/
def segments (chars : List Char) : List Segment := segmentsFrom ⟨0, chars⟩

def tokens (chars : List Char) : List Token := (segments chars).map (·.token)

/-- The events of a source, with the end of the source last. -/
def events (chars : List Char) : List Event :=
  (tokens chars).flatMap Token.events ++ [.finish]

/-- The characters visited; of the mark that closes a comment, the first. -/
def Segment.visited (segment : Segment) : List Char :=
  match segment.token with
  | .comment content =>
      Text.takeBytes segment.covered.chars (content.stop + 1 - segment.covered.start)
  | _ => segment.covered.chars

/-- Where a scan is, and which line breaks it has met. -/
structure LineTrack where
  offset : Nat
  breaks : Array Nat

namespace LineTrack

/-- Visits a character. -/
def visit (track : LineTrack) (c : Char) : LineTrack :=
  ⟨track.offset + c.utf8Size,
    if c = '\n' then track.breaks.push track.offset else track.breaks⟩

/-- Visits the characters of a segment, and goes on where it ends. -/
def scan (track : LineTrack) (segment : Segment) : LineTrack :=
  { segment.visited.foldl visit track with offset := segment.covered.stop }

end LineTrack

/-- The line breaks that are met while a source is cut into segments. -/
def segmentBreaks (chars : List Char) : List Nat :=
  ((segments chars).foldl LineTrack.scan ⟨0, #[]⟩).breaks.toList

end HtmlTemplate.Markup
