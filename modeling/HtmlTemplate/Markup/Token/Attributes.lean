/-
This file reads the attributes of a start tag, up to its end.
-/

import HtmlTemplate.Markup.Token.Cursor
import HtmlTemplate.Text.Basic

namespace HtmlTemplate.Markup

/-- The characters that end a name in a start tag. -/
def endsTagName (c : Char) : Bool := c == '/' || c == '>' || Text.isBlank c

/-- The characters between attributes. -/
def isGap (c : Char) : Bool := c == '/' || Text.isBlank c

def isAttributeNameChar (c : Char) : Bool := !(c == '=' || endsTagName c)

def isUnquotedChar (c : Char) : Bool := !(c == '>' || Text.isBlank c)

/-- What comes next inside a start tag. -/
inductive TagStep where
  | found (written : AttributeToken) (after : Cursor)
  | ended (selfClosing : Bool) (stop : Nat) (after : Cursor)
  | cut (pending : Option Lexeme)

/-- Reads a quoted value, with the cursor at its opening quote. -/
def readQuoted (name : Lexeme) (mark : Char) (quote : Quote) (cursor : Cursor) : TagStep :=
  let inner := cursor.next
  let after := inner.skip (· != mark)
  match after.rest with
  | [] => .cut (some name)
  | _ :: _ => .found ⟨name, inner.read (· != mark), quote, after.offset⟩ after.next

/-- Reads a value up to a blank or the end of the tag. -/
def readUnquoted (name : Lexeme) (cursor : Cursor) : TagStep :=
  let after := cursor.skip isUnquotedChar
  match after.rest with
  | [] => .cut (some name)
  | _ :: _ => .found ⟨name, cursor.read isUnquotedChar, .unquoted, after.offset⟩ after

/-- Reads what follows the equals sign of an attribute. -/
def readValue (name : Lexeme) (cursor : Cursor) : TagStep :=
  let start := cursor.skip Text.isBlank
  match start.rest with
  | [] => .cut (some name)
  | '"' :: _ => readQuoted name '"' .double start
  | '\'' :: _ => readQuoted name '\'' .single start
  | _ :: _ => readUnquoted name start

/-- Reads what follows the name of an attribute. -/
def readAfterName (name : Lexeme) (cursor : Cursor) : TagStep :=
  match cursor.rest with
  | [] => .cut none
  | _ :: _ =>
      let after := cursor.skip Text.isBlank
      match after.rest with
      | [] => .cut (some name)
      | '=' :: _ => readValue name after.next
      | _ :: _ => .found ⟨name, ⟨after.offset, []⟩, .noValue, after.offset⟩ after

/-- Reads the next attribute or the end of the tag. -/
def nextAttribute (cursor : Cursor) : TagStep :=
  let start := cursor.skip isGap
  match start.rest with
  | [] => .cut none
  | '>' :: _ => .ended ((cursor.read isGap).chars.contains '/') start.offset start.next
  | _ :: _ =>
      readAfterName (start.readName isAttributeNameChar) (start.skipName isAttributeNameChar)

/-- A step inside a start tag does not go back before a place. -/
def TagStep.Within (step : TagStep) (length : Nat) : Prop :=
  match step with
  | .found _ after => after.rest.length ≤ length
  | .ended _ _ after => after.rest.length ≤ length
  | .cut _ => True

/-- Reading a quoted value never goes back. -/
theorem readQuoted_within (name : Lexeme) (mark : Char) (quote : Quote) (cursor : Cursor) :
    (readQuoted name mark quote cursor).Within cursor.rest.length := by
  unfold readQuoted
  dsimp only
  split
  · trivial
  · exact Nat.le_trans (Cursor.next_length_le _)
      (Nat.le_trans (Cursor.skip_length_le _ _) (Cursor.next_length_le _))

/-- Reading a bare value never goes back. -/
theorem readUnquoted_within (name : Lexeme) (cursor : Cursor) :
    (readUnquoted name cursor).Within cursor.rest.length := by
  unfold readUnquoted
  dsimp only
  split
  · trivial
  · exact Cursor.skip_length_le _ _

/-- A step stays behind every earlier place. -/
theorem TagStep.Within.mono {step : TagStep} {first second : Nat} (within : step.Within first)
    (le : first ≤ second) : step.Within second := by
  cases step with
  | found written after => exact Nat.le_trans within le
  | ended selfClosing stop after => exact Nat.le_trans within le
  | cut pending => trivial

/-- Reading a value never goes back. -/
theorem readValue_within (name : Lexeme) (cursor : Cursor) :
    (readValue name cursor).Within cursor.rest.length := by
  have skipped := Cursor.skip_length_le cursor Text.isBlank
  unfold readValue
  dsimp only
  split
  · trivial
  · exact (readQuoted_within _ _ _ _).mono skipped
  · exact (readQuoted_within _ _ _ _).mono skipped
  · exact (readUnquoted_within _ _).mono skipped

/-- Reading what follows a name never goes back. -/
theorem readAfterName_within (name : Lexeme) (cursor : Cursor) :
    (readAfterName name cursor).Within cursor.rest.length := by
  have skipped := Cursor.skip_length_le cursor Text.isBlank
  unfold readAfterName
  split
  · trivial
  · dsimp only
    split
    · trivial
    · exact (readValue_within _ _).mono (Nat.le_trans (Cursor.next_length_le _) skipped)
    · exact skipped

/-- An attribute takes at least one character. -/
theorem nextAttribute_length_lt {cursor after : Cursor} {written : AttributeToken}
    (found : nextAttribute cursor = .found written after) :
    after.rest.length < cursor.rest.length := by
  have skipped := Cursor.skip_length_le cursor isGap
  unfold nextAttribute at found
  dsimp only at found
  split at found
  · contradiction
  · contradiction
  · rename_i c rest notEnd same
    have within := readAfterName_within ((cursor.skip isGap).readName isAttributeNameChar)
      ((cursor.skip isGap).skipName isAttributeNameChar)
    rw [found] at within
    have shorter := Cursor.skipName_length_lt (cursor.skip isGap) isAttributeNameChar (by simp [same])
    exact Nat.lt_of_le_of_lt within (Nat.lt_of_lt_of_le shorter skipped)

/-- The end of a tag is not before its attributes. -/
theorem nextAttribute_ended_length_le {cursor after : Cursor} {selfClosing : Bool} {stop : Nat}
    (ended : nextAttribute cursor = .ended selfClosing stop after) :
    after.rest.length ≤ cursor.rest.length := by
  have skipped := Cursor.skip_length_le cursor isGap
  unfold nextAttribute at ended
  dsimp only at ended
  split at ended
  · contradiction
  · simp only [TagStep.ended.injEq] at ended
    rw [← ended.2.2]
    exact Nat.le_trans (Cursor.next_length_le _) skipped
  · have within := readAfterName_within ((cursor.skip isGap).readName isAttributeNameChar)
      ((cursor.skip isGap).skipName isAttributeNameChar)
    rw [ended] at within
    exact Nat.le_trans within (Nat.le_trans (Cursor.skip_length_le _ _)
      (Nat.le_trans (Cursor.next_length_le _) skipped))

/-- How the inside of a start tag ends. -/
inductive TagEnd where
  | ended (selfClosing : Bool) (stop : Nat) (after : Cursor)
  | cut (pending : Option Lexeme)

/-- Reads all attributes and the end of a start tag. -/
def readAttributes (cursor : Cursor) : List AttributeToken × TagEnd :=
  match found : nextAttribute cursor with
  | .found written after =>
      have := nextAttribute_length_lt found
      let more := readAttributes after
      (written :: more.1, more.2)
  | .ended selfClosing stop after => ([], .ended selfClosing stop after)
  | .cut pending => ([], .cut pending)
termination_by cursor.rest.length

/-- Reading all attributes never goes back. -/
theorem readAttributes_length_le (cursor : Cursor) {selfClosing : Bool} {stop : Nat} {after : Cursor}
    (ended : (readAttributes cursor).2 = .ended selfClosing stop after) :
    after.rest.length ≤ cursor.rest.length := by
  fun_induction readAttributes cursor with
  | case1 cursor written next found shorter more inductionHypothesis =>
      exact Nat.le_of_lt (Nat.lt_of_le_of_lt (inductionHypothesis ended) shorter)
  | case2 cursor selfClosing stop after found =>
      simp only [TagEnd.ended.injEq] at ended
      rw [← ended.2.2]
      exact nextAttribute_ended_length_le found
  | case3 cursor pending found => contradiction

end HtmlTemplate.Markup
