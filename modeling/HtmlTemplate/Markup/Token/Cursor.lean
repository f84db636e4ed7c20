/-
This file holds the place that a tokenizer has reached, and how it moves on.
-/

import HtmlTemplate.Markup.Token
import HtmlTemplate.Text.Rewrite

namespace HtmlTemplate.Markup

/-- An offset with the characters from there on. -/
structure Cursor where
  offset : Nat
  rest : List Char
  deriving DecidableEq, Repr

namespace Cursor

/-- Moves past the given characters, which the rest starts with. -/
def past (cursor : Cursor) (chars rest : List Char) : Cursor :=
  ⟨cursor.offset + Text.byteLength chars, rest⟩

/-- The characters here that satisfy the condition. -/
def read (cursor : Cursor) (keep : Char → Bool) : Lexeme :=
  ⟨cursor.offset, cursor.rest.takeWhile keep⟩

def skip (cursor : Cursor) (keep : Char → Bool) : Cursor :=
  cursor.past (cursor.rest.takeWhile keep) (cursor.rest.dropWhile keep)

/-- The first character here and those after it that satisfy the condition. -/
def readName (cursor : Cursor) (keep : Char → Bool) : Lexeme :=
  match cursor.rest with
  | [] => ⟨cursor.offset, []⟩
  | first :: rest => ⟨cursor.offset, first :: rest.takeWhile keep⟩

def next (cursor : Cursor) : Cursor :=
  match cursor.rest with
  | [] => cursor
  | c :: rest => cursor.past [c] rest

def skipName (cursor : Cursor) (keep : Char → Bool) : Cursor := cursor.next.skip keep

/-- The characters before the first place that satisfies the condition. -/
def readUntil (cursor : Cursor) (found : List Char → Bool) : Lexeme :=
  ⟨cursor.offset, Text.takeUntil found cursor.rest⟩

def skipUntil (cursor : Cursor) (found : List Char → Bool) : Cursor :=
  cursor.past (Text.takeUntil found cursor.rest) (Text.dropUntil found cursor.rest)

/-- The end of the source. -/
def finish (cursor : Cursor) : Cursor := cursor.past cursor.rest []

/-- The characters between this place and a later one. -/
def covered (cursor later : Cursor) : Lexeme :=
  ⟨cursor.offset, Text.takeBytes cursor.rest (later.offset - cursor.offset)⟩

/-- Skipping characters never goes back. -/
theorem skip_length_le (cursor : Cursor) (keep : Char → Bool) :
    (cursor.skip keep).rest.length ≤ cursor.rest.length :=
  Text.dropWhile_length_le keep cursor.rest

/-- Skipping up to a mark never goes back. -/
theorem skipUntil_length_le (cursor : Cursor) (found : List Char → Bool) :
    (cursor.skipUntil found).rest.length ≤ cursor.rest.length :=
  Text.dropUntil_length_le found cursor.rest

/-- One character on is not back. -/
theorem next_length_le (cursor : Cursor) : cursor.next.rest.length ≤ cursor.rest.length := by
  unfold next
  split
  · exact Nat.le_refl _
  · rename_i c rest same
    simp [past, same]

/-- One character on is further, unless the source has ended. -/
theorem next_length_lt (cursor : Cursor) (more : cursor.rest ≠ []) :
    cursor.next.rest.length < cursor.rest.length := by
  unfold next
  split
  · contradiction
  · rename_i c rest same
    simp [past, same]

/-- A name takes at least one character. -/
theorem skipName_length_lt (cursor : Cursor) (keep : Char → Bool) (more : cursor.rest ≠ []) :
    (cursor.skipName keep).rest.length < cursor.rest.length :=
  Nat.lt_of_le_of_lt (skip_length_le _ keep) (next_length_lt cursor more)

end Cursor

end HtmlTemplate.Markup
