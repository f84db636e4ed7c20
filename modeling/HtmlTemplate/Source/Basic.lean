/-
This file locates byte offsets by line and column, and holds sources and the locations in them.
-/

import HtmlTemplate.Text.Basic

namespace HtmlTemplate

/-- A place in a source; lines and columns count from one. -/
structure Position where
  offset : Nat
  line : Nat
  column : Nat
  deriving DecidableEq, Repr

/-- A stretch of a source, with its text. -/
structure Location where
  start : Position
  stop : Position
  text : String
  deriving DecidableEq, Repr

/-- The location of what stands nowhere in a source. -/
def Location.stub : Location := ⟨⟨0, 1, 1⟩, ⟨0, 1, 1⟩, ""⟩

/-- The offsets of the line breaks in characters that start at the given offset. -/
def lineBreaks : Nat → List Char → List Nat
  | _, [] => []
  | offset, c :: rest =>
      if c = '\n' then offset :: lineBreaks (offset + c.utf8Size) rest
      else lineBreaks (offset + c.utf8Size) rest

/-- The numbers of a position are kept in words of 32 bits. -/
def Position.wordSize : Nat := 0x100000000

/-- The position of an offset, given the offsets of the line breaks. -/
def Position.ofOffset (breaks : List Nat) (offset : Nat) : Position :=
  let before := breaks.takeWhile (· < offset)
  let column := match before.getLast? with
    | none => offset + 1
    | some last => offset - last
  ⟨offset % wordSize, (before.length + 1) % wordSize, column % wordSize⟩

/-- The text of a template with its length in bytes and its line breaks. -/
structure Source where
  chars : List Char
  size : Nat
  breaks : List Nat
  size_eq : size = Text.byteLength chars := by rfl
  breaks_eq : breaks = lineBreaks 0 chars := by rfl

namespace Source

def ofChars (chars : List Char) : Source where
  chars := chars
  size := Text.byteLength chars
  breaks := lineBreaks 0 chars

def ofString (text : String) : Source := ofChars text.toList

/-- The text between two offsets. -/
def slice (source : Source) (start stop : Nat) : String :=
  String.ofList (Text.sliceBytes source.chars start stop)

/-- The location between two offsets, which are moved into the source. -/
def location (source : Source) (start stop : Nat) : Location :=
  let last := min stop source.size
  let first := min start last
  ⟨Position.ofOffset source.breaks first, Position.ofOffset source.breaks last,
    source.slice first last⟩

end Source

end HtmlTemplate
