/-
This file composes texts canonically: it decomposes every character, orders the marks of each
combining sequence by class, and then composes what is composable. The syllables of Hangul are decomposed and
composed by their arithmetic. The result is the Unicode normalization form C.
-/

import HtmlTemplate.Unicode.CombiningClass
import HtmlTemplate.Unicode.Composites
import HtmlTemplate.Unicode.Ideographs

namespace HtmlTemplate.Unicode.Hangul

def syllableBase : Nat := 0xAC00
def leadingBase : Nat := 0x1100
def vowelBase : Nat := 0x1161
def trailingBase : Nat := 0x11A7
def leadingCount : Nat := 19
def vowelCount : Nat := 21
def trailingCount : Nat := 28

/-- The number of syllables that share a leading consonant. -/
def vowelBlock : Nat := vowelCount * trailingCount

def syllableCount : Nat := leadingCount * vowelBlock

/-- The letters of a syllable, with no trailing letter when its place is zero. -/
def decompose? (code : Nat) : Option (List Nat) :=
  if syllableBase ≤ code ∧ code < syllableBase + syllableCount then
    let index := code - syllableBase
    let leading := leadingBase + index / vowelBlock
    let vowel := vowelBase + index % vowelBlock / trailingCount
    let place := index % trailingCount
    some (if place = 0 then [leading, vowel] else [leading, vowel, trailingBase + place])
  else none

/-- Two letters form a syllable, and a syllable without a trailing letter takes one. -/
def compose? (first second : Nat) : Option Nat :=
  if leadingBase ≤ first ∧ first < leadingBase + leadingCount ∧
      vowelBase ≤ second ∧ second < vowelBase + vowelCount then
    some (syllableBase + (first - leadingBase) * vowelBlock + (second - vowelBase) * trailingCount)
  else if syllableBase ≤ first ∧ first < syllableBase + syllableCount ∧
      (first - syllableBase) % trailingCount = 0 ∧
      trailingBase < second ∧ second < trailingBase + trailingCount then
    some (first + (second - trailingBase))
  else none

end HtmlTemplate.Unicode.Hangul

namespace HtmlTemplate.Unicode

/-- Replaces a code point by its pair, in one pass through the table. -/
def expand : List (Nat × Nat × Nat) → Nat → List Nat
  | [], code => [code]
  | (composite, first, second) :: rest, code =>
      if code = composite then expand rest first ++ [second] else expand rest code

def pairs : List (Nat × Nat × Nat) := Exclusions.pairs ++ Composites.all

/-- The code point that a code point alone stands for, or itself. -/
def unify (code : Nat) : Nat :=
  match Exclusions.singletons.lookup code with
  | some target => target
  | none => (Ideographs.unified? code).getD code

/-- The full canonical decomposition. No code point below U+00C0 has one. -/
def decompose (c : Char) : List Char :=
  if c.toNat < 0x00C0 then [c]
  else
    match Hangul.decompose? c.toNat with
    | some letters => letters.map Char.ofNat
    | none => (expand pairs (unify c.toNat)).map Char.ofNat

/-- Puts a mark before the first one that must not precede it. -/
def insertMark (mark : Char) : List Char → List Char
  | [] => [mark]
  | next :: rest =>
      if 0 < combiningClass next ∧ combiningClass next < combiningClass mark then
        next :: insertMark mark rest
      else mark :: next :: rest

/-- Sorts each run of marks by class, and keeps equal marks in order. -/
def reorder (chars : List Char) : List Char := chars.foldr insertMark []

/-- The composite of two characters. No code point below U+0300 is a second component. -/
def compose? (first second : Char) : Option Char :=
  if second.toNat < 0x0300 then none
  else
    match Hangul.compose? first.toNat second.toNat with
    | some code => some (Char.ofNat code)
    | none =>
        (Composites.all.find? fun entry =>
          entry.2.1 == first.toNat && entry.2.2 == second.toNat).map fun entry =>
            Char.ofNat entry.1

/-- Composes a starter with what follows it, unless a mark blocks it. -/
def composeAfter (starter : Char) (apart : List Char) : List Char → List Char
  | [] => starter :: apart.reverse
  | c :: rest =>
      let free := match apart with
        | [] => true
        | last :: _ => combiningClass last < combiningClass c
      match if free then compose? starter c else none with
      | some composite => composeAfter composite apart rest
      | none =>
          if combiningClass c = 0 then starter :: apart.reverse ++ composeAfter c [] rest
          else composeAfter starter (c :: apart) rest

/-- Marks before the first starter stay as they are. -/
def compose : List Char → List Char
  | [] => []
  | c :: rest => if combiningClass c = 0 then composeAfter c [] rest else c :: compose rest

/-- The normalization form C of a text. -/
def normalize (chars : List Char) : List Char :=
  compose (reorder (chars.flatMap decompose))

end HtmlTemplate.Unicode
