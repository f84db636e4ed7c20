/-
This file reads the digits of numeric character references, lists the named ones that may go without a
semicolon, and decodes the character references of attribute values.
-/

import HtmlTemplate.Reference.Names
import HtmlTemplate.Text.Basic
import HtmlTemplate.Text.Rewrite

namespace HtmlTemplate.Reference

/-- The character with a code point, or the replacement character when there is none. -/
def charOfCode (code : Nat) : Char :=
  if code.isValidChar then Char.ofNat code else Char.ofNat 0xFFFD

/-- Reads digits and an optional semicolon. The mark before them has the given length. -/
def numeric? (base : Nat) (isDigit : Char → Bool) (toChar : Nat → Char) (markLength : Nat)
    (chars : List Char) : Option (List Char × Nat) :=
  let digits := chars.takeWhile isDigit
  if digits.isEmpty then none
  else
    some ([toChar (Text.digitsValue base digits)],
      markLength + digits.length + Text.semicolonLength (chars.drop digits.length))

def decimal? (toChar : Nat → Char) (markLength : Nat) (chars : List Char) :
    Option (List Char × Nat) :=
  numeric? 10 Char.isDigit toChar markLength chars

def hexadecimal? (toChar : Nat → Char) (markLength : Nat) (chars : List Char) :
    Option (List Char × Nat) :=
  numeric? 16 Text.isHexDigit toChar markLength chars

/-- The names that are known without a semicolon, with their code points. -/
def legacyNames : List (String × List Nat) :=
  [("AElig", [0xC6]), ("AMP", [0x26]), ("Aacute", [0xC1]), ("Acirc", [0xC2]), ("Agrave", [0xC0]),
   ("Aring", [0xC5]), ("Atilde", [0xC3]), ("Auml", [0xC4]), ("COPY", [0xA9]), ("Ccedil", [0xC7]),
   ("ETH", [0xD0]), ("Eacute", [0xC9]), ("Ecirc", [0xCA]), ("Egrave", [0xC8]), ("Euml", [0xCB]),
   ("GT", [0x3E]), ("Iacute", [0xCD]), ("Icirc", [0xCE]), ("Igrave", [0xCC]), ("Iuml", [0xCF]),
   ("LT", [0x3C]), ("Ntilde", [0xD1]), ("Oacute", [0xD3]), ("Ocirc", [0xD4]), ("Ograve", [0xD2]),
   ("Oslash", [0xD8]), ("Otilde", [0xD5]), ("Ouml", [0xD6]), ("QUOT", [0x22]), ("REG", [0xAE]),
   ("THORN", [0xDE]), ("Uacute", [0xDA]), ("Ucirc", [0xDB]), ("Ugrave", [0xD9]), ("Uuml", [0xDC]),
   ("Yacute", [0xDD]), ("aacute", [0xE1]), ("acirc", [0xE2]), ("acute", [0xB4]), ("aelig", [0xE6]),
   ("agrave", [0xE0]), ("amp", [0x26]), ("aring", [0xE5]), ("atilde", [0xE3]), ("auml", [0xE4]),
   ("brvbar", [0xA6]), ("ccedil", [0xE7]), ("cedil", [0xB8]), ("cent", [0xA2]), ("copy", [0xA9]),
   ("curren", [0xA4]), ("deg", [0xB0]), ("divide", [0xF7]), ("eacute", [0xE9]), ("ecirc", [0xEA]),
   ("egrave", [0xE8]), ("eth", [0xF0]), ("euml", [0xEB]), ("frac12", [0xBD]), ("frac14", [0xBC]),
   ("frac34", [0xBE]), ("gt", [0x3E]), ("iacute", [0xED]), ("icirc", [0xEE]), ("iexcl", [0xA1]),
   ("igrave", [0xEC]), ("iquest", [0xBF]), ("iuml", [0xEF]), ("laquo", [0xAB]), ("lt", [0x3C]),
   ("macr", [0xAF]), ("micro", [0xB5]), ("middot", [0xB7]), ("nbsp", [0xA0]), ("not", [0xAC]),
   ("ntilde", [0xF1]), ("oacute", [0xF3]), ("ocirc", [0xF4]), ("ograve", [0xF2]), ("ordf", [0xAA]),
   ("ordm", [0xBA]), ("oslash", [0xF8]), ("otilde", [0xF5]), ("ouml", [0xF6]), ("para", [0xB6]),
   ("plusmn", [0xB1]), ("pound", [0xA3]), ("quot", [0x22]), ("raquo", [0xBB]), ("reg", [0xAE]),
   ("sect", [0xA7]), ("shy", [0xAD]), ("sup1", [0xB9]), ("sup2", [0xB2]), ("sup3", [0xB3]),
   ("szlig", [0xDF]), ("thorn", [0xFE]), ("times", [0xD7]), ("uacute", [0xFA]), ("ucirc", [0xFB]),
   ("ugrave", [0xF9]), ("uml", [0xA8]), ("uuml", [0xFC]), ("yacute", [0xFD]), ("yen", [0xA5]),
   ("yuml", [0xFF])]

/-- The code points that references from 0x80 to 0x9F stand for. -/
def windowsCodes : List Nat :=
  [0x20AC, 0x81, 0x201A, 0x0192, 0x201E, 0x2026, 0x2020, 0x2021, 0x02C6, 0x2030, 0x0160, 0x2039,
   0x0152, 0x8D, 0x017D, 0x8F, 0x90, 0x2018, 0x2019, 0x201C, 0x201D, 0x2022, 0x2013, 0x2014,
   0x02DC, 0x2122, 0x0161, 0x203A, 0x0153, 0x9D, 0x017E, 0x0178]

/-- The character of a numeric reference. A reference to zero has none. -/
def numericChar (code : Nat) : Char :=
  if code = 0 then Char.ofNat 0xFFFD
  else if 0x80 ≤ code ∧ code ≤ 0x9F then charOfCode (windowsCodes.getD (code - 0x80) code)
  else charOfCode code

def charsOfCodes (codes : List Nat) : List Char := codes.map Char.ofNat

/-- The text of a name that a semicolon follows. -/
def named? (name : List Char) : Option (List Char) :=
  let key := String.ofList name
  match legacyNames.lookup key with
  | some codes => some (charsOfCodes codes)
  | none => ((namesFrom (name.headD ' ')).lookup key).map charsOfCodes

/-- The longest name has this many characters or fewer. -/
def longestName : Nat := 32

/-- The first of the shorter beginnings of a name that needs no semicolon. -/
def legacyBeginning? (name : List Char) : Option (List Char × Nat) :=
  [2, 3, 4, 5, 6].findSome? fun length =>
    if length ≤ name.length then
      (legacyNames.lookup (String.ofList (name.take length))).map fun codes =>
        (charsOfCodes codes, length)
    else none

/-- Reads a name; one with a semicolon wins over a beginning without. -/
def namedReference? (chars : List Char) : Option (List Char × Nat) :=
  let name := (chars.takeWhile Char.isAlphanum).take longestName
  let ending := Text.semicolonLength (chars.drop name.length)
  match if ending = 1 then named? name else none with
  | some replacement => some (replacement, name.length + 1)
  | none => legacyBeginning? name

def reference? : List Char → Option (List Char × Nat)
  | '&' :: '#' :: 'x' :: rest => hexadecimal? numericChar 2 rest
  | '&' :: '#' :: 'X' :: rest => hexadecimal? numericChar 2 rest
  | '&' :: '#' :: rest => decimal? numericChar 1 rest
  | '&' :: rest => namedReference? rest
  | _ => none

/-- Replaces every character reference by its text. -/
def decode (chars : List Char) : List Char := Text.replaceAll reference? chars

end HtmlTemplate.Reference
