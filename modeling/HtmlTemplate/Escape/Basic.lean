/-
This file makes texts safe for markup. A text is composed, the references in it are decoded, and then
the five characters with a meaning in markup are encoded. Because decoding comes first, a text that
is already encoded is escaped only once.
-/

import HtmlTemplate.Data.Value
import HtmlTemplate.Reference.Decode
import HtmlTemplate.Unicode.Normalization

namespace HtmlTemplate.Escape

/-- Reads a decimal reference, with its mark. -/
def decimal? : List Char → Option (List Char × Nat)
  | '&' :: '#' :: rest => Reference.decimal? Reference.charOfCode 1 rest
  | _ => none

/-- Reads a hexadecimal reference, with its mark. -/
def hexadecimal? : List Char → Option (List Char × Nat)
  | '&' :: '#' :: 'x' :: rest => Reference.hexadecimal? Reference.charOfCode 2 rest
  | '&' :: '#' :: 'X' :: rest => Reference.hexadecimal? Reference.charOfCode 2 rest
  | _ => none

/-- Reads one of the five named references. -/
def named? : List Char → Option (List Char × Nat)
  | '&' :: 'a' :: 'm' :: 'p' :: ';' :: _ => some (['&'], 4)
  | '&' :: 'l' :: 't' :: ';' :: _ => some (['<'], 3)
  | '&' :: 'g' :: 't' :: ';' :: _ => some (['>'], 3)
  | '&' :: 'q' :: 'u' :: 'o' :: 't' :: ';' :: _ => some (['"'], 5)
  | '&' :: 'a' :: 'p' :: 'o' :: 's' :: ';' :: _ => some (['\''], 5)
  | _ => none

/-- Decodes the decimal references, and then the hexadecimal references of the result. -/
def decodeNumericChars (chars : List Char) : List Char :=
  Text.replaceAll hexadecimal? (Text.replaceAll decimal? chars)

/-- Decodes the five names that stand for encoded characters, in one pass. -/
def decodeNamedChars (chars : List Char) : List Char := Text.replaceAll named? chars

/-- The reference for a special character, or the character itself. -/
def encodeChar (c : Char) : List Char :=
  match c with
  | '&' => ['&', 'a', 'm', 'p', ';']
  | '<' => ['&', 'l', 't', ';']
  | '>' => ['&', 'g', 't', ';']
  | '"' => ['&', 'q', 'u', 'o', 't', ';']
  | '\'' => ['&', '#', '3', '9', ';']
  | other => [other]

def encodeChars (chars : List Char) : List Char := chars.flatMap encodeChar

/-- Decodes what is encoded already, and encodes the result once. -/
def escapeChars (chars : List Char) : List Char :=
  encodeChars (decodeNamedChars (decodeNumericChars (Unicode.normalize chars)))

/-- Encodes one character wherever it stands and keeps all others. -/
def encodeOnly (special : Char) (chars : List Char) : List Char :=
  chars.flatMap fun c => if c == special then encodeChar c else [c]

/-- An attribute value has its quotes encoded once more, whatever the escaping. -/
def escapeAttributeChars (chars : List Char) : List Char :=
  encodeOnly '\'' (encodeOnly '"' (escapeChars chars))

def decodeNumeric (text : String) : String := String.ofList (decodeNumericChars text.toList)

def decodeNamed (text : String) : String := String.ofList (decodeNamedChars text.toList)

def escape (text : String) : String := String.ofList (escapeChars text.toList)

/-- An absent text is escaped to the empty text. -/
def escapeOption (text : Option String) : String := (text.map escape).getD ""

def escapeAttribute (text : String) : String := String.ofList (escapeAttributeChars text.toList)

/-- A null is the empty text, and any other value its text. -/
def escapeValue (value : Data.Value) : String :=
  if value.isNull then "" else escape value.text

end HtmlTemplate.Escape
