/-
This file holds the ASCII character classes of markup and the comparison that ignores ASCII case, the Unicode
White_Space property and trimming by it, and the length of texts in bytes.
-/

namespace HtmlTemplate.Text

/-- The blanks of markup are tab, line feed, form feed, carriage return and space. -/
def isBlank (c : Char) : Bool :=
  c == '\t' || c == '\n' || c == '\x0c' || c == '\r' || c == ' '

/-- An identifier goes on with ASCII letters, digits, underscores and dollar signs. -/
def isIdentifierChar (c : Char) : Bool :=
  c.isAlphanum || c == '_' || c == '$'

/-- An identifier starts with any of its characters but a digit. -/
def isIdentifierStart (c : Char) : Bool :=
  isIdentifierChar c && !c.isDigit

def isIdentifier (chars : List Char) : Bool :=
  match chars with
  | [] => false
  | first :: rest => isIdentifierStart first && rest.all isIdentifierChar

/-- The value of a hexadecimal digit of either case. -/
def hexDigit? (c : Char) : Option Nat :=
  if c.isDigit then some (c.toNat - 0x30)
  else if 'a' ≤ c ∧ c ≤ 'f' then some (c.toNat - 0x61 + 10)
  else if 'A' ≤ c ∧ c ≤ 'F' then some (c.toNat - 0x41 + 10)
  else none

def isHexDigit (c : Char) : Bool := (hexDigit? c).isSome

/-- The number that a run of digits writes in the given base. -/
def digitsValue (base : Nat) (digits : List Char) : Nat :=
  digits.foldl (fun value c => value * base + (hexDigit? c).getD 0) 0

/-- Only the letters from `A` to `Z` have a lower case here. -/
def lower (chars : List Char) : List Char := chars.map Char.toLower

def lowered (text : String) : String := String.ofList (lower text.toList)

/-- Two texts agree when they differ at most in the case of ASCII letters. -/
def agree (first second : List Char) : Bool := lower first == lower second

/-- The characters with the Unicode property White_Space. -/
def isWhiteSpace (c : Char) : Bool :=
  let code := c.toNat
  (0x09 ≤ code && code ≤ 0x0D) || code == 0x20 || code == 0x85 || code == 0xA0 ||
    code == 0x1680 || (0x2000 ≤ code && code ≤ 0x200A) || code == 0x2028 || code == 0x2029 ||
    code == 0x202F || code == 0x205F || code == 0x3000

def trimStart (chars : List Char) : List Char := chars.dropWhile isWhiteSpace

def trimEnd (chars : List Char) : List Char := (chars.reverse.dropWhile isWhiteSpace).reverse

def trim (chars : List Char) : List Char := trimEnd (trimStart chars)

/-- A text is empty of content when it holds white space only. -/
def isBlankText (text : String) : Bool := text.toList.all isWhiteSpace

/-- The number of bytes that the characters take in UTF-8. -/
def byteLength : List Char → Nat
  | [] => 0
  | c :: rest => c.utf8Size + byteLength rest

/-- The characters that start at the given byte offset or after it. -/
def dropBytes : List Char → Nat → List Char
  | chars, 0 => chars
  | [], _ => []
  | c :: rest, count + 1 => dropBytes rest (count + 1 - c.utf8Size)

/-- The characters that start before the given byte offset. -/
def takeBytes : List Char → Nat → List Char
  | _, 0 => []
  | [], _ => []
  | c :: rest, count + 1 => c :: takeBytes rest (count + 1 - c.utf8Size)

/-- The characters between two byte offsets. -/
def sliceBytes (chars : List Char) (start stop : Nat) : List Char :=
  takeBytes (dropBytes chars start) (stop - start)

@[simp] theorem byteLength_nil : byteLength [] = 0 := rfl

@[simp] theorem byteLength_cons (c : Char) (rest : List Char) :
    byteLength (c :: rest) = c.utf8Size + byteLength rest := rfl

@[simp] theorem byteLength_append (first second : List Char) :
    byteLength (first ++ second) = byteLength first + byteLength second := by
  induction first with
  | nil => simp
  | cons c rest inductionHypothesis => simp [inductionHypothesis, Nat.add_assoc]

/-- The number of code units that the characters take in UTF-16. -/
def utf16Length (chars : List Char) : Nat :=
  chars.length + chars.countP fun c => 0x10000 ≤ c.toNat

end HtmlTemplate.Text
