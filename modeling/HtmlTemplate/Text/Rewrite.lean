/-
This file splits texts at the first place where a condition on the remaining text holds, replaces parts of a
text from left to right, and writes texts as quoted literals that both JSON and JavaScript read.
-/

namespace HtmlTemplate.Text

/-- The characters before the first place where the remaining text satisfies the condition. -/
def takeUntil (found : List Char → Bool) : List Char → List Char
  | [] => []
  | c :: rest => if found (c :: rest) then [] else c :: takeUntil found rest

/-- The text from the first place on where it satisfies the condition. -/
def dropUntil (found : List Char → Bool) : List Char → List Char
  | [] => []
  | c :: rest => if found (c :: rest) then c :: rest else dropUntil found rest

/-- A text is what is taken of it and what is left. -/
theorem takeUntil_append_dropUntil (found : List Char → Bool) (chars : List Char) :
    takeUntil found chars ++ dropUntil found chars = chars := by
  induction chars with
  | nil => rfl
  | cons c rest inductionHypothesis =>
      unfold takeUntil dropUntil
      split <;> simp [inductionHypothesis]

/-- What is left of a text is not longer. -/
theorem dropUntil_length_le (found : List Char → Bool) (chars : List Char) :
    (dropUntil found chars).length ≤ chars.length := by
  have joined := congrArg List.length (takeUntil_append_dropUntil found chars)
  rw [List.length_append] at joined
  omega

theorem dropWhile_length_le (keep : Char → Bool) (chars : List Char) :
    (chars.dropWhile keep).length ≤ chars.length :=
  (List.dropWhile_sublist keep).length_le

/-- Replaces what `read` finds, and passes over the characters it covers. -/
def replaceFrom (read : List Char → Option (List Char × Nat)) : Nat → List Char → List Char
  | _, [] => []
  | covered + 1, _ :: rest => replaceFrom read covered rest
  | 0, c :: rest =>
      match read (c :: rest) with
      | some (replacement, covered) => replacement ++ replaceFrom read covered rest
      | none => c :: replaceFrom read 0 rest

def replaceAll (read : List Char → Option (List Char × Nat)) (chars : List Char) : List Char :=
  replaceFrom read 0 chars

/-- The length of a semicolon at the front of a text. -/
def semicolonLength (chars : List Char) : Nat :=
  match chars with
  | ';' :: _ => 1
  | _ => 0

def hexDigitChar (value : Nat) : Char :=
  if value < 10 then Char.ofNat (0x30 + value) else Char.ofNat (0x61 + value - 10)

/-- The last `width` hexadecimal digits of a number, the highest first. -/
def hexDigits : Nat → Nat → List Char
  | 0, _ => []
  | width + 1, value => hexDigits width (value / 16) ++ [hexDigitChar (value % 16)]

/-- The control characters and the two marks of the literal itself are escaped. -/
def quotedChar (c : Char) : List Char :=
  if c == '"' then ['\\', '"']
  else if c == '\\' then ['\\', '\\']
  else if c == '\x08' then ['\\', 'b']
  else if c == '\x0c' then ['\\', 'f']
  else if c == '\n' then ['\\', 'n']
  else if c == '\r' then ['\\', 'r']
  else if c == '\t' then ['\\', 't']
  else if c.toNat < 0x20 then ['\\', 'u'] ++ hexDigits 4 c.toNat
  else [c]

def quotedChars (chars : List Char) : List Char :=
  '"' :: chars.flatMap quotedChar ++ ['"']

/-- The literal that stands for a text. -/
def quoted (text : String) : String := String.ofList (quotedChars text.toList)

end HtmlTemplate.Text
