/-
This file reads the expressions that previews evaluate: literals, paths into the data, and negation.
-/

import HtmlTemplate.Data.Value
import HtmlTemplate.Text.Basic

namespace HtmlTemplate.Preview

open Data

/-- A step of a path, by name or by number. -/
inductive Member where
  | key (name : String)
  | index (number : Nat)
  deriving DecidableEq, Repr

/-- An expression, with the text that is quoted when it cannot be evaluated. -/
inductive Expression where
  | blank
  | literal (value : Value)
  | path (text : String) (head : String) (members : List Member)
  | negation (operand : Expression)
  | unsupported (text : String)
  deriving Repr

/-- The greatest integer literal. Larger ones are read as binary64 numbers. -/
def greatestInteger : Nat := 0x7FFFFFFFFFFFFFFF

/-- A text between two equal quotes, without that quote or a backslash inside. -/
def quotedLiteral? (mark : Char) (rest : List Char) : Option String :=
  match rest.getLast? with
  | none => none
  | some last =>
      let inside := rest.dropLast
      if last = mark && !inside.contains mark && !inside.contains '\\' then
        some (String.ofList inside)
      else none

/-- The exponent of a number literal after its mark: an optional sign and digits. -/
def exponent? (chars : List Char) : Option Int :=
  let read := fun digits : List Char =>
    if digits.isEmpty || !digits.all Char.isDigit then none
    else some (Text.digitsValue 10 digits)
  match chars with
  | '-' :: digits => (read digits).map fun value => -(value : Int)
  | '+' :: digits => (read digits).map fun value => (value : Int)
  | digits => (read digits).map fun value => (value : Int)

/-- What may follow the digits of a number literal: an exponent, or nothing. -/
def exponentPart? (chars : List Char) : Option Int :=
  match chars with
  | [] => some 0
  | 'e' :: rest => exponent? rest
  | 'E' :: rest => exponent? rest
  | _ => none

/-- The digits after the point of a number literal, and its exponent. -/
def fraction? (chars : List Char) : Option (List Char × Int) :=
  match chars with
  | '.' :: rest =>
      let digits := rest.takeWhile Char.isDigit
      (exponentPart? (rest.drop digits.length)).map fun exponent => (digits, exponent)
  | rest => (exponentPart? rest).map fun exponent => ([], exponent)

/-- Reads a number literal; one too large for binary64 is null. -/
def numberLiteral? (chars : List Char) : Option Value :=
  let whole := chars.takeWhile Char.isDigit
  let rest := chars.drop whole.length
  if rest.isEmpty && Text.digitsValue 10 whole ≤ greatestInteger then
    some (.number (.integer (Text.digitsValue 10 whole)))
  else
    (fraction? rest).map fun parts =>
      match Binary64.ofDecimal? false (Text.digitsValue 10 (whole ++ parts.1))
          (parts.2 - parts.1.length) with
      | some value => .number (.real value)
      | none => .null

/-- Reads a literal. -/
def literal? (chars : List Char) : Option Value :=
  match chars with
  | ['t', 'r', 'u', 'e'] => some (.bool true)
  | ['f', 'a', 'l', 's', 'e'] => some (.bool false)
  | ['n', 'u', 'l', 'l'] => some .null
  | ['u', 'n', 'd', 'e', 'f', 'i', 'n', 'e', 'd'] => some .null
  | '"' :: rest => (quotedLiteral? '"' rest).map .string
  | '\'' :: rest => (quotedLiteral? '\'' rest).map .string
  | first :: _ => if first.isDigit then numberLiteral? chars else none
  | [] => none

/-- The member that a literal between brackets names. -/
def memberOf? : Value → Option Member
  | .string name => some (.key name)
  | .number (.integer value) => if 0 ≤ value then some (.index value.toNat) else none
  | _ => none

/-- An identifier at the front of a text, and the rest. -/
def identifier? (chars : List Char) : Option (String × List Char) :=
  let name := chars.takeWhile Text.isIdentifierChar
  if name.isEmpty || chars.head?.any Char.isDigit then none
  else some (String.ofList name, chars.dropWhile Text.isIdentifierChar)

/-- Reads one member: a point and an identifier, or a literal between brackets. -/
def nextMember? (chars : List Char) : Option (Member × List Char) :=
  match chars with
  | '.' :: rest => (identifier? rest).map fun found => (.key found.1, found.2)
  | '[' :: rest =>
      match rest.dropWhile (· != ']') with
      | [] => none
      | _ :: after =>
          ((literal? (Text.trim (rest.takeWhile (· != ']')))).bind memberOf?).map fun member =>
            (member, after)
  | _ => none

/-- An identifier ends behind its start. -/
theorem identifier?_length_le {chars after : List Char} {name : String}
    (found : identifier? chars = some (name, after)) : after.length ≤ chars.length := by
  unfold identifier? at found
  dsimp only at found
  split at found
  · contradiction
  · simp only [Option.some.injEq, Prod.mk.injEq] at found
    rw [← found.2]
    exact (List.dropWhile_sublist _).length_le

/-- A member takes at least one character. -/
theorem nextMember?_length_lt {chars after : List Char} {member : Member}
    (found : nextMember? chars = some (member, after)) : after.length < chars.length := by
  unfold nextMember? at found
  split at found
  · rename_i rest
    obtain ⟨pair, read, same⟩ := Option.map_eq_some_iff.mp found
    simp only [Prod.mk.injEq] at same
    have shorter : pair.2.length ≤ rest.length := identifier?_length_le read
    rw [← same.2]
    exact Nat.lt_succ_of_le shorter
  · rename_i rest
    split at found
    · contradiction
    · rename_i close tail rest_eq
      obtain ⟨value, _, same⟩ := Option.map_eq_some_iff.mp found
      simp only [Prod.mk.injEq] at same
      have shorter : (rest.dropWhile (· != ']')).length ≤ rest.length :=
        (List.dropWhile_sublist _).length_le
      rw [rest_eq] at shorter
      rw [← same.2]
      simp only [List.length_cons] at shorter ⊢
      omega
  · contradiction

/-- Reads members up to the end of the text. -/
def members? (chars : List Char) : Option (List Member) :=
  if chars.isEmpty then some []
  else
    match found : nextMember? chars with
    | none => none
    | some (member, after) =>
        have := nextMember?_length_lt found
        (members? after).map (member :: ·)
termination_by chars.length

/-- Reads a path: the name of a variable and members. -/
def path? (chars : List Char) : Option (String × List Member) :=
  match identifier? chars with
  | none => none
  | some (head, rest) => (members? rest).map fun members => (head, members)

/-- Reads a text without white space around it that is no negation. -/
def Expression.ofOperand (chars : List Char) : Expression :=
  match literal? chars with
  | some value => .literal value
  | none =>
      match path? chars with
      | some (head, members) => .path (String.ofList chars) head members
      | none => .unsupported (String.ofList chars)

/-- Reads a text without white space at its end. -/
def Expression.ofTrimmed : List Char → Expression
  | [] => .blank
  | c :: rest =>
      if Text.isWhiteSpace c then ofTrimmed rest
      else if c = '!' then .negation (ofTrimmed rest)
      else .ofOperand (c :: rest)

def Expression.parse (text : String) : Expression := .ofTrimmed (Text.trimEnd text.toList)

end HtmlTemplate.Preview
