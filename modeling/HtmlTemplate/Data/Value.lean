/-
This file holds the JSON values that templates are rendered with, their text and their truth.
-/

import HtmlTemplate.Binary64.Shortest

namespace HtmlTemplate.Data

/-- A number is an integer, or has a fraction or an exponent. -/
inductive Number where
  | integer (value : Int)
  | real (value : Binary64)
  deriving DecidableEq, Repr

/-- The binary64 number of a number, unless it is too large. -/
def Number.toBinary64? : Number → Option Binary64
  | .integer value => Binary64.ofInt? value
  | .real value => some value

/-- The text of a number, by its binary64 value if it has one. -/
def Number.text (number : Number) : String :=
  match number, number.toBinary64? with
  | _, some value => value.spell
  | .integer value, none => toString value
  | .real _, none => ""

/-- The fields of an object have different names. -/
inductive Value where
  | null
  | bool (value : Bool)
  | number (value : Number)
  | string (text : String)
  | array (items : List Value)
  | object (fields : List (String × Value))
  deriving Repr

namespace Value

def isNull : Value → Bool
  | .null => true
  | _ => false

mutual

/-- The text of a value, as JavaScript turns values into strings. -/
def text : Value → String
  | .null => "null"
  | .bool value => if value then "true" else "false"
  | .number value => value.text
  | .string text => text
  | .array items => String.intercalate "," (itemTexts items)
  | .object _ => "[object Object]"

/-- Inside an array a null has an empty text. -/
def itemTexts : List Value → List String
  | [] => []
  | .null :: rest => "" :: itemTexts rest
  | item :: rest => item.text :: itemTexts rest

end

/-- Null, false, zero and the empty text count as false. -/
def isTruthy : Value → Bool
  | .null => false
  | .bool value => value
  | .number value => value.toBinary64?.any fun number => !number.isZero
  | .string text => !text.isEmpty
  | .array _ => true
  | .object _ => true

/-- The value of the field of a name. -/
def field? (fields : List (String × Value)) (name : String) : Option Value :=
  fields.lookup name

end Value

end HtmlTemplate.Data
