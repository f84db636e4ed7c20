/-
This file reads and writes the JSON forms of options, codes, kinds and places.
-/

import HtmlTemplate.Data.Value
import HtmlTemplate.Diagnostic.Code
import HtmlTemplate.Source.Basic
import HtmlTemplate.Template.Node
import HtmlTemplate.Text.Rewrite

namespace HtmlTemplate.Form

open Data

/-- The greatest number that a form takes. -/
def greatestWord : Int := 0xFFFFFFFF

def bool? : Value → Option Bool
  | .bool value => some value
  | _ => none

def string? : Value → Option String
  | .string text => some text
  | _ => none

/-- Only an integer of at most 32 bits is taken. -/
def word? : Value → Option Nat
  | .number (.integer value) =>
      if 0 ≤ value ∧ value ≤ greatestWord then some value.toNat else none
  | _ => none

/-- A name is a text, or the only field of an object, with null. -/
def name? : Value → Option String
  | .string text => some text
  | .object [(text, .null)] => some text
  | _ => none

/-- A field that must be there. -/
def field? {α : Type} (read : Value → Option α) (fields : List (String × Value)) (name : String) :
    Option α :=
  (Value.field? fields name).bind read

/-- A field that may be missing. -/
def fieldOr? {α : Type} (read : Value → Option α) (fallback : α) (fields : List (String × Value))
    (name : String) : Option α :=
  match Value.field? fields name with
  | some value => read value
  | none => some fallback

/-- Reads options, where a missing field has its default. -/
def options? : Value → Option Options
  | .object fields => do
      let defaults : Options := {}
      return {
        strict := ← fieldOr? bool? defaults.strict fields "strict"
        escaperImport := ← fieldOr? string? defaults.escaperImport fields "escaperImport"
        indent := ← fieldOr? word? defaults.indent fields "indent"
        preserveDoctype := ← fieldOr? bool? defaults.preserveDoctype fields "preserveDoctype" }
  | _ => none

/-- Reads a position with all of its numbers. -/
def position? : Value → Option Position
  | .object fields => do
      return ⟨← field? word? fields "offset", ← field? word? fields "line",
        ← field? word? fields "column"⟩
  | _ => none

/-- Reads a location with both of its ends. -/
def location? : Value → Option Location
  | .object fields => do
      return ⟨← field? position? fields "start", ← field? position? fields "end",
        ← field? string? fields "source"⟩
  | _ => none

def code? (value : Value) : Option Diagnostic.Code := (name? value).bind Diagnostic.Code.ofName?

def nodeType? (value : Value) : Option Template.NodeType :=
  (name? value).bind Template.NodeType.ofName?

def branchKind? (value : Value) : Option Template.BranchKind :=
  (name? value).bind Template.BranchKind.ofName?

/-- An object without blanks, from the written forms of its fields. -/
def writeObject (fields : List (String × String)) : String :=
  "\x7b" ++ String.intercalate "," (fields.map fun field => Text.quoted field.1 ++ ":" ++ field.2) ++
    "\x7d"

def writeBool (value : Bool) : String := if value then "true" else "false"

def writeOptions (options : Options) : String :=
  writeObject
    [("strict", writeBool options.strict),
     ("escaperImport", Text.quoted options.escaperImport),
     ("indent", toString options.indent),
     ("preserveDoctype", writeBool options.preserveDoctype)]

def writePosition (position : Position) : String :=
  writeObject
    [("offset", toString position.offset),
     ("line", toString position.line),
     ("column", toString position.column)]

def writeLocation (location : Location) : String :=
  writeObject
    [("start", writePosition location.start),
     ("end", writePosition location.stop),
     ("source", Text.quoted location.text)]

end HtmlTemplate.Form
