/-
This file holds the events that compiling a template is logged by.
-/

import HtmlTemplate.Diagnostic.Code
import HtmlTemplate.Source.Basic
import HtmlTemplate.Template.Node

namespace HtmlTemplate

/-- How much a line of the log matters. -/
inductive LogLevel where
  | debug
  | warn
  deriving DecidableEq, Repr

def LogLevel.name : LogLevel → String
  | .debug => "DEBUG"
  | .warn => "WARN"

/-- What the stages of a compilation tell. -/
inductive LogEvent where
  | parsedMarkup (nodes : Nat) (errors : Nat)
  | ambiguousDirectives (place : Position)
  | orphanBranch (kind : Template.BranchKind) (code : Diagnostic.Code) (place : Position)
  | foldedBranches (groups : Nat)
  | mergedStatic (blocks : Nat)
  | strayBranch (directive : String) (place : Position)
  | generatedFunction (bytes : Nat) (diagnostics : Nat)
  | compiledTemplate (name : String) (hash : String)
  deriving DecidableEq, Repr

/-- What a field of an event holds. -/
inductive LogField where
  | number (value : Nat)
  | text (value : String)
  deriving DecidableEq, Repr

namespace LogEvent

/-- Faults of the source are warnings, and the rest is for debugging. -/
def level : LogEvent → LogLevel
  | .parsedMarkup _ _ => .debug
  | .ambiguousDirectives _ => .warn
  | .orphanBranch _ _ _ => .warn
  | .foldedBranches _ => .debug
  | .mergedStatic _ => .debug
  | .strayBranch _ _ => .warn
  | .generatedFunction _ _ => .debug
  | .compiledTemplate _ _ => .debug

def message : LogEvent → String
  | .parsedMarkup _ _ => "parsed markup"
  | .ambiguousDirectives _ =>
      "multiple directives on one <template>, only the first by precedence applies"
  | .orphanBranch _ code _ => code.message
  | .foldedBranches _ => "folded conditional branches"
  | .mergedStatic _ => "merged static runs"
  | .strayBranch _ _ => "stray branch emitted as a diagnostic marker"
  | .generatedFunction _ _ => "generated render function"
  | .compiledTemplate _ _ => "compiled template"

/-- The line and the column of a place, as fields. -/
def placeFields (place : Position) : List (String × LogField) :=
  [("line", .number place.line), ("column", .number place.column)]

/-- The fields of an event, in the order they are written. -/
def fields : LogEvent → List (String × LogField)
  | .parsedMarkup nodes errors => [("nodes", .number nodes), ("errors", .number errors)]
  | .ambiguousDirectives place => placeFields place
  | .orphanBranch kind _ place => placeFields place ++ [("directive", .text kind.directive)]
  | .foldedBranches groups => [("groups", .number groups)]
  | .mergedStatic blocks => [("static_blocks", .number blocks)]
  | .strayBranch directive place => placeFields place ++ [("directive", .text directive)]
  | .generatedFunction bytes diagnostics =>
      [("bytes", .number bytes), ("diagnostics", .number diagnostics)]
  | .compiledTemplate name hash => [("name", .text name), ("hash", .text hash)]

end LogEvent

end HtmlTemplate
