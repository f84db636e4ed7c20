/-
This file holds diagnostics and the failures that gather them.
-/

import HtmlTemplate.Diagnostic.Code
import HtmlTemplate.Source.Basic

namespace HtmlTemplate

/-- What is wrong, where, and the offending text. -/
structure Diagnostic where
  code : Diagnostic.Code
  location : Option Location := none
  detail : Option String := none
  deriving DecidableEq, Repr

/-- The message names the detail and the start of the location, if any. -/
def Diagnostic.message (diagnostic : Diagnostic) : String :=
  let detail := match diagnostic.detail with
    | some text => " (" ++ text ++ ")"
    | none => ""
  let place := match diagnostic.location with
    | some location => " at " ++ toString location.start.line ++ ":" ++
        toString location.start.column
    | none => ""
  diagnostic.code.message ++ detail ++ place

/-- The diagnostics for which compiling failed, in the order of their report. -/
structure Failure where
  diagnostics : List Diagnostic
  deriving DecidableEq, Repr

namespace Failure

def ofDiagnostic (diagnostic : Diagnostic) : Failure := ⟨[diagnostic]⟩

def codes (failure : Failure) : List Diagnostic.Code := failure.diagnostics.map (·.code)

/-- Whether the markup could not be read. -/
def isMarkup (failure : Failure) : Bool := failure.codes.any (·.isMarkup)

/-- The first diagnostic speaks for all and the others are counted. -/
def message (failure : Failure) : String :=
  match failure.diagnostics with
  | [] => "template failed to compile"
  | [only] => only.message
  | first :: rest => first.message ++ " (and " ++ toString rest.length ++ " more)"

end Failure

end HtmlTemplate
