/-
This file holds the codes of diagnostics, with their numbers, names and messages.
-/

namespace HtmlTemplate.Diagnostic

/-- What can be wrong with a template. -/
inductive Code where
  | eofInTag
  | eofInComment
  | eofInDoctype
  | missingEndTag
  | invalidEndTag
  | missingEndTagName
  | multipleDirectives
  | malformedForExpression
  | emptyDirectiveExpression
  | orphanElseIf
  | orphanElse
  | strayBranch
  deriving DecidableEq, Repr

namespace Code

def all : List Code :=
  [eofInTag, eofInComment, eofInDoctype, missingEndTag, invalidEndTag, missingEndTagName,
   multipleDirectives, malformedForExpression, emptyDirectiveExpression, orphanElseIf, orphanElse,
   strayBranch]

def number : Code → Nat
  | eofInTag => 0
  | eofInComment => 1
  | eofInDoctype => 2
  | missingEndTag => 3
  | invalidEndTag => 4
  | missingEndTagName => 5
  | multipleDirectives => 32
  | malformedForExpression => 33
  | emptyDirectiveExpression => 34
  | orphanElseIf => 35
  | orphanElse => 36
  | strayBranch => 64

def name : Code → String
  | eofInTag => "EofInTag"
  | eofInComment => "EofInComment"
  | eofInDoctype => "EofInDoctype"
  | missingEndTag => "MissingEndTag"
  | invalidEndTag => "InvalidEndTag"
  | missingEndTagName => "MissingEndTagName"
  | multipleDirectives => "MultipleDirectives"
  | malformedForExpression => "MalformedForExpression"
  | emptyDirectiveExpression => "EmptyDirectiveExpression"
  | orphanElseIf => "OrphanElseIf"
  | orphanElse => "OrphanElse"
  | strayBranch => "StrayBranch"

/-- What a code tells to the author of the template. -/
def message : Code → String
  | eofInTag => "Unexpected end of file inside a tag."
  | eofInComment => "Unexpected end of file inside a comment."
  | eofInDoctype => "Unexpected end of file inside a doctype."
  | missingEndTag => "Element is missing its end tag."
  | invalidEndTag => "End tag has no matching start tag."
  | missingEndTagName => "End tag name is missing."
  | multipleDirectives => "A <template> may carry only one of 'for', 'if', 'else-if' and 'else'."
  | malformedForExpression => "'for' expects the form '<iterator> in <source>'."
  | emptyDirectiveExpression => "Directive expression is empty."
  | orphanElseIf => "'else-if' has no adjacent 'if' or 'else-if'."
  | orphanElse => "'else' has no adjacent 'if' or 'else-if'."
  | strayBranch => "Conditional branch appears outside a branch group."

/-- Markup codes come from reading the markup, before any directive is looked at. -/
def isMarkup (code : Code) : Bool := code.number < 32

def ofName? (name : String) : Option Code := all.find? fun code => code.name == name

end Code

end HtmlTemplate.Diagnostic
