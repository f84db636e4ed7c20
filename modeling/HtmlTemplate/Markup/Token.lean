/-
This file holds the tokens of markup and the events that they report.
-/

import HtmlTemplate.Diagnostic.Code
import HtmlTemplate.Text.Basic

namespace HtmlTemplate.Markup

/-- Some characters of a source with the offset at which they start. -/
structure Lexeme where
  start : Nat
  chars : List Char
  deriving DecidableEq, Repr

/-- The offset behind a lexeme. -/
def Lexeme.stop (lexeme : Lexeme) : Nat := lexeme.start + Text.byteLength lexeme.chars

def Lexeme.text (lexeme : Lexeme) : String := String.ofList lexeme.chars

/-- How an attribute value is marked off. -/
inductive Quote where
  | noValue
  | unquoted
  | single
  | double
  deriving DecidableEq, Repr

/-- An attribute as written, up to its closing quote or its last blank. -/
structure AttributeToken where
  name : Lexeme
  value : Lexeme
  quote : Quote
  stop : Nat
  deriving DecidableEq, Repr

/-- A construct that the end of the source cuts off. -/
inductive Unfinished where
  | startTag (name : Lexeme) (attributes : List AttributeToken) (pending : Option Lexeme)
  | endTag (name : Lexeme)
  | tag
  | comment
  | declaration
  deriving DecidableEq, Repr

/-- A construct of a source, whole or cut off by its end. -/
inductive Token where
  | text (content : Lexeme)
  | startTag (name : Lexeme) (attributes : List AttributeToken) (selfClosing : Bool) (stop : Nat)
  | endTag (name : Lexeme)
  | namelessEndTag (stop : Nat)
  | comment (content : Lexeme)
  | declaration (content : Lexeme)
  | unfinished (construct : Unfinished) (stop : Nat)
  deriving DecidableEq, Repr

/-- A token with the characters that it covers. -/
structure Segment where
  covered : Lexeme
  token : Token
  deriving DecidableEq, Repr

/-- The reports of a tokenizer, in the order of the source. -/
inductive Event where
  | text (content : Lexeme)
  | startTag (name : Lexeme)
  | attributeName (name : Lexeme)
  | value (content : Lexeme)
  | attributeEnd (quote : Quote) (stop : Nat)
  | startTagEnd (stop : Nat)
  | selfClosing (stop : Nat)
  | endTag (name : Lexeme)
  | comment (content : Lexeme)
  | declaration (content : Lexeme)
  | error (code : Diagnostic.Code) (offset : Nat)
  | finish
  deriving DecidableEq, Repr

/-- An empty value is not reported. -/
def AttributeToken.events (written : AttributeToken) : List Event :=
  .attributeName written.name ::
    (if written.value.chars.isEmpty then [] else [.value written.value]) ++
    [.attributeEnd written.quote written.stop]

/-- The fault of a construct that the end of the source cuts off. -/
def Unfinished.code : Unfinished → Diagnostic.Code
  | .startTag _ _ _ => .eofInTag
  | .endTag _ => .eofInTag
  | .tag => .eofInTag
  | .comment => .eofInComment
  | .declaration => .eofInDoctype

/-- The part of a construct that was complete before the source ended. -/
def Unfinished.events : Unfinished → List Event
  | .startTag name attributes pending =>
      .startTag name :: attributes.flatMap (·.events) ++ pending.toList.map Event.attributeName
  | .endTag name => [.endTag name]
  | .tag => []
  | .comment => []
  | .declaration => []

/-- The events of a token, in the order of the source. -/
def Token.events : Token → List Event
  | .text content => [.text content]
  | .startTag name attributes selfClosing stop =>
      .startTag name :: attributes.flatMap (·.events) ++
        [if selfClosing then .selfClosing stop else .startTagEnd stop]
  | .endTag name => [.endTag name]
  | .namelessEndTag stop => [.error .missingEndTagName stop]
  | .comment content => [.comment content]
  | .declaration content => [.declaration content]
  | .unfinished construct stop => construct.events ++ [.error construct.code stop]

end HtmlTemplate.Markup
