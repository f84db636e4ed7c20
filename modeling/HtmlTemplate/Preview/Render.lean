/-
This file renders templates with data, without running the generated code.
-/

import HtmlTemplate.Preview.Expression
import HtmlTemplate.Template.Node
import HtmlTemplate.Template.Static
import HtmlTemplate.Text.Basic

namespace HtmlTemplate.Preview

open Data

/-- Why a template cannot be rendered, with the text at fault. -/
inductive RenderError where
  | unsupportedExpression (text : String)
  | notIterable (source : String)
  | undefinedName (name : String)
  | nullMember (text : String)
  deriving DecidableEq, Repr

namespace RenderError

def name : RenderError → String
  | unsupportedExpression _ => "UnsupportedExpression"
  | notIterable _ => "NotIterable"
  | undefinedName _ => "UndefinedName"
  | nullMember _ => "NullMember"

def message : RenderError → String
  | unsupportedExpression text =>
      "expression `" ++ text ++ "` is not supported by the preview renderer"
  | notIterable source => "`" ++ source ++ "` is not iterable"
  | undefinedName name => "`" ++ name ++ "` is not defined"
  | nullMember text => "`" ++ text ++ "` reads a member of null"

end RenderError

/-- How interpolated values are made safe. -/
inductive Escaping where
  | standard
  | disabled
  | custom (escape : Value → String)

/-- Without escaping, a null is still written as the empty text. -/
def Escaping.apply (escaping : Escaping) (value : Value) : String :=
  match escaping with
  | .standard => Escape.escapeValue value
  | .disabled => if value.isNull then "" else value.text
  | .custom escape => escape value

/-- What a template is rendered with. The innermost loop variable comes first. -/
structure Context where
  data : Value
  escaping : Escaping
  preserveDoctype : Bool
  bindings : List (String × Value) := []

namespace Context

def bind (context : Context) (name : String) (value : Value) : Context :=
  { context with bindings := (name, value) :: context.bindings }

/-- A name means the innermost loop variable of that name, or the data. -/
def lookup? (context : Context) (name : String) : Option Value :=
  match context.bindings.lookup name with
  | some value => some value
  | none => if name = "data" then some context.data else none

end Context

/-- A member of a value. What is missing is null. -/
def memberOf (value : Value) (member : Member) : Value :=
  match value, member with
  | .array items, .key name =>
      if name = "length" then .number (.integer items.length) else .null
  | .array items, .index number => items.getD number .null
  | .string text, .key name =>
      if name = "length" then .number (.integer (Text.utf16Length text.toList)) else .null
  | .object fields, .key name => (Value.field? fields name).getD .null
  | .object fields, .index number => (Value.field? fields (toString number)).getD .null
  | _, _ => .null

/-- Follows members from a value. A null has none. -/
def follow (text : String) : Value → List Member → Except RenderError Value
  | value, [] => .ok value
  | value, member :: rest =>
      if value.isNull then .error (.nullMember text) else follow text (memberOf value member) rest

/-- The value of an expression. -/
def Expression.evaluate (context : Context) : Expression → Except RenderError Value
  | .blank => .ok .null
  | .literal value => .ok value
  | .path text head members =>
      match context.lookup? head with
      | some value => follow text value members
      | none => .error (.undefinedName head)
  | .negation operand => do return .bool !(← operand.evaluate context).isTruthy
  | .unsupported text => .error (.unsupportedExpression text)

/-- The value of an expression, or why it has none. -/
def evaluate (context : Context) (text : String) : Except RenderError Value :=
  (Expression.parse text).evaluate context

/-- The items of an array, or the characters of a text. -/
def items? : Value → Option (List Value)
  | .array items => some items
  | .string text => some (text.toList.map fun c => .string (String.singleton c))
  | _ => none

/-- The items of the source of a loop. -/
def loopItems (context : Context) (source : String) : Except RenderError (List Value) := do
  match items? (← evaluate context source) with
  | some items => return items
  | none => throw (.notIterable source)

def renderPart (context : Context) : Template.TextPart → Except RenderError String
  | .text content => .ok content
  | .variable expression => do return context.escaping.apply (← evaluate context expression)

/-- The concatenated texts, or the first error. -/
def renderParts (context : Context) : List Template.TextPart → Except RenderError String
  | [] => .ok ""
  | part :: rest => do return (← renderPart context part) ++ (← renderParts context rest)

/-- The texts of all items in order, or the first error. -/
def renderItems (render : Value → Except RenderError String) :
    List Value → Except RenderError String
  | [] => .ok ""
  | item :: rest => do return (← render item) ++ (← renderItems render rest)

/-- Whether a branch is taken. One without a condition always is. -/
def isTaken (context : Context) : Option String → Except RenderError Bool
  | none => .ok true
  | some condition => do return (← evaluate context condition).isTruthy

open Template in
mutual

/-- The markup of a node. A branch outside of a chain renders nothing. -/
def render (context : Context) : Node → Except RenderError String
  | .root children _ => renderAll context children
  | .doctype doctype _ => .ok (doctype.render context.preserveDoctype)
  | .text content _ => .ok content
  | .interpolated parts _ => renderParts context parts
  | .element tag attributes children _ => do
      return openTag tag attributes ++ (← renderAll context children) ++ closeTag tag children
  | .loop iterator source body _ => do
      renderItems (fun item => renderAll (context.bind iterator item) body)
        (← loopItems context source)
  | .branch _ => .ok ""
  | .chain branches _ => renderBranches context branches
  | .staticBlock _ html => .ok html

def renderAll (context : Context) : List Node → Except RenderError String
  | [] => .ok ""
  | node :: rest => do return (← render context node) ++ (← renderAll context rest)

/-- Renders the first branch that is taken. -/
def renderBranches (context : Context) : List (Branch Node) → Except RenderError String
  | [] => .ok ""
  | branch :: rest => do
      if ← isTaken context branch.condition then renderAll context branch.body
      else renderBranches context rest

end

/-- The markup of a template with the given data, outside of any loop. -/
def preview (options : Options) (escaping : Escaping) (data : Value) (template : Template.Node) :
    Except RenderError String :=
  render ⟨data, escaping, options.preserveDoctype, []⟩ template

end HtmlTemplate.Preview
