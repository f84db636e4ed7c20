/-
This file splits texts at their interpolations and reads the directives of template elements. An interpolation
is an expression between double braces on one line.
-/

import HtmlTemplate.Diagnostic.Basic
import HtmlTemplate.Markup.Tree
import HtmlTemplate.Template.Node
import HtmlTemplate.Text.Basic
import HtmlTemplate.Text.Rewrite

namespace HtmlTemplate.Template

def startsClosingBraces (chars : List Char) : Bool := ['\x7d', '\x7d'].isPrefixOf chars

/-- The inside of an interpolation at the front of a text. -/
def interpolation? : List Char → Option (List Char)
  | '\x7b' :: '\x7b' :: rest =>
      let inside := Text.takeUntil startsClosingBraces rest
      if (Text.dropUntil startsClosingBraces rest).isEmpty || inside.contains '\n' then none
      else some inside
  | _ => none

/-- The literal text gathered so far, newest character first. -/
def literalPart (literal : List Char) : List TextPart :=
  if literal.isEmpty then [] else [.text (String.ofList literal.reverse)]

/-- Splits a text from left to right, after the literal so far. -/
def splitFrom : Nat → List Char → List Char → List TextPart
  | _, literal, [] => literalPart literal
  | covered + 1, literal, _ :: rest => splitFrom covered literal rest
  | 0, literal, c :: rest =>
      match interpolation? (c :: rest) with
      | some inside =>
          literalPart literal ++
            .variable (String.ofList (Text.trim inside)) :: splitFrom (inside.length + 3) [] rest
      | none => splitFrom 0 (c :: literal) rest

/-- The literal texts and the expressions of a text, in order. -/
def splitInterpolations (text : String) : List TextPart := splitFrom 0 [] text.toList

/-- What a directive asks for: a loop, or a branch of a conditional. -/
inductive Directive where
  | loop (value : String)
  | branch (kind : BranchKind) (condition : Option String)
  deriving DecidableEq, Repr

namespace Directive

/-- The directives, the one that wins over others first. -/
def names : List String := ["for", "if", "else-if", "else"]

/-- The directives that need an expression. -/
def expressionNames : List String := ["for", "if", "else-if"]

/-- The value of an attribute. The last of several wins. -/
def value? (attributes : List Markup.Attribute) (name : String) : Option String :=
  (attributes.reverse.find? fun written => written.name == name).map (·.value)

def present (attributes : List Markup.Attribute) : List String :=
  names.filter fun name => (value? attributes name).isSome

/-- The directive that applies. An empty expression counts as no directive. -/
def find? (attributes : List Markup.Attribute) : Option Directive :=
  let nonempty := fun name => (value? attributes name).filter fun value => !value.isEmpty
  match nonempty "for", nonempty "if", nonempty "else-if", value? attributes "else" with
  | some value, _, _, _ => some (.loop value)
  | none, some condition, _, _ => some (.branch .ifCase (some condition))
  | none, none, some condition, _ => some (.branch .elseIfCase (some condition))
  | none, none, none, some _ => some (.branch .elseCase none)
  | none, none, none, none => none

/-- Strictly, an element has at most one directive, and its expression is not blank. -/
def check (attributes : List Markup.Attribute) (location : Location) : Except Diagnostic Unit :=
  if 1 < (present attributes).length then
    .error
      { code := .multipleDirectives
        location := some location
        detail := some (String.intercalate ", " (present attributes)) }
  else
    match expressionNames.find? fun name => (value? attributes name).any Text.isBlankText with
    | some name =>
        .error { code := .emptyDirectiveExpression, location := some location, detail := some name }
    | none => .ok ()

end Directive

/-- The variable of a loop and the expression that it runs over. -/
structure ForClause where
  iterator : String
  source : String
  deriving DecidableEq, Repr

namespace ForClause

/-- Reads an identifier, the word `in` and an expression, with white space between them. -/
def parse? (chars : List Char) : Option ForClause :=
  let value := Text.trim chars
  let iterator := value.takeWhile fun c => !Text.isWhiteSpace c
  let rest := Text.trimStart ((value.dropWhile fun c => !Text.isWhiteSpace c).drop 1)
  match rest with
  | 'i' :: 'n' :: after =>
      let source := Text.trim after
      if (after.head?.any Text.isWhiteSpace) && Text.isIdentifier iterator && !source.isEmpty then
        some ⟨String.ofList iterator, String.ofList source⟩
      else none
  | _ => none

/-- The piece with the given number among those that single spaces part. -/
def piece? : Nat → List Char → Option (List Char)
  | 0, chars => some (chars.takeWhile (· != ' '))
  | number + 1, chars =>
      match chars.dropWhile (· != ' ') with
      | [] => none
      | _ :: rest => piece? number rest

/-- Takes the first and the third piece as they are. -/
def guess (chars : List Char) : ForClause :=
  let piece := fun number => ((piece? number chars).map String.ofList).getD "undefined"
  ⟨piece 0, piece 2⟩

/-- Reads the value of a loop directive. Only a strict reading can fail. -/
def read (strict : Bool) (value : String) (location : Location) : Except Diagnostic ForClause :=
  if strict then
    match parse? value.toList with
    | some clause => .ok clause
    | none =>
        .error
          { code := .malformedForExpression
            location := some location
            detail := some ("for=\"" ++ value ++ "\"") }
  else .ok (guess value.toList)

end ForClause

end HtmlTemplate.Template
