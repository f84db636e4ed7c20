/-
This file writes the module of a template in one pass. Literal markup is held back until something else
has to be written, so that literals that follow each other become one statement.
-/

import HtmlTemplate.Script.Layout

namespace HtmlTemplate.Script

open Template

/-- The text written so far, the markup held back, and the diagnostics. -/
structure Emitter where
  code : String
  pending : String
  diagnostics : List Diagnostic
  deriving DecidableEq, Repr

namespace Emitter

def pushLine (options : Options) (depth : Nat) (text : String) (emitter : Emitter) : Emitter :=
  { emitter with code := emitter.code ++ line options depth text }

/-- Holds literal markup back. -/
def pushLiteral (html : String) (emitter : Emitter) : Emitter :=
  { emitter with pending := emitter.pending ++ html }

/-- Writes the markup that is held back as one statement. -/
def flush (options : Options) (depth : Nat) (emitter : Emitter) : Emitter :=
  if emitter.pending.isEmpty then emitter
  else
    { emitter with
      code := emitter.code ++ write options depth (.literal emitter.pending)
      pending := "" }

/-- Writes a statement after the markup that is held back. -/
def pushStatement (options : Options) (depth : Nat) (statement : Statement) (emitter : Emitter) :
    Emitter :=
  let flushed := emitter.flush options depth
  { flushed with code := flushed.code ++ write options depth statement }

def pushPart (options : Options) (depth : Nat) (emitter : Emitter) : TextPart → Emitter
  | .text content => emitter.pushLiteral content
  | .variable expression => emitter.pushStatement options depth (.escaped expression)

/-- Writes the marker of a stray branch, and notes its diagnostic. -/
def pushMarker (options : Options) (depth : Nat) (branch : Branch Node) (emitter : Emitter) :
    Emitter :=
  let marked := emitter.pushStatement options depth (.marker branch.kind.directive)
  { marked with diagnostics := marked.diagnostics ++ [strayDiagnostic branch] }

end Emitter

mutual

/-- Writes a node at the given depth; strictly, stray branches are refused. -/
def emit (options : Options) (depth : Nat) : Node → Emitter → Except Diagnostic Emitter
  | .root children _, emitter => emitAll options depth children emitter
  | .doctype doctype _, emitter =>
      return emitter.pushLiteral (doctype.render options.preserveDoctype)
  | .text content _, emitter => return emitter.pushLiteral content
  | .interpolated parts _, emitter => return parts.foldl (Emitter.pushPart options depth) emitter
  | .element tag attributes children _, emitter => do
      let inside ← emitAll options depth children (emitter.pushLiteral (openTag tag attributes))
      return inside.pushLiteral (closeTag tag children)
  | .loop iterator source body _, emitter => do
      let opened := (emitter.flush options depth).pushLine options depth
        ("for (const " ++ iterator ++ " of " ++ source ++ ") \x7b")
      let inside ← emitAll options (depth + 1) body opened
      return (inside.flush options (depth + 1)).pushLine options depth "\x7d"
  | .branch branch, emitter =>
      if options.strict then throw (strayDiagnostic branch)
      else return emitter.pushMarker options depth branch
  | .chain branches _, emitter => do
      let inside ← emitBranches options depth true branches (emitter.flush options depth)
      return inside.pushLine options depth "\x7d"
  | .staticBlock _ html, emitter => return emitter.pushLiteral html

def emitAll (options : Options) (depth : Nat) : List Node → Emitter → Except Diagnostic Emitter
  | [], emitter => return emitter
  | node :: rest, emitter => do emitAll options depth rest (← emit options depth node emitter)

/-- Writes the arms of a conditional, of which the first opens it. -/
def emitBranches (options : Options) (depth : Nat) :
    Bool → List (Branch Node) → Emitter → Except Diagnostic Emitter
  | _, [], emitter => return emitter
  | isFirst, branch :: rest, emitter => do
      let opened := emitter.pushLine options depth (clauseOf isFirst branch).write
      let inside ← emitAll options (depth + 1) branch.body opened
      emitBranches options depth false rest (inside.flush options (depth + 1))

end

/-- A module with the diagnostics of its markers. -/
structure Generated where
  code : String
  diagnostics : List Diagnostic
  deriving DecidableEq, Repr

/-- The module of a template. -/
def generate (options : Options) (name : String) (template : Node) :
    Except Diagnostic Generated := do
  let body ← emit options 1 template ⟨header options name, "", []⟩
  let flushed := body.flush options 1
  return ⟨flushed.code ++ footer options, flushed.diagnostics⟩

end HtmlTemplate.Script
