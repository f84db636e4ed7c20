/-
This file compiles templates: it reads the markup, builds the template, folds its branches, merges its
static runs and generates its module.
-/

import HtmlTemplate.Compile.Log
import HtmlTemplate.Digest.Xxh3
import HtmlTemplate.Markup.Tree.Construction
import HtmlTemplate.Script.Emitter
import HtmlTemplate.Template.Chain
import HtmlTemplate.Template.OfMarkup

namespace HtmlTemplate

/-- Comments never reach a template, so that they are not read at all. -/
def readOptions : Markup.ReadOptions := { comments := false }

def readMarkup (source : String) : Markup.Document := Markup.Document.read source readOptions

/-- A single diagnostic as a failure. -/
def failing {α : Type} : Except Diagnostic α → Except Failure α
  | .ok value => .ok value
  | .error fault => .error (.ofDiagnostic fault)

/-- The folded template of a source; wrong markup is fatal. -/
def parseTemplate (options : Options) (source : String) : Except Failure Template.Node := do
  let document := readMarkup source
  if !document.diagnostics.isEmpty then throw ⟨document.diagnostics⟩
  let template ← failing (Template.ofDocument options.strict document.nodes)
  failing (Template.fold options.strict template)

/-- A compiled template. -/
structure Compiled where
  template : Template.Node
  code : String
  contentName : String
  diagnostics : List Diagnostic
  deriving Repr

/-- A module with markers must not be used. -/
def Compiled.isValid (compiled : Compiled) : Bool := compiled.diagnostics.isEmpty

/-- Compiles a source to a module with a function of the given name. -/
def compile (options : Options) (name : String) (source : String) : Except Failure Compiled := do
  let template := Template.mergeStatic (← parseTemplate options source)
  let generated ← failing (Script.generate options name template)
  return ⟨template, generated.code, Digest.contentName generated.code, generated.diagnostics⟩

namespace Trace

/-- A stage logs once it has succeeded, and a failure ends the log. -/
def stage {α : Type} (result : Except Diagnostic α) (events : α → List LogEvent) : List LogEvent :=
  match result with
  | .ok value => events value
  | .error _ => []

/-- The events of generating the module and naming it. -/
def generating (options : Options) (name : String) (template : Template.Node) : List LogEvent :=
  stage (Script.generate options name template) fun generated =>
    (generated.diagnostics.map fun fault =>
      .strayBranch (fault.detail.getD "") (fault.location.getD .stub).start) ++
    [.generatedFunction generated.code.utf8ByteSize generated.diagnostics.length,
     .compiledTemplate name (Digest.contentName generated.code)]

/-- The events of folding branches and of all that follows. -/
def folding (options : Options) (name : String) (template : Template.Node) : List LogEvent :=
  stage (Template.fold options.strict template) fun folded =>
    ((Template.looseBranches folded).map fun branch =>
      .orphanBranch branch.kind branch.kind.orphanCode branch.location.start) ++
    [.foldedBranches (Template.chainStarts template),
     .mergedStatic (Template.staticRuns folded)] ++
    generating options name (Template.mergeStatic folded)

/-- The events of building the template and of all that follows. -/
def building (options : Options) (name : String) (nodes : List Markup.Node) : List LogEvent :=
  stage (Template.ofDocument options.strict nodes) fun template =>
    (if options.strict then []
      else (Template.allAmbiguousElements nodes).map fun location =>
        .ambiguousDirectives location.start) ++
    folding options name template

end Trace

/-- The events that compiling a source is logged by, in their order. -/
def compileLog (options : Options) (name : String) (source : String) : List LogEvent :=
  let document := readMarkup source
  .parsedMarkup document.nodes.length document.diagnostics.length ::
    if document.diagnostics.isEmpty then Trace.building options name document.nodes else []

end HtmlTemplate
