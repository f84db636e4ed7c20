/-
This file builds the tree of a source from its tokens. The open elements form a stack, the innermost
first, and the newest child of an element stands first in its list until the element is closed.
-/

import HtmlTemplate.Diagnostic.Basic
import HtmlTemplate.Markup.Token.Scan
import HtmlTemplate.Markup.Tree
import HtmlTemplate.Reference.Decode
import HtmlTemplate.Source.Basic

namespace HtmlTemplate.Markup

/-- An element whose content is being read, located by its start tag. -/
structure OpenElement where
  start : Nat
  tag : String
  attributes : List Attribute
  location : Location
  children : List Node
  deriving Repr

/-- The element with its content. The content of a template is detached. -/
def OpenElement.node (element : OpenElement) (location : Location) : Node :=
  .element element.tag element.attributes element.children.reverse (Tag.isTemplate element.tag)
    location

/-- A tree under construction, with the diagnostics so far, the newest first. -/
structure Construction where
  openElements : List OpenElement := []
  roots : List Node := []
  diagnostics : List Diagnostic := []
  deriving Repr

namespace Construction

/-- The children of the innermost open element, or of the document. -/
def siblings (state : Construction) : List Node :=
  match state.openElements with
  | [] => state.roots
  | element :: _ => element.children

/-- Replaces the siblings at the innermost place, the newest first. -/
def withSiblings (state : Construction) (nodes : List Node) : Construction :=
  match state.openElements with
  | [] => { state with roots := nodes }
  | element :: outer =>
      { state with openElements := { element with children := nodes } :: outer }

/-- Adds a node at the innermost place. -/
def add (state : Construction) (node : Node) : Construction :=
  state.withSiblings (node :: state.siblings)

def report (state : Construction) (code : Diagnostic.Code) (location : Location) : Construction :=
  { state with diagnostics := { code, location := some location } :: state.diagnostics }

/-- A text that directly follows another one continues it. -/
def addText (source : Source) (content : Lexeme) (state : Construction) : Construction :=
  match state.siblings with
  | .text before location :: older =>
      if location.stop.offset = content.start then
        state.withSiblings
          (.text (before ++ content.text) (source.location location.start.offset content.stop) ::
            older)
      else state.add (.text content.text (source.location content.start content.stop))
  | _ => state.add (.text content.text (source.location content.start content.stop))

/-- Ends the innermost open element, located as it is or up to an offset. -/
def closeInnermost (source : Source) (stop : Option Nat) (state : Construction) : Construction :=
  match state.openElements with
  | [] => state
  | element :: outer =>
      let location := match stop with
        | some offset => source.location element.location.start.offset offset
        | none => element.location
      { state with openElements := outer }.add (element.node location)

/-- Ends the innermost open element, and reports it if its end is required. -/
def closeUnterminated (source : Source) (stop : Nat) (state : Construction) : Construction :=
  match state.openElements with
  | [] => state
  | element :: _ =>
      if Tag.hasOptionalEnd element.tag then state.closeInnermost source (some stop)
      else (state.report .missingEndTag element.location).closeInnermost source none

/-- Applies a change to the state the given number of times. -/
def repeated (change : Construction → Construction) : Nat → Construction → Construction
  | 0, state => state
  | count + 1, state => repeated change count (change state)

/-- The number of open elements that a start tag ends, from the innermost. -/
def impliedCount (rule : Tag.ImpliedEnd) : List OpenElement → Nat
  | [] => 0
  | element :: outer =>
      if rule.closes.contains element.tag then impliedCount rule outer + 1
      else if rule.scope.contains element.tag || !Tag.hasOptionalEnd element.tag then 0
      else
        match impliedCount rule outer with
        | 0 => 0
        | count + 1 => count + 2

/-- Ends the elements that the start of the given tag ends. -/
def closeImplied (source : Source) (tag : String) (start : Nat) (state : Construction) :
    Construction :=
  match Tag.impliedEnd? tag with
  | none => state
  | some rule =>
      repeated (closeInnermost source (some start)) (impliedCount rule state.openElements) state

/-- An attribute of the tree. A quoted value ends after its closing quote. -/
def attributeOf (source : Source) (written : AttributeToken) : Attribute where
  name := String.ofList (Text.lower written.name.chars)
  value := String.ofList (Reference.decode written.value.chars)
  location := source.location written.name.start
    (match written.quote with
      | .noValue => written.stop
      | .unquoted => written.stop
      | .single => written.stop + 1
      | .double => written.stop + 1)

/-- Takes a start tag; a void or self-closing element gets no content. -/
def startTag (source : Source) (options : ReadOptions) (name : Lexeme)
    (written : List AttributeToken) (selfClosing : Bool) (stop : Nat) (state : Construction) :
    Construction :=
  let start := name.start - 1
  let tag := String.ofList (Text.lower name.chars)
  let attributes := written.map (attributeOf source)
  let location := source.location start (stop + 1)
  let opened := state.closeImplied source tag start
  if selfClosing then
    opened.add (OpenElement.node ⟨start, tag, attributes, location, []⟩ location)
  else if options.isVoid tag then opened.add (.element tag attributes [] false location)
  else
    { opened with
      openElements := ⟨start, tag, attributes, location, []⟩ :: opened.openElements }

/-- Takes an end tag, which ends the innermost element of its name. -/
def endTag (source : Source) (options : ReadOptions) (name : Lexeme) (state : Construction) :
    Construction :=
  if options.isVoid name.text then state
  else
    match state.openElements.findIdx? fun element => Text.agree element.tag.toList name.chars with
    | none => state.report .invalidEndTag (source.location (name.start - 2) (name.stop + 1))
    | some inner =>
        (repeated (closeUnterminated source (name.start - 2)) inner state).closeInnermost source
          (some (name.stop + 1))

/-- Takes a comment, unless comments are left out. -/
def addComment (source : Source) (options : ReadOptions) (content : Lexeme)
    (state : Construction) : Construction :=
  if options.comments then
    state.add (.comment content.text (source.location content.start content.stop))
  else state

/-- Takes a declaration. One that is no doctype counts as a comment. -/
def addDeclaration (source : Source) (options : ReadOptions) (content : Lexeme)
    (state : Construction) : Construction :=
  match Doctype.ofDeclaration? content.chars with
  | some doctype =>
      state.add (.doctype doctype (source.location (content.start - 2) (content.stop + 1)))
  | none => state.addComment source options content

/-- Reports a fault at the byte at an offset. -/
def reportAt (source : Source) (code : Diagnostic.Code) (offset : Nat) (state : Construction) :
    Construction :=
  state.report code (source.location offset (offset + 1))

/-- Takes a token. -/
def take (source : Source) (options : ReadOptions) (state : Construction) : Token → Construction
  | .text content => state.addText source content
  | .startTag name written selfClosing stop =>
      state.startTag source options name written selfClosing stop
  | .endTag name => state.endTag source options name
  | .namelessEndTag stop => state.reportAt source .missingEndTagName stop
  | .comment content => state.addComment source options content
  | .declaration content => state.addDeclaration source options content
  | .unfinished (.endTag name) stop =>
      (state.endTag source options name).reportAt source .eofInTag stop
  | .unfinished construct stop => state.reportAt source construct.code stop

/-- Ends all open elements at the end of the source. -/
def finish (source : Source) (state : Construction) : Construction :=
  repeated (closeUnterminated source source.size) state.openElements.length state

end Construction

/-- The nodes of a document, and the faults of its markup in order. -/
structure Document where
  nodes : List Node
  diagnostics : List Diagnostic
  deriving Repr

/-- Reads a source. -/
def Document.ofSource (source : Source) (options : ReadOptions) : Document :=
  let state := ((tokens source.chars).foldl (Construction.take source options) {}).finish source
  ⟨state.roots.reverse, state.diagnostics.reverse⟩

def Document.read (text : String) (options : ReadOptions := {}) : Document :=
  Document.ofSource (Source.ofString text) options

end HtmlTemplate.Markup
