/-
This file turns markup into templates. Comments and blank texts are dropped, texts are split at their
interpolations, and template elements with a directive become loops or branches.
-/

import HtmlTemplate.Markup.Tree
import HtmlTemplate.Template.Directive

namespace HtmlTemplate.Template

/-- A text of the template, unless it is blank. -/
def ofText (content : String) (location : Location) : Option Node :=
  if Text.isBlankText content then none
  else
    match splitInterpolations content with
    | [.text literal] => some (.text literal location)
    | parts => some (.interpolated parts location)

/-- The directive of an element. Only template elements have one. -/
def directiveOf (strict : Bool) (tag : String) (attributes : List Markup.Attribute)
    (location : Location) : Except Diagnostic (Option Directive) :=
  if Markup.Tag.isTemplate tag then
    if strict then
      match Directive.check attributes location with
      | .error fault => .error fault
      | .ok () => .ok (Directive.find? attributes)
    else .ok (Directive.find? attributes)
  else .ok none

/-- The node of an element whose content is already built. -/
def ofElement (strict : Bool) (tag : String) (attributes : List Markup.Attribute)
    (location : Location) (content : List Node) : Option Directive → Except Diagnostic Node
  | some (.loop value) => do
      let clause ← ForClause.read strict value location
      return .loop clause.iterator clause.source content location
  | some (.branch kind condition) => return .branch ⟨kind, condition, content, location⟩
  | none =>
      return .element tag (attributes.map fun written => ⟨written.name, written.value⟩) content
        location

mutual

/-- The template of a node, or nothing when the node is dropped. -/
def ofMarkup (strict : Bool) : Markup.Node → Except Diagnostic (Option Node)
  | .doctype doctype location => return some (.doctype doctype location)
  | .comment _ _ => return none
  | .text content location => return ofText content location
  | .element tag attributes children _ location => do
      let directive ← directiveOf strict tag attributes location
      let content ← ofMarkups strict children
      return some (← ofElement strict tag attributes location content directive)

def ofMarkups (strict : Bool) : List Markup.Node → Except Diagnostic (List Node)
  | [] => return []
  | node :: rest => do
      let first ← ofMarkup strict node
      let others ← ofMarkups strict rest
      return first.toList ++ others

end

/-- The template of a whole document. -/
def ofDocument (strict : Bool) (nodes : List Markup.Node) : Except Diagnostic Node := do
  return .root (← ofMarkups strict nodes) .stub

mutual

/-- The template elements with more than one directive, in the order of the document. -/
def ambiguousElements : Markup.Node → List Location
  | .doctype _ _ => []
  | .comment _ _ => []
  | .text _ _ => []
  | .element tag attributes children _ location =>
      (if Markup.Tag.isTemplate tag && 1 < (Directive.present attributes).length then [location]
        else []) ++ allAmbiguousElements children

def allAmbiguousElements : List Markup.Node → List Location
  | [] => []
  | node :: rest => ambiguousElements node ++ allAmbiguousElements rest

end

end HtmlTemplate.Template
