/-
This file holds markup as a tree, with what the names of tags say: which elements are void, which end tags may
be left out, and which open elements a start tag ends. It reads and writes document type declarations.
-/

import HtmlTemplate.Source.Basic
import HtmlTemplate.Text.Basic

namespace HtmlTemplate.Markup.Tag

/-- The elements that have no content and no end tag. -/
def voidTags : List String :=
  ["area", "base", "br", "col", "embed", "hr", "img", "input", "link", "meta", "param", "source",
   "track", "wbr"]

/-- The elements whose end tag may be left out. -/
def optionalEndTags : List String :=
  ["html", "head", "body", "p", "li", "dt", "dd", "option", "optgroup", "rt", "rp", "colgroup",
   "tbody", "thead", "tfoot", "tr", "td", "th"]

/-- The tags whose start ends an open paragraph. -/
def paragraphEnders : List String :=
  ["address", "article", "aside", "blockquote", "details", "dialog", "div", "dl", "fieldset",
   "figcaption", "figure", "footer", "form", "h1", "h2", "h3", "h4", "h5", "h6", "header",
   "hgroup", "hr", "main", "menu", "nav", "ol", "p", "pre", "section", "table", "ul"]

/-- A void element never has content. The case of the name does not matter. -/
def isVoid (tag : String) : Bool := voidTags.contains (Text.lowered tag)

/-- Whether the end tag of an element may be left out. -/
def hasOptionalEnd (tag : String) : Bool := optionalEndTags.contains tag

/-- The element whose content is kept apart from the document. -/
def isTemplate (tag : String) : Bool := Text.agree tag.toList "template".toList

/-- The elements that a start tag ends, and those it stops at. -/
structure ImpliedEnd where
  closes : List String
  scope : List String
  deriving DecidableEq, Repr

/-- The open elements that the start of the given tag ends. -/
def impliedEnd? (tag : String) : Option ImpliedEnd :=
  match tag with
  | "li" => some ⟨["li"], ["ul", "ol", "menu"]⟩
  | "dt" | "dd" => some ⟨["dt", "dd"], ["dl"]⟩
  | "option" => some ⟨["option"], ["select", "datalist", "optgroup"]⟩
  | "optgroup" => some ⟨["option", "optgroup"], ["select"]⟩
  | "rt" | "rp" => some ⟨["rt", "rp"], ["ruby"]⟩
  | "tr" => some ⟨["tr", "td", "th"], ["table", "tbody", "thead", "tfoot"]⟩
  | "td" | "th" => some ⟨["td", "th"], ["tr", "table"]⟩
  | "tbody" | "thead" | "tfoot" =>
      some ⟨["tbody", "thead", "tfoot", "tr", "td", "th"], ["table"]⟩
  | "body" => some ⟨["head"], ["html"]⟩
  | other => if paragraphEnders.contains other then some ⟨["p"], []⟩ else none

end HtmlTemplate.Markup.Tag

namespace HtmlTemplate.Markup

/-- A doctype with its name and its identifiers. -/
structure Doctype where
  name : String
  publicId : Option String
  systemId : Option String
  deriving DecidableEq, Repr

namespace Doctype

/-- The text after a keyword in any case. -/
def afterKeyword? (keyword : String) (chars : List Char) : Option (List Char) :=
  let length := keyword.toList.length
  if Text.agree (chars.take length) keyword.toList then some (chars.drop length) else none

/-- A quoted text at the front, closed or not, and what follows it. -/
def takeQuoted (chars : List Char) : Option String × List Char :=
  match Text.trimStart chars with
  | [] => (none, [])
  | mark :: rest =>
      if mark = '"' ∨ mark = '\'' then
        (some (String.ofList (rest.takeWhile (· != mark))), (rest.dropWhile (· != mark)).drop 1)
      else (none, mark :: rest)

/-- The public and the system identifier. -/
def identifiers (chars : List Char) : Option String × Option String :=
  match afterKeyword? "public" chars with
  | some rest =>
      let quoted := takeQuoted rest
      (quoted.1, (takeQuoted quoted.2).1)
  | none =>
      match afterKeyword? "system" chars with
      | some rest => (none, (takeQuoted rest).1)
      | none => (none, none)

/-- Reads the inside of a declaration that starts with the word. -/
def ofDeclaration? (chars : List Char) : Option Doctype :=
  (afterKeyword? "doctype" chars).map fun rest =>
    let start := Text.trimStart rest
    let name := start.takeWhile fun c => !Text.isBlank c
    let ids := identifiers (Text.trimStart (start.dropWhile fun c => !Text.isBlank c))
    { name := if name.isEmpty then "html" else String.ofList (Text.lower name)
      publicId := ids.1
      systemId := ids.2 }

/-- The declaration in full. -/
def write (doctype : Doctype) : String :=
  let ids := match doctype.publicId, doctype.systemId with
    | some publicId, some systemId => " PUBLIC \"" ++ publicId ++ "\" \"" ++ systemId ++ "\""
    | some publicId, none => " PUBLIC \"" ++ publicId ++ "\""
    | none, some systemId => " SYSTEM \"" ++ systemId ++ "\""
    | none, none => ""
  "<!DOCTYPE " ++ doctype.name ++ ids ++ ">"

/-- The declaration as it is rendered: in full, or always the short one. -/
def render (doctype : Doctype) (preserve : Bool) : String :=
  if preserve then doctype.write else "<!DOCTYPE html>"

end Doctype

/-- An attribute with its name in lower case and its value decoded. -/
structure Attribute where
  name : String
  value : String
  location : Location
  deriving DecidableEq, Repr

/-- The children of an element with detached content do not belong to the document. -/
inductive Node where
  | doctype (doctype : Doctype) (location : Location)
  | comment (content : String) (location : Location)
  | text (content : String) (location : Location)
  | element (tag : String) (attributes : List Attribute) (children : List Node) (detached : Bool)
      (location : Location)
  deriving Repr

def Node.location : Node → Location
  | .doctype _ location => location
  | .comment _ location => location
  | .text _ location => location
  | .element _ _ _ _ location => location

/-- What reading markup needs to know. -/
structure ReadOptions where
  isVoid : String → Bool := Tag.isVoid
  comments : Bool := true

end HtmlTemplate.Markup
