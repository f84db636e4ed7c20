/-
This file builds the tree of a source from single events instead of tokens. The parts of a start tag are
then heard one by one, and none of them is ever heard without the start tag or the attribute that it
belongs to.
-/

import HtmlTemplate.Markup.Tree.Construction
import HtmlTemplate.Proofs.Markup.Tiling

namespace HtmlTemplate.Markup

/-- A start tag without its end so far, with its attributes. -/
structure OpenTag where
  name : Lexeme
  attributes : List AttributeToken
  deriving DecidableEq, Repr

/-- An attribute without its end so far, with its value if any. -/
structure OpenAttribute where
  name : Lexeme
  value : Option Lexeme
  deriving DecidableEq, Repr

/-- A tree under construction with the part of a start tag heard. -/
structure Assembly where
  tree : Construction := {}
  tag : Option OpenTag := none
  pending : Option OpenAttribute := none

namespace Assembly

/-- Hears an event; one that does not fit has no result. -/
def hear (source : Source) (options : ReadOptions) (state : Assembly) : Event → Option Assembly
  | .text content => some { state with tree := state.tree.addText source content }
  | .startTag name => some { state with tag := some ⟨name, []⟩ }
  | .attributeName name => some { state with pending := some ⟨name, none⟩ }
  | .value content =>
      match state.pending with
      | some ⟨name, none⟩ => some { state with pending := some ⟨name, some content⟩ }
      | _ => none
  | .attributeEnd quote stop =>
      match state.pending, state.tag with
      | some ⟨name, value⟩, some ⟨tag, attributes⟩ =>
          let written := ⟨name, value.getD ⟨stop, []⟩, quote, stop⟩
          some { state with tag := some ⟨tag, attributes ++ [written]⟩, pending := none }
      | _, _ => none
  | .startTagEnd stop => state.tag.map fun tag =>
      { state with
        tree := state.tree.startTag source options tag.name tag.attributes false stop, tag := none }
  | .selfClosing stop => state.tag.map fun tag =>
      { state with
        tree := state.tree.startTag source options tag.name tag.attributes true stop, tag := none }
  | .endTag name => some { state with tree := state.tree.endTag source options name }
  | .comment content => some { state with tree := state.tree.addComment source options content }
  | .declaration content =>
      some { state with tree := state.tree.addDeclaration source options content }
  | .error code offset => some { state with tree := state.tree.reportAt source code offset }
  | .finish => some state

/-- Hears events one after another, as long as they fit. -/
def hearAll (source : Source) (options : ReadOptions) (state : Assembly) (events : List Event) :
    Option Assembly :=
  events.foldlM (hear source options) state

/-- The document when all events have been heard. -/
def document (source : Source) (state : Assembly) : Document :=
  ⟨(state.tree.finish source).roots.reverse, (state.tree.finish source).diagnostics.reverse⟩

variable (source : Source) (options : ReadOptions)

theorem hearAll_cons (state : Assembly) (event : Event) (later : List Event) :
    hearAll source options state (event :: later) =
      (hear source options state event).bind fun next => hearAll source options next later := rfl

/-- Events in a row are heard in a row. -/
theorem hearAll_append (state : Assembly) (first later : List Event) :
    hearAll source options state (first ++ later) =
      (hearAll source options state first).bind fun next => hearAll source options next later :=
  List.foldlM_append

/-- What is heard of an attribute. The place of an empty value is not. -/
def heardOf (written : AttributeToken) : AttributeToken :=
  { written with value := if written.value.chars.isEmpty then ⟨written.stop, []⟩ else written.value }

/-- An attribute as it is heard is the attribute as read. -/
theorem attributeOf_heardOf (written : AttributeToken) :
    Construction.attributeOf source (heardOf written) = Construction.attributeOf source written := by
  unfold heardOf
  split
  · rename_i empty
    simp [Construction.attributeOf, List.isEmpty_iff.mp empty]
  · rfl

/-- The events of an attribute add it to the tag. -/
theorem hearAll_attribute (state : Assembly) {tag : OpenTag} (inTag : state.tag = some tag)
    (written : AttributeToken) :
    hearAll source options state written.events = some { state with
      tag := some ⟨tag.name, tag.attributes ++ [heardOf written]⟩, pending := none } := by
  rcases state with ⟨tree, _, pending⟩
  subst inTag
  unfold AttributeToken.events heardOf
  split <;> rfl

/-- The events of attributes add them in their order. -/
theorem hearAll_attributes (state : Assembly) {tag : OpenTag} (inTag : state.tag = some tag)
    (attributes : List AttributeToken) :
    ∃ pending, hearAll source options state (attributes.flatMap (·.events)) = some { state with
      tag := some ⟨tag.name, tag.attributes ++ attributes.map heardOf⟩, pending } := by
  induction attributes generalizing state tag with
  | nil =>
      rcases state with ⟨tree, _, pending⟩
      subst inTag
      exact ⟨pending, by simp [hearAll]⟩
  | cons written later inductionHypothesis =>
      have first := hearAll_attribute source options state inTag written
      obtain ⟨pending, heard⟩ := inductionHypothesis
        { state with
          tag := some ⟨tag.name, tag.attributes ++ [heardOf written]⟩, pending := none } rfl
      refine ⟨pending, ?_⟩
      rw [List.flatMap_cons, hearAll_append, first, Option.bind_some, heard]
      simp

/-- A start tag takes its attributes without the places of their values. -/
theorem startTag_heardOf (name : Lexeme) (attributes : List AttributeToken) (selfClosing : Bool)
    (stop : Nat) (tree : Construction) :
    tree.startTag source options name (attributes.map heardOf) selfClosing stop =
      tree.startTag source options name attributes selfClosing stop := by
  have same : (attributes.map heardOf).map (Construction.attributeOf source) =
      attributes.map (Construction.attributeOf source) := by
    rw [List.map_map]
    exact List.map_congr_left fun written _ => attributeOf_heardOf source written
  simp only [Construction.startTag, same]

/-- The events of a token do to the tree what the token does. -/
theorem hearAll_token (state : Assembly) (token : Token) :
    ∃ tag pending, hearAll source options state token.events =
      some ⟨state.tree.take source options token, tag, pending⟩ := by
  cases token with
  | text content => exact ⟨_, _, rfl⟩
  | endTag name => exact ⟨_, _, rfl⟩
  | namelessEndTag stop => exact ⟨_, _, rfl⟩
  | comment content => exact ⟨_, _, rfl⟩
  | declaration content => exact ⟨_, _, rfl⟩
  | startTag name attributes selfClosing stop =>
      obtain ⟨pending, heard⟩ := hearAll_attributes source options
        { state with tag := some ⟨name, []⟩ } rfl attributes
      have tagEnd : hearAll source options
          { state with tag := some ⟨name, attributes.map heardOf⟩, pending }
          [if selfClosing then .selfClosing stop else .startTagEnd stop] =
            some ⟨state.tree.startTag source options name attributes selfClosing stop, none,
              pending⟩ := by
        rw [← startTag_heardOf]
        cases selfClosing <;> rfl
      refine ⟨none, pending, ?_⟩
      rw [Token.events, List.cons_append, hearAll_cons, hear, Option.bind_some, hearAll_append, heard,
        Option.bind_some, List.nil_append, tagEnd]
      rfl
  | unfinished construct stop =>
      cases construct with
      | startTag name attributes cut =>
          obtain ⟨pending, heard⟩ := hearAll_attributes source options
            { state with tag := some ⟨name, []⟩ } rfl attributes
          refine ⟨some ⟨name, attributes.map heardOf⟩, ?_⟩
          rw [Token.events, Unfinished.events, List.cons_append, List.cons_append, hearAll_cons, hear,
            Option.bind_some, List.append_assoc, hearAll_append, heard, Option.bind_some,
            List.nil_append]
          cases cut with
          | none => exact ⟨pending, rfl⟩
          | some cutName => exact ⟨some ⟨cutName, none⟩, rfl⟩
      | endTag name => exact ⟨_, _, rfl⟩
      | tag => exact ⟨_, _, rfl⟩
      | comment => exact ⟨_, _, rfl⟩
      | declaration => exact ⟨_, _, rfl⟩

/-- Hearing the events of tokens takes the tokens. -/
theorem hearAll_tokens (state : Assembly) (tokens : List Token) :
    ∃ tag pending, hearAll source options state (tokens.flatMap Token.events) =
      some ⟨tokens.foldl (Construction.take source options) state.tree, tag, pending⟩ := by
  induction tokens generalizing state with
  | nil => exact ⟨state.tag, state.pending, rfl⟩
  | cons token later inductionHypothesis =>
      obtain ⟨tag, pending, heard⟩ := hearAll_token source options state token
      obtain ⟨lastTag, lastPending, heardLater⟩ := inductionHypothesis
        ⟨state.tree.take source options token, tag, pending⟩
      refine ⟨lastTag, lastPending, ?_⟩
      rw [List.flatMap_cons, hearAll_append, heard, Option.bind_some, heardLater]
      rfl

end Assembly

/-- The events of every source follow the grammar and build its tree. -/
theorem events_isStream (source : Source) (options : ReadOptions) :
    IsStream (events source.chars) ∧
      ∃ final, Assembly.hearAll source options {} (events source.chars) = some final ∧
        final.document source = Document.ofSource source options := by
  refine ⟨⟨_, (tiles_segments source.chars).isBody, events_eq source.chars⟩, ?_⟩
  obtain ⟨tag, pending, heard⟩ := Assembly.hearAll_tokens source options {} (tokens source.chars)
  have heardAll : Assembly.hearAll source options {} (events source.chars) =
      some ⟨(tokens source.chars).foldl (Construction.take source options) {}, tag, pending⟩ := by
    rw [events, Assembly.hearAll_append, heard]
    rfl
  exact ⟨_, heardAll, rfl⟩

end HtmlTemplate.Markup
