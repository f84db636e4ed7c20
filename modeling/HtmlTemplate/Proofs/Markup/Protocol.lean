/-
This file holds the grammar of the events that a tokenizer reports: items, of which a start tag is one with
all its attributes, then perhaps a part of a construct that the end of the source cuts off.
-/

import HtmlTemplate.Markup.Token

namespace HtmlTemplate.Markup

/-- The events of an attribute. Only an attribute that has a value reports one. -/
inductive IsAttribute : List Event → Prop where
  | bare (name : Lexeme) (quote : Quote) (stop : Nat) :
      IsAttribute [.attributeName name, .attributeEnd quote stop]
  | valued (name content : Lexeme) (quote : Quote) (stop : Nat) (marked : quote ≠ .noValue) :
      IsAttribute [.attributeName name, .value content, .attributeEnd quote stop]

/-- The events of any number of attributes. -/
inductive IsAttributes : List Event → Prop where
  | nothing : IsAttributes []
  | attribute {first later : List Event} (isAttribute : IsAttribute first)
      (isLater : IsAttributes later) : IsAttributes (first ++ later)

/-- The events of a text or of a construct that is complete. -/
inductive IsItem : List Event → Prop where
  | text (content : Lexeme) : IsItem [.text content]
  | endTag (name : Lexeme) : IsItem [.endTag name]
  | comment (content : Lexeme) : IsItem [.comment content]
  | declaration (content : Lexeme) : IsItem [.declaration content]
  | namelessEndTag (offset : Nat) : IsItem [.error .missingEndTagName offset]
  | startTag (name : Lexeme) {attributes : List Event} (isAttributes : IsAttributes attributes)
      (stop : Nat) : IsItem (.startTag name :: attributes ++ [.startTagEnd stop])
  | selfClosing (name : Lexeme) {attributes : List Event} (isAttributes : IsAttributes attributes)
      (stop : Nat) : IsItem (.startTag name :: attributes ++ [.selfClosing stop])

/-- The events of a construct that the end of the source cuts off. -/
inductive IsTail : List Event → Prop where
  | nothing : IsTail []
  | tag (offset : Nat) : IsTail [.error .eofInTag offset]
  | startTag (name : Lexeme) {attributes : List Event} (isAttributes : IsAttributes attributes)
      (pending : Option Lexeme) (offset : Nat) :
      IsTail (.startTag name :: attributes ++ pending.toList.map .attributeName ++
        [.error .eofInTag offset])
  | comment (offset : Nat) : IsTail [.error .eofInComment offset]
  | declaration (offset : Nat) : IsTail [.error .eofInDoctype offset]

/-- Any number of items and then a tail. -/
inductive IsBody : List Event → Prop where
  | tail {events : List Event} (isTail : IsTail events) : IsBody events
  | item {first later : List Event} (isItem : IsItem first) (isBody : IsBody later) :
      IsBody (first ++ later)

/-- All events of a source. -/
def IsStream (events : List Event) : Prop := ∃ body, IsBody body ∧ events = body ++ [.finish]

/-- A value that is marked by nothing is empty. -/
def AttributeToken.IsMarked (written : AttributeToken) : Prop :=
  written.quote = .noValue → written.value.chars = []

/-- A marked attribute reports its name, its value and its end. -/
theorem AttributeToken.IsMarked.isAttribute {written : AttributeToken} (marked : written.IsMarked) :
    IsAttribute written.events := by
  unfold events
  split
  · exact .bare written.name written.quote written.stop
  · rename_i filled
    have quoted : written.quote ≠ .noValue := by
      intro bare
      simp [marked bare] at filled
    exact .valued written.name written.value written.quote written.stop quoted

/-- Marked attributes report one after another. -/
theorem isAttributes_flatMap {attributes : List AttributeToken}
    (marked : ∀ written ∈ attributes, written.IsMarked) :
    IsAttributes (attributes.flatMap (·.events)) := by
  induction attributes with
  | nil => exact .nothing
  | cons written later inductionHypothesis =>
      rw [List.flatMap_cons]
      refine .attribute (marked written List.mem_cons_self).isAttribute (inductionHypothesis ?_)
      exact fun other member => marked other (List.mem_cons_of_mem written member)

end HtmlTemplate.Markup
