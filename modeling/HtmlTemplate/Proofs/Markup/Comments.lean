/-
This file shows that comments leave no trace behind. A tree that is read without them is the tree that is
read with them once they are deleted, and the same template is built from both.
-/

import HtmlTemplate.Proofs.Markup.Nesting
import HtmlTemplate.Proofs.Result
import HtmlTemplate.Template.Node
import HtmlTemplate.Template.OfMarkup

namespace HtmlTemplate.Markup

mutual

/-- A node without the comments inside it. Nothing is left of a comment. -/
def Node.dropComments : Node → List Node
  | .doctype declared location => [.doctype declared location]
  | .comment _ _ => []
  | .text content location => [.text content location]
  | .element tag attributes children detached location =>
      [.element tag attributes (dropAllComments children) detached location]

def dropAllComments : List Node → List Node
  | [] => []
  | node :: rest => node.dropComments ++ dropAllComments rest

end

/-- The document without the comments at any depth. -/
def Document.dropComments (document : Document) : Document :=
  ⟨dropAllComments document.nodes, document.diagnostics⟩

/-- Comments are dropped from each part. -/
@[simp] theorem dropAllComments_append (first second : List Node) :
    dropAllComments (first ++ second) = dropAllComments first ++ dropAllComments second := by
  induction first with
  | nil => rfl
  | cons node rest inductionHypothesis =>
      rw [List.cons_append, dropAllComments, dropAllComments, inductionHypothesis, List.append_assoc]

theorem Node.reverse_dropComments (node : Node) : node.dropComments.reverse = node.dropComments := by
  cases node <;> rfl

/-- Comments are dropped in any order. -/
theorem dropAllComments_reverse (nodes : List Node) :
    dropAllComments nodes.reverse = (dropAllComments nodes).reverse := by
  induction nodes with
  | nil => rfl
  | cons node rest inductionHypothesis =>
      rw [List.reverse_cons, dropAllComments_append, inductionHypothesis]
      simp only [dropAllComments, List.append_nil, List.reverse_append, node.reverse_dropComments]

/-- An open element without the comments in its content. -/
def OpenElement.dropComments (element : OpenElement) : OpenElement :=
  { element with children := dropAllComments element.children }

/-- An element that is closed drops the comments inside it. -/
theorem OpenElement.dropComments_node (element : OpenElement) (location : Location) :
    (element.node location).dropComments = [element.dropComments.node location] := by
  simp [node, Node.dropComments, dropComments, dropAllComments_reverse]

namespace Construction

/-- The tree under construction without the comments so far. -/
def dropComments (state : Construction) : Construction :=
  ⟨state.openElements.map OpenElement.dropComments, dropAllComments state.roots, state.diagnostics⟩

/-- The newest siblings are those without comments. -/
theorem siblings_dropComments (state : Construction) :
    state.dropComments.siblings = dropAllComments state.siblings := by
  rcases state with ⟨openElements, roots, diagnostics⟩
  cases openElements <;> rfl

theorem dropComments_withSiblings (state : Construction) (nodes : List Node) :
    (state.withSiblings nodes).dropComments =
      state.dropComments.withSiblings (dropAllComments nodes) := by
  rcases state with ⟨openElements, roots, diagnostics⟩
  cases openElements <;> rfl

/-- A node that is no comment is added to the siblings left. -/
theorem dropComments_add (state : Construction) {node kept : Node}
    (same : node.dropComments = [kept]) :
    (state.add node).dropComments = state.dropComments.add kept := by
  rw [add, dropComments_withSiblings, dropAllComments, same, add, siblings_dropComments,
    List.singleton_append]

/-- Adding a comment adds nothing. -/
theorem dropComments_add_comment (state : Construction) (content : String) (location : Location) :
    (state.add (.comment content location)).dropComments = state.dropComments := by
  rw [add, dropComments_withSiblings, dropAllComments, Node.dropComments, List.nil_append,
    ← siblings_dropComments, withSiblings_siblings]

section

variable (source : Source)

/-- Closing an element commutes with dropping comments. -/
theorem dropComments_closeInnermost (stop : Option Nat) (state : Construction) :
    (state.closeInnermost source stop).dropComments =
      state.dropComments.closeInnermost source stop := by
  rcases state with ⟨openElements, roots, diagnostics⟩
  cases openElements with
  | nil => rfl
  | cons element outer => exact dropComments_add _ (element.dropComments_node _)

/-- A missing end tag commutes with dropping comments. -/
theorem dropComments_closeUnterminated (stop : Nat) (state : Construction) :
    (state.closeUnterminated source stop).dropComments =
      state.dropComments.closeUnterminated source stop := by
  rcases state with ⟨openElements, roots, diagnostics⟩
  cases openElements with
  | nil => rfl
  | cons element outer =>
      cases optional : Tag.hasOptionalEnd element.tag with
      | true =>
          simp only [closeUnterminated, dropComments, List.map_cons, OpenElement.dropComments, optional,
            if_true]
          exact dropComments_closeInnermost source (some stop) ⟨element :: outer, roots, diagnostics⟩
      | false =>
          simp only [closeUnterminated, dropComments, List.map_cons, OpenElement.dropComments, optional,
            Bool.false_eq_true, if_false]
          exact dropComments_closeInnermost source none
            (report ⟨element :: outer, roots, diagnostics⟩ .missingEndTag element.location)

/-- Steps that commute with dropping comments do so repeatedly. -/
theorem dropComments_repeated {change : Construction → Construction}
    (each : ∀ state, (change state).dropComments = change state.dropComments) (count : Nat)
    (state : Construction) :
    (repeated change count state).dropComments = repeated change count state.dropComments := by
  induction count generalizing state with
  | zero => rfl
  | succ count inductionHypothesis => rw [repeated, inductionHypothesis, each, repeated]

/-- Which elements a start tag ends is seen from their names. -/
theorem impliedCount_dropComments (rule : Tag.ImpliedEnd) (elements : List OpenElement) :
    impliedCount rule (elements.map OpenElement.dropComments) = impliedCount rule elements := by
  induction elements with
  | nil => rfl
  | cons element outer inductionHypothesis =>
      rw [List.map_cons, impliedCount, impliedCount, inductionHypothesis]
      rfl

/-- Implied end tags commute with dropping comments. -/
theorem dropComments_closeImplied (tag : String) (start : Nat) (state : Construction) :
    (state.closeImplied source tag start).dropComments =
      state.dropComments.closeImplied source tag start := by
  unfold closeImplied
  cases Tag.impliedEnd? tag with
  | none => rfl
  | some rule =>
      dsimp only
      rw [dropComments_repeated (dropComments_closeInnermost source (some start)),
        show state.dropComments.openElements = state.openElements.map OpenElement.dropComments from rfl,
        impliedCount_dropComments]

variable (isVoid : String → Bool)

/-- A start tag commutes with dropping comments. -/
theorem dropComments_startTag (name : Lexeme) (written : List AttributeToken) (selfClosing : Bool)
    (stop : Nat) (state : Construction) :
    (state.startTag source ⟨isVoid, true⟩ name written selfClosing stop).dropComments =
      state.dropComments.startTag source ⟨isVoid, false⟩ name written selfClosing stop := by
  unfold startTag
  dsimp only
  rw [← dropComments_closeImplied]
  split
  · exact dropComments_add _ (OpenElement.dropComments_node _ _)
  · split
    · exact dropComments_add _ rfl
    · rfl

/-- An end tag commutes with dropping comments. -/
theorem dropComments_endTag (name : Lexeme) (state : Construction) :
    (state.endTag source ⟨isVoid, true⟩ name).dropComments =
      state.dropComments.endTag source ⟨isVoid, false⟩ name := by
  have found : state.dropComments.openElements.findIdx?
      (fun element => Text.agree element.tag.toList name.chars) =
        state.openElements.findIdx? fun element => Text.agree element.tag.toList name.chars := by
    rw [dropComments, List.findIdx?_map]
    rfl
  unfold endTag
  dsimp only
  rw [found]
  split
  · rfl
  · split
    · rfl
    · rw [dropComments_closeInnermost,
        dropComments_repeated (dropComments_closeUnterminated source (name.start - 2))]

/-- A comment is dropped whether it is kept or not. -/
theorem dropComments_addComment (content : Lexeme) (state : Construction) :
    (state.addComment source ⟨isVoid, true⟩ content).dropComments =
      state.dropComments.addComment source ⟨isVoid, false⟩ content :=
  dropComments_add_comment state _ _

/-- A declaration commutes with dropping comments. -/
theorem dropComments_addDeclaration (content : Lexeme) (state : Construction) :
    (state.addDeclaration source ⟨isVoid, true⟩ content).dropComments =
      state.dropComments.addDeclaration source ⟨isVoid, false⟩ content := by
  unfold addDeclaration
  cases Doctype.ofDeclaration? content.chars with
  | some declared => exact dropComments_add state rfl
  | none => exact dropComments_addComment source isVoid content state

/-- Only a text looks at the siblings before it. -/
theorem dropComments_take (state : Construction) {token : Token}
    (apart : ∀ content, token ≠ .text content) :
    (state.take source ⟨isVoid, true⟩ token).dropComments =
      state.dropComments.take source ⟨isVoid, false⟩ token := by
  cases token with
  | text content => exact absurd rfl (apart content)
  | startTag name written selfClosing stop =>
      exact dropComments_startTag source isVoid name written selfClosing stop state
  | endTag name => exact dropComments_endTag source isVoid name state
  | namelessEndTag stop => rfl
  | comment content => exact dropComments_addComment source isVoid content state
  | declaration content => exact dropComments_addDeclaration source isVoid content state
  | unfinished construct stop =>
      cases construct with
      | endTag name =>
          exact congrArg (reportAt source .eofInTag stop) (dropComments_endTag source isVoid name state)
      | _ => rfl

/-- The end of the source commutes with dropping comments. -/
theorem dropComments_finish (state : Construction) :
    (state.finish source).dropComments = state.dropComments.finish source := by
  rw [finish, finish, dropComments_repeated (dropComments_closeUnterminated source source.size),
    show state.dropComments.openElements = state.openElements.map OpenElement.dropComments from rfl,
    List.length_map]

/-- No text that a comment parts from the given offset reaches that offset. -/
structure Parted (offset : Nat) (state : Construction) : Prop where
  reaches : state.dropComments.TextBelow (offset + 1)
  apart : state.endsWithText = true ∨ state.dropComments.TextBelow offset

variable {source}

/-- A text goes on with the same text, whether or not there are comments. -/
theorem Parted.dropComments_addText (content : Lexeme) {state : Construction}
    (parted : state.Parted content.start) :
    (state.addText source content).dropComments = state.dropComments.addText source content := by
  cases ends : state.endsWithText with
  | true =>
      obtain ⟨before, location, older, newest⟩ : ∃ before location older,
          state.siblings = .text before location :: older := by
        unfold endsWithText at ends
        split at ends
        · exact ⟨_, _, _, ‹_›⟩
        · contradiction
      have left : state.dropComments.siblings = .text before location :: dropAllComments older := by
        rw [siblings_dropComments, newest]
        rfl
      unfold addText
      rw [newest, left]
      dsimp only
      split
      · exact dropComments_withSiblings state _
      · exact dropComments_add state rfl
  | false =>
      have below : state.dropComments.TextBelow content.start :=
        parted.apart.resolve_left (by rw [ends]; exact Bool.false_ne_true)
      rw [below.addText, addText_apart source content state ends]
      exact dropComments_add state rfl

/-- A text stops before the byte behind it. -/
theorem textBelow_addText (source : Source) (content : Lexeme) (state : Construction) :
    (state.addText source content).TextBelow (content.stop + 1) := by
  have recorded (start : Nat) : (source.location start content.stop).stop.offset < content.stop + 1 :=
    Nat.lt_succ_of_le ((Nat.mod_le _ _).trans (Nat.min_le_left _ _))
  intro text location older newest
  unfold addText at newest
  split at newest
  · split at newest
    · rw [siblings_withSiblings] at newest
      obtain ⟨⟨_, rfl⟩, _⟩ : (_ ∧ _ = location) ∧ _ = older := by simpa using newest
      exact recorded _
    · rw [add, siblings_withSiblings] at newest
      obtain ⟨⟨_, rfl⟩, _⟩ : (_ ∧ _ = location) ∧ _ = older := by simpa using newest
      exact recorded _
  · rw [add, siblings_withSiblings] at newest
    obtain ⟨⟨_, rfl⟩, _⟩ : (_ ∧ _ = location) ∧ _ = older := by simpa using newest
    exact recorded _

theorem endsWithText_addText (source : Source) (content : Lexeme) (state : Construction) :
    (state.addText source content).endsWithText = true := by
  unfold addText
  split
  · split <;> simp [endsWithText, add]
  · simp [endsWithText, add]

/-- A text leaves the texts before it parted. -/
theorem Parted.addText (content : Lexeme) {state : Construction}
    (parted : state.Parted content.start) : (state.addText source content).Parted content.stop := by
  refine ⟨?_, .inl (endsWithText_addText source content state)⟩
  rw [parted.dropComments_addText content]
  exact textBelow_addText source content state.dropComments

/-- A construct of markup ends beyond every text before it. -/
theorem Parted.take {first second : Nat} {state : Construction} (parted : state.Parted first)
    {token : Token} (apart : ∀ content, token ≠ .text content) (less : first < second) :
    (state.take source ⟨isVoid, true⟩ token).Parted second := by
  have below : (state.take source ⟨isVoid, true⟩ token).dropComments.TextBelow second := by
    rw [dropComments_take source isVoid state apart]
    exact (parted.reaches.mono less).extends
      (extends_take source ⟨isVoid, false⟩ state.dropComments apart)
  exact ⟨below.mono (Nat.le_succ second), .inr below⟩

/-- Comments may be dropped before a run or after it. -/
theorem dropComments_takeAll {cursor : Cursor} {segments : List Segment}
    (tiles : cursor.Tiles segments) {state : Construction} (parted : state.Parted cursor.offset) :
    (takeAll source ⟨isVoid, true⟩ state segments).dropComments =
      takeAll source ⟨isVoid, false⟩ state.dropComments segments := by
  induction tiles generalizing state with
  | done _ => rfl
  | @text cursor after word later passes filled _ inductionHypothesis =>
      have step : (state.addText source ⟨cursor.offset, word⟩).Parted after.offset := by
        rw [passes.offset]
        exact parted.addText ⟨cursor.offset, word⟩
      refine (inductionHypothesis step).trans ?_
      rw [parted.dropComments_addText ⟨cursor.offset, word⟩]
      rfl
  | @markup cursor after word token later passes opens reading _ inductionHypothesis =>
      have onward : cursor.offset < after.offset := by
        rw [passes.offset]
        refine Nat.lt_add_of_pos_right (Text.byteLength_pos ?_)
        rintro rfl
        contradiction
      refine (inductionHypothesis (parted.take isVoid reading.ne_text onward)).trans ?_
      rw [dropComments_take source isVoid state reading.ne_text]
      rfl

end

end Construction

/-- Reading without comments drops the comments. -/
theorem Document.dropComments_ofSource (source : Source) (isVoid : String → Bool) :
    (Document.ofSource source ⟨isVoid, true⟩).dropComments =
      Document.ofSource source ⟨isVoid, false⟩ := by
  have start : Construction.Parted 0 {} :=
    ⟨fun _ _ _ newest => by contradiction, .inr fun _ _ _ newest => by contradiction⟩
  have run : (Construction.takeAll source ⟨isVoid, true⟩ {} (segments source.chars)).dropComments =
      Construction.takeAll source ⟨isVoid, false⟩ {} (segments source.chars) :=
    Construction.dropComments_takeAll isVoid (tiles_segments source.chars) start
  have finished := Construction.dropComments_finish source
    (Construction.takeAll source ⟨isVoid, true⟩ {} (segments source.chars))
  rw [run] at finished
  rw [Document.dropComments, Document.ofSource, dropAllComments_reverse]
  exact congrArg (fun state : Construction =>
    (⟨state.roots.reverse, state.diagnostics.reverse⟩ : Document)) finished

end HtmlTemplate.Markup

namespace HtmlTemplate.Template

mutual

/-- Building drops comments either way. -/
theorem ofMarkups_dropComments (strict : Bool) :
    ∀ (node : Markup.Node) (rest : List Markup.Node),
      ofMarkups strict (node.dropComments ++ rest) = ofMarkups strict (node :: rest)
  | .doctype _ _, _ => rfl
  | .comment _ _, rest => by
      rw [ofMarkups, ofMarkup, Result.pure_eq_ok, Result.ok_bind]
      exact (Result.bind_ok (ofMarkups strict rest)).symm
  | .text _ _, _ => rfl
  | .element tag attributes children detached location, rest => by
      have content := ofMarkups_dropAllComments strict children
      rw [Markup.Node.dropComments, List.singleton_append, ofMarkups, ofMarkup, content]
      rfl

/-- Comments are not part of a template. -/
theorem ofMarkups_dropAllComments (strict : Bool) :
    ∀ nodes : List Markup.Node,
      ofMarkups strict (Markup.dropAllComments nodes) = ofMarkups strict nodes
  | [] => rfl
  | node :: rest => by
      have others := ofMarkups_dropAllComments strict rest
      rw [Markup.dropAllComments, ofMarkups_dropComments strict node, ofMarkups, others]
      rfl

end

end HtmlTemplate.Template

namespace HtmlTemplate.Markup

/-- Reading without comments gives the document with its comments deleted. -/
theorem ofSource_without_comments (source : Source) (isVoid : String → Bool) :
    Document.ofSource source ⟨isVoid, false⟩ =
        (Document.ofSource source ⟨isVoid, true⟩).dropComments ∧
      ∀ options : Options,
        Template.ofDocument options.strict (Document.ofSource source ⟨isVoid, false⟩).nodes =
          Template.ofDocument options.strict (Document.ofSource source ⟨isVoid, true⟩).nodes := by
  have dropped := Document.dropComments_ofSource source isVoid
  refine ⟨dropped.symm, ?_⟩
  intro options
  rw [← dropped, Template.ofDocument, Document.dropComments, Template.ofMarkups_dropAllComments]
  rfl

end HtmlTemplate.Markup
