/-
This file says what reading markup can do to a tree under construction. Every token makes a number of
elementary steps, so that whatever holds at the start and is kept by each step holds at the end.
-/

import HtmlTemplate.Proofs.Markup.Construction
import Mathlib.Logic.Relation

namespace HtmlTemplate.Markup

/-- A node without content. -/
def Node.isLeaf : Node → Bool
  | .doctype _ _ => true
  | .comment _ _ => true
  | .text _ _ => true
  | .element _ _ children _ _ => children.isEmpty

/-- A node without content as a token other than a text adds it. -/
def Node.IsMade (options : ReadOptions) : Node → Prop
  | .doctype _ _ => True
  | .comment _ _ => True
  | .text _ _ => False
  | .element tag _ children detached _ => children = [] ∧
      (detached = Tag.isTemplate tag ∨ options.isVoid tag = true ∧ detached = false)

theorem Node.IsMade.isLeaf {options : ReadOptions} {node : Node} (made : node.IsMade options) :
    node.isLeaf = true := by
  cases node with
  | text => exact made.elim
  | element => exact List.isEmpty_iff.mpr made.1
  | _ => rfl

namespace Construction

/-- An elementary change by anything but a text. -/
inductive Change (options : ReadOptions) : Construction → Construction → Prop where
  | added (state : Construction) (node : Node) (made : node.IsMade options) :
      Change options state (state.add node)
  | opened (state : Construction) (element : OpenElement) (empty : element.children = [])
      (content : options.isVoid element.tag = false) :
      Change options state (inside element state)
  | closed (state : Construction) (element : OpenElement) (location : Location) :
      Change options (inside element state) (state.add (element.node location))
  | reported (state : Construction) (code : Diagnostic.Code) (location : Location)
      (markup : code.isMarkup = true) : Change options state (state.report code location)

/-- Any number of elementary changes. -/
abbrev Changes (options : ReadOptions) : Construction → Construction → Prop :=
  Relation.ReflTransGen (Change options)

/-- An elementary step of building a tree. -/
inductive Step (options : ReadOptions) : Construction → Construction → Prop where
  | added (state : Construction) (node : Node) (leaf : node.isLeaf = true) :
      Step options state (state.add node)
  | continued (state : Construction) (before content : String) (location whole : Location)
      (older : List Node) (newest : state.siblings = .text before location :: older) :
      Step options state (state.withSiblings (.text (before ++ content) whole :: older))
  | opened (state : Construction) (element : OpenElement) (empty : element.children = [])
      (content : options.isVoid element.tag = false) :
      Step options state (inside element state)
  | closed (state : Construction) (element : OpenElement) (location : Location) :
      Step options (inside element state) (state.add (element.node location))
  | reported (state : Construction) (code : Diagnostic.Code) (location : Location)
      (markup : code.isMarkup = true) : Step options state (state.report code location)

/-- Any number of elementary steps. -/
abbrev Steps (options : ReadOptions) : Construction → Construction → Prop :=
  Relation.ReflTransGen (Step options)

section

variable {options : ReadOptions}

/-- Changes may be repeated. -/
theorem changes_repeated {change : Construction → Construction}
    (each : ∀ state, Changes options state (change state)) (count : Nat) (state : Construction) :
    Changes options state (repeated change count state) := by
  induction count generalizing state with
  | zero => exact .refl
  | succ count inductionHypothesis => exact (each state).trans (inductionHypothesis _)

theorem changes_closeInnermost (source : Source) (stop : Option Nat) (state : Construction) :
    Changes options state (state.closeInnermost source stop) := by
  rcases state with ⟨openElements, roots, diagnostics⟩
  cases openElements with
  | nil => exact .refl
  | cons element outer => exact .single (.closed ⟨outer, roots, diagnostics⟩ element _)

theorem changes_closeUnterminated (source : Source) (stop : Nat) (state : Construction) :
    Changes options state (state.closeUnterminated source stop) := by
  unfold closeUnterminated
  split
  · exact .refl
  · rename_i element outer _
    split
    · exact changes_closeInnermost source _ state
    · exact .head (.reported state .missingEndTag element.location rfl)
        (changes_closeInnermost source none _)

theorem changes_closeImplied (source : Source) (tag : String) (start : Nat)
    (state : Construction) : Changes options state (state.closeImplied source tag start) := by
  unfold closeImplied
  split
  · exact .refl
  · exact changes_repeated (changes_closeInnermost source _) _ state

/-- A start tag is made of changes. -/
theorem changes_startTag (source : Source) (name : Lexeme) (written : List AttributeToken)
    (selfClosing : Bool) (stop : Nat) (state : Construction) :
    Changes options state (state.startTag source options name written selfClosing stop) := by
  have before : Changes options state (state.closeImplied source
      (String.ofList (Text.lower name.chars)) (name.start - 1)) :=
    changes_closeImplied source _ _ state
  unfold startTag
  dsimp only
  split
  · exact before.tail (.added _ _ ⟨rfl, .inl rfl⟩)
  · split
    · rename_i void
      exact before.tail (.added _ _ ⟨rfl, .inr ⟨void, rfl⟩⟩)
    · rename_i content
      exact before.tail (.opened _ _ rfl (by simpa using content))

/-- An end tag is made of changes. -/
theorem changes_endTag (source : Source) (name : Lexeme) (state : Construction) :
    Changes options state (state.endTag source options name) := by
  unfold endTag
  split
  · exact .refl
  · split
    · exact .single (.reported state .invalidEndTag _ rfl)
    · exact (changes_repeated (changes_closeUnterminated source _) _ state).trans
        (changes_closeInnermost source _ _)

theorem changes_addComment (source : Source) (content : Lexeme) (state : Construction) :
    Changes options state (state.addComment source options content) := by
  unfold addComment
  split
  · exact .single (.added state _ trivial)
  · exact .refl

theorem changes_addDeclaration (source : Source) (content : Lexeme) (state : Construction) :
    Changes options state (state.addDeclaration source options content) := by
  unfold addDeclaration
  split
  · exact .single (.added state _ trivial)
  · exact changes_addComment source content state

theorem isMarkup_unfinished (construct : Unfinished) : construct.code.isMarkup = true := by
  cases construct <;> rfl

/-- A token other than a text makes elementary changes. -/
theorem changes_take (source : Source) (state : Construction) {token : Token}
    (apart : ∀ content, token ≠ .text content) :
    Changes options state (state.take source options token) := by
  unfold take
  split
  · rename_i content
    exact absurd rfl (apart content)
  · exact changes_startTag source _ _ _ _ state
  · exact changes_endTag source _ state
  · exact .single (.reported state .missingEndTagName _ rfl)
  · exact changes_addComment source _ state
  · exact changes_addDeclaration source _ state
  · exact (changes_endTag source _ state).tail (.reported _ .eofInTag _ rfl)
  · rename_i construct stop _
    exact .single (.reported state construct.code _ (isMarkup_unfinished construct))

theorem changes_finish (source : Source) (state : Construction) :
    Changes options state (state.finish source) :=
  changes_repeated (changes_closeUnterminated source source.size) _ state

theorem Change.step {first second : Construction} (change : Change options first second) :
    Step options first second := by
  cases change with
  | added _ node made => exact .added _ node made.isLeaf
  | opened _ element empty content => exact .opened _ element empty content
  | closed _ element location => exact .closed _ element location
  | reported _ code location markup => exact .reported _ code location markup

theorem Changes.steps {first second : Construction} (changes : Changes options first second) :
    Steps options first second :=
  Relation.ReflTransGen.mono (fun _ _ change => change.step) _ _ changes

theorem steps_addText (source : Source) (content : Lexeme) (state : Construction) :
    Steps options state (state.addText source content) := by
  unfold addText
  split
  · rename_i before location older newest
    split
    · exact .single (.continued state before content.text location _ older newest)
    · exact .single (.added state _ rfl)
  · exact .single (.added state _ rfl)

/-- Taking a token makes elementary steps. -/
theorem steps_take (source : Source) (state : Construction) (token : Token) :
    Steps options state (state.take source options token) := by
  by_cases isText : ∃ content, token = .text content
  · obtain ⟨content, rfl⟩ := isText
    exact steps_addText source content state
  · exact Changes.steps (changes_take source state fun content same => isText ⟨content, same⟩)

theorem steps_takeAll (source : Source) (tokens : List Token) (state : Construction) :
    Steps options state (tokens.foldl (take source options) state) := by
  induction tokens generalizing state with
  | nil => exact .refl
  | cons token rest inductionHypothesis =>
      exact (steps_take source state token).trans (inductionHypothesis _)

theorem steps_finish (source : Source) (state : Construction) :
    Steps options state (state.finish source) :=
  Changes.steps (changes_finish source state)

/-- A document is what elementary steps lead to from an empty tree. -/
theorem steps_ofSource (source : Source) (options : ReadOptions) :
    ∃ state, Steps options {} state ∧
      Document.ofSource source options = ⟨state.roots.reverse, state.diagnostics.reverse⟩ :=
  ⟨_, (steps_takeAll source (tokens source.chars) {}).trans (steps_finish source _), rfl⟩

/-- What every step keeps holds of the tree of every source. -/
theorem invariant_ofSource (source : Source) (options : ReadOptions)
    {invariant : Construction → Prop} (start : invariant {})
    (kept : ∀ first second, Step options first second → invariant first → invariant second) :
    ∃ state, invariant state ∧
      Document.ofSource source options = ⟨state.roots.reverse, state.diagnostics.reverse⟩ := by
  obtain ⟨state, steps, document⟩ := steps_ofSource source options
  refine ⟨state, ?_, document⟩
  clear document
  induction steps with
  | refl => exact start
  | tail _ step inductionHypothesis => exact kept _ _ step inductionHypothesis

end

end Construction

end HtmlTemplate.Markup
