/-
This file describes trees under construction: taking the tokens of a source one after another, the
children of the innermost open element, and what ends an open element.
-/

import HtmlTemplate.Markup.Tree.Construction

namespace HtmlTemplate.Markup.Construction

/-- Takes all tokens from a cursor on. -/
def run (source : Source) (options : ReadOptions) (state : Construction) (cursor : Cursor) :
    Construction :=
  ((segmentsFrom cursor).map (·.token)).foldl (take source options) state

section

variable (source : Source) (options : ReadOptions) (state : Construction)

/-- One token of a run, with the raw text that it is followed by. -/
theorem run_step {cursor after later : Cursor} {token : Token} {raw : List Segment}
    (more : cursor.rest ≠ []) (read : readToken cursor = (token, after))
    (readRaw : readRawText token after = (raw, later)) :
    run source options state cursor =
      run source options
        ((raw.map (·.token)).foldl (take source options) (state.take source options token))
        later := by
  rw [run, segmentsFrom, dif_neg more]
  simp [read, readRaw, run]

/-- A token is taken before what follows it. -/
theorem run_token {cursor after : Cursor} {token : Token} (more : cursor.rest ≠ [])
    (read : readToken cursor = (token, after)) (notRaw : token.rawText? = none) :
    run source options state cursor =
      run source options (state.take source options token) after := by
  have noRaw : readRawText token after = ([], after) := by rw [readRawText, notRaw]
  exact run_step source options state more read noRaw

theorem run_finished (offset : Nat) : run source options state ⟨offset, []⟩ = state := by
  rw [run, segmentsFrom, dif_pos rfl]
  rfl

end

/-- The names of the open elements, the innermost first. -/
def openTags (state : Construction) : List String := state.openElements.map (·.tag)

@[simp] theorem siblings_withSiblings (state : Construction) (nodes : List Node) :
    (state.withSiblings nodes).siblings = nodes := by
  rcases state with ⟨openElements, roots, diagnostics⟩
  cases openElements <;> rfl

@[simp] theorem withSiblings_withSiblings (state : Construction) (first second : List Node) :
    (state.withSiblings first).withSiblings second = state.withSiblings second := by
  rcases state with ⟨openElements, roots, diagnostics⟩
  cases openElements <;> rfl

@[simp] theorem withSiblings_siblings (state : Construction) :
    state.withSiblings state.siblings = state := by
  rcases state with ⟨openElements, roots, diagnostics⟩
  cases openElements <;> rfl

@[simp] theorem openTags_withSiblings (state : Construction) (nodes : List Node) :
    (state.withSiblings nodes).openTags = state.openTags := by
  rcases state with ⟨openElements, roots, diagnostics⟩
  cases openElements <;> rfl

/-- Whether the newest sibling is a text. -/
def endsWithText (state : Construction) : Bool :=
  match state.siblings with
  | .text _ _ :: _ => true
  | _ => false

/-- A text after no text is a node of its own. -/
theorem addText_apart (source : Source) (content : Lexeme) (state : Construction)
    (apart : state.endsWithText = false) :
    state.addText source content =
      state.add (.text content.text (source.location content.start content.stop)) := by
  unfold addText
  split
  · rename_i before location older same
    simp [endsWithText, same] at apart
  · rfl

/-- A start tag ends nothing that its rule does not name. -/
theorem impliedCount_eq_zero (rule : Tag.ImpliedEnd) (elements : List OpenElement)
    (apart : ∀ element ∈ elements, rule.closes.contains element.tag = false) :
    impliedCount rule elements = 0 := by
  induction elements with
  | nil => rfl
  | cons element outer inductionHypothesis =>
      have later := inductionHypothesis fun other member =>
        apart other (List.mem_cons_of_mem element member)
      rw [impliedCount, apart element List.mem_cons_self, later]
      simp

/-- A start tag that ends none of the open elements leaves them open. -/
theorem closeImplied_apart (source : Source) (tag : String) (start : Nat) (state : Construction)
    (apart : ∀ rule, Tag.impliedEnd? tag = some rule →
      ∀ ancestor ∈ state.openTags, rule.closes.contains ancestor = false) :
    state.closeImplied source tag start = state := by
  unfold closeImplied
  cases found : Tag.impliedEnd? tag with
  | none => rfl
  | some rule =>
      have none : impliedCount rule state.openElements = 0 := by
        apply impliedCount_eq_zero
        intro element member
        exact apart rule found element.tag (List.mem_map_of_mem member)
      simp only [none, repeated]

/-- The state inside an element that is open. -/
def inside (element : OpenElement) (state : Construction) : Construction :=
  { state with openElements := element :: state.openElements }

@[simp] theorem inside_siblings (element : OpenElement) (state : Construction) :
    (inside element state).siblings = element.children := rfl

@[simp] theorem inside_withSiblings (element : OpenElement) (state : Construction)
    (nodes : List Node) :
    (inside element state).withSiblings nodes = inside { element with children := nodes } state := rfl

@[simp] theorem openTags_inside (element : OpenElement) (state : Construction) :
    (inside element state).openTags = element.tag :: state.openTags := rfl

/-- The end tag of the innermost open element ends it. -/
theorem endTag_inside (source : Source) (options : ReadOptions) (state : Construction)
    (element : OpenElement) (offset : Nat) (content : options.isVoid element.tag = false) :
    ∃ location, (inside element state).endTag source options ⟨offset, element.tag.toList⟩ =
      state.add (element.node location) := by
  have found : (inside element state).openElements.findIdx?
      (fun other => Text.agree other.tag.toList element.tag.toList) = some 0 := by
    simp [inside, List.findIdx?_cons, Text.agree]
  have notVoid : options.isVoid (Lexeme.text ⟨offset, element.tag.toList⟩) = false := by
    rw [Lexeme.text, String.ofList_toList]
    exact content
  simp only [endTag, notVoid, found]
  exact ⟨_, rfl⟩

end HtmlTemplate.Markup.Construction
