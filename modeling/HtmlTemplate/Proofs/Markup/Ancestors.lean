/-
This file follows the elements of a tree with the elements around them. A start tag ends what it must not be
nested in, so that no tree nests an element where its start tag would have ended an element around it.
-/

import HtmlTemplate.Proofs.Markup.Nesting
import HtmlTemplate.Proofs.Markup.Stack

namespace HtmlTemplate.Markup

/-- An element with the tags of the elements around it, the innermost first. -/
structure Lineage where
  ancestors : List String
  tag : String
  attributes : List Attribute
  deriving DecidableEq, Repr

mutual

/-- The elements of a node in document order, with the tags around them. -/
def Node.lineages (ancestors : List String) : Node → List Lineage
  | .doctype _ _ => []
  | .comment _ _ => []
  | .text _ _ => []
  | .element tag attributes children _ _ =>
      ⟨ancestors, tag, attributes⟩ :: lineagesAll (tag :: ancestors) children

def lineagesAll (ancestors : List String) : List Node → List Lineage
  | [] => []
  | node :: rest => node.lineages ancestors ++ lineagesAll ancestors rest

end

theorem lineagesAll_append (ancestors : List String) (first second : List Node) :
    lineagesAll ancestors (first ++ second) =
      lineagesAll ancestors first ++ lineagesAll ancestors second := by
  induction first with
  | nil => rfl
  | cons node rest inductionHypothesis =>
      rw [List.cons_append, lineagesAll, lineagesAll, inductionHypothesis, List.append_assoc]

theorem lineagesAll_singleton (ancestors : List String) (node : Node) :
    lineagesAll ancestors [node] = node.lineages ancestors :=
  List.append_nil _

/-- The elements that are open or inside an open one, in document order. -/
def openLineages : List OpenElement → List Lineage
  | [] => []
  | element :: outer =>
      openLineages outer ++ ⟨outer.map (·.tag), element.tag, element.attributes⟩ ::
        lineagesAll (element.tag :: outer.map (·.tag)) element.children.reverse

namespace Construction

/-- The elements so far in the order of the document. -/
def lineages (state : Construction) : List Lineage :=
  lineagesAll [] state.roots.reverse ++ openLineages state.openElements

/-- The newest siblings come last, and the open elements are around them. -/
theorem lineages_withSiblings (state : Construction) (nodes : List Node) :
    (state.withSiblings nodes).lineages =
      (state.withSiblings []).lineages ++ lineagesAll state.openTags nodes.reverse := by
  rcases state with ⟨openElements, roots, diagnostics⟩
  cases openElements <;> simp [lineages, withSiblings, openLineages, openTags, lineagesAll]

/-- A new sibling comes with the open tags around it. -/
theorem lineages_withSiblings_cons (state : Construction) (node : Node) (older : List Node) :
    (state.withSiblings (node :: older)).lineages =
      (state.withSiblings older).lineages ++ node.lineages state.openTags := by
  rw [lineages_withSiblings, lineages_withSiblings state older, List.reverse_cons,
    lineagesAll_append, lineagesAll_singleton, List.append_assoc]

/-- A node that is added has the open tags around it. -/
theorem lineages_add (state : Construction) (node : Node) :
    (state.add node).lineages = state.lineages ++ node.lineages state.openTags := by
  rw [add, lineages_withSiblings_cons, withSiblings_siblings]

section

variable (source : Source) (options : ReadOptions)

/-- An element keeps its place among the others when it is closed. -/
theorem lineages_closeInnermost (stop : Option Nat) (state : Construction) :
    (state.closeInnermost source stop).lineages = state.lineages := by
  rcases state with ⟨openElements, roots, diagnostics⟩
  cases openElements with
  | nil => rfl
  | cons element outer =>
      rw [closeInnermost, lineages_add, OpenElement.node, Node.lineages]
      simp only [lineages, openLineages, openTags, List.append_assoc]

/-- Closing an element moves no node. -/
theorem lineages_closeUnterminated (stop : Nat) (state : Construction) :
    (state.closeUnterminated source stop).lineages = state.lineages := by
  unfold closeUnterminated
  split
  · rfl
  · split
    · exact lineages_closeInnermost source (some stop) state
    · exact lineages_closeInnermost source none _

/-- The elements that a start tag ends keep their places. -/
theorem lineages_closeImplied (tag : String) (start : Nat) (state : Construction) :
    (state.closeImplied source tag start).lineages = state.lineages := by
  rw [closeImplied_eq]
  exact view_repeated (lineages_closeInnermost source (some start)) _ state

/-- An end tag moves no node. -/
theorem lineages_endTag (name : Lexeme) (state : Construction) :
    (state.endTag source options name).lineages = state.lineages := by
  unfold endTag
  split
  · rfl
  · split
    · rfl
    · rw [lineages_closeInnermost,
        view_repeated (lineages_closeUnterminated source (name.start - 2))]

/-- A text has no lineage. -/
theorem lineages_addText (content : Lexeme) (state : Construction) :
    (state.addText source content).lineages = state.lineages := by
  unfold addText
  split
  · rename_i before location older newest
    have same : state.lineages = (state.withSiblings older).lineages := by
      rw [← List.append_nil (state.withSiblings older).lineages]
      have whole := lineages_withSiblings_cons state (.text before location) older
      rwa [← newest, withSiblings_siblings] at whole
    split
    · rw [lineages_withSiblings_cons, same]
      exact List.append_nil _
    · exact (lineages_add state _).trans (List.append_nil _)
  · exact (lineages_add state _).trans (List.append_nil _)

/-- A comment has no lineage. -/
theorem lineages_addComment (content : Lexeme) (state : Construction) :
    (state.addComment source options content).lineages = state.lineages := by
  unfold addComment
  split
  · exact (lineages_add state _).trans (List.append_nil _)
  · rfl

/-- A declaration has no lineage. -/
theorem lineages_addDeclaration (content : Lexeme) (state : Construction) :
    (state.addDeclaration source options content).lineages = state.lineages := by
  unfold addDeclaration
  split
  · exact (lineages_add state _).trans (List.append_nil _)
  · exact lineages_addComment source options content state

end

end Construction

/-- The element of a start tag, in the tree that takes it. -/
def Token.lineage? (source : Source) (state : Construction) : Token → Option Lineage
  | .startTag name written _ _ =>
      let tag := String.ofList (Text.lower name.chars)
      some ⟨(state.closeImplied source tag (name.start - 1)).openTags, tag,
        written.map (Construction.attributeOf source)⟩
  | _ => none

namespace Construction

section

variable (source : Source) (options : ReadOptions)

/-- A start tag adds its element inside those that it leaves open. -/
theorem lineages_startTag (name : Lexeme) (written : List AttributeToken) (selfClosing : Bool)
    (stop : Nat) (state : Construction) :
    (state.startTag source options name written selfClosing stop).lineages =
      state.lineages ++
        [⟨(state.closeImplied source (String.ofList (Text.lower name.chars))
            (name.start - 1)).openTags,
          String.ofList (Text.lower name.chars), written.map (attributeOf source)⟩] := by
  rw [← lineages_closeImplied source (String.ofList (Text.lower name.chars)) (name.start - 1) state]
  unfold startTag
  dsimp only
  split
  · exact lineages_add _ _
  · split
    · exact lineages_add _ _
    · simp [lineages, openLineages, lineagesAll, openTags]

/-- Only start tags add elements. -/
theorem lineages_take (state : Construction) (token : Token) :
    (state.take source options token).lineages =
      state.lineages ++ (token.lineage? source state).toList := by
  cases token with
  | text content => exact (lineages_addText source content state).trans (List.append_nil _).symm
  | startTag name written selfClosing stop =>
      exact lineages_startTag source options name written selfClosing stop state
  | endTag name => exact (lineages_endTag source options name state).trans (List.append_nil _).symm
  | namelessEndTag stop => exact (List.append_nil _).symm
  | comment content =>
      exact (lineages_addComment source options content state).trans (List.append_nil _).symm
  | declaration content =>
      exact (lineages_addDeclaration source options content state).trans (List.append_nil _).symm
  | unfinished construct stop =>
      cases construct with
      | endTag name =>
          exact (lineages_endTag source options name state).trans (List.append_nil _).symm
      | _ => exact (List.append_nil _).symm

/-- The elements of the finished tree are those of the open one. -/
theorem lineages_finish (state : Construction) :
    lineagesAll [] (state.finish source).roots.reverse = state.lineages := by
  have finished : (state.finish source).lineages = state.lineages :=
    view_repeated (lineages_closeUnterminated source source.size) _ state
  rw [lineages, openElements_finish, openLineages, List.append_nil] at finished
  exact finished

end

end Construction

/-- Nothing around an element is of a tag that its start tag ends. -/
def Lineage.IsFree (lineage : Lineage) : Prop :=
  ∀ rule, Tag.impliedEnd? lineage.tag = some rule →
    ∀ ancestor ∈ rule.reach lineage.ancestors, rule.closes.contains ancestor = false

/-- An element that a token adds stands free. -/
theorem Token.isFree_of_lineage? {source : Source} {state : Construction} {token : Token}
    {lineage : Lineage} (found : token.lineage? source state = some lineage) : lineage.IsFree := by
  cases token with
  | startTag name written selfClosing stop =>
      obtain rfl := Option.some.inj found
      exact fun rule isRule => Construction.not_closes_of_closeImplied source isRule _ state
  | _ => contradiction

/-- All elements stand free after any tokens. -/
theorem Construction.isFree_takeAll (source : Source) (options : ReadOptions) (tokens : List Token)
    {state : Construction} (free : ∀ lineage ∈ state.lineages, lineage.IsFree) :
    ∀ lineage ∈ (tokens.foldl (take source options) state).lineages, lineage.IsFree := by
  induction tokens generalizing state with
  | nil => exact free
  | cons token later inductionHypothesis =>
      apply inductionHypothesis
      rw [lineages_take, List.forall_mem_append]
      refine ⟨free, ?_⟩
      intro lineage member
      exact Token.isFree_of_lineage? (Option.mem_toList.mp member)

/-- A start tag ends only inner elements that its rule lets end. -/
def EndsFree (source : Source) (options : ReadOptions) (token : Token) (tag : String)
    (state : Construction) : Prop :=
  ∃ ended kept, state.openElements = ended ++ kept ∧
    (state.take source options token).frames =
      (token.opens? source options).toList ++ kept.map OpenElement.bare ∧
    ∀ element ∈ ended, Tag.hasOptionalEnd element.tag = true ∧
      ∃ rule, Tag.impliedEnd? tag = some rule ∧ rule.bounds element.tag = false

/-- A start tag leaves nothing open that it ends. -/
theorem endsFree_startTag (source : Source) (options : ReadOptions) (name : Lexeme)
    (written : List AttributeToken) (selfClosing : Bool) (stop : Nat) (state : Construction) :
    EndsFree source options (.startTag name written selfClosing stop)
      (String.ofList (Text.lower name.chars)) state := by
  refine ⟨_, _, (List.take_append_drop
    (state.impliedEnds (String.ofList (Text.lower name.chars))) state.openElements).symm, ?_, ?_⟩
  · rw [List.map_drop]
    exact Construction.frames_startTag source options name written selfClosing stop state
  · intro element member
    obtain ⟨rule, found, free⟩ := Construction.exists_rule_of_impliedEnds member
    exact ⟨Tag.hasOptionalEnd_of_not_bounds free, rule, found, free⟩

/-- No element lies in one that its start tag would have ended. -/
theorem impliedEnds_nest (source : Source) (options : ReadOptions) :
    (∀ lineage ∈ lineagesAll [] (Document.ofSource source options).nodes,
      ∀ rule, Tag.impliedEnd? lineage.tag = some rule →
        ∀ ancestor ∈ lineage.ancestors.takeWhile
            fun tag => !(rule.scope.contains tag || !Tag.hasOptionalEnd tag),
          ancestor ∉ rule.closes) ∧
    ∀ before name written selfClosing stop after,
      tokens source.chars = before ++ .startTag name written selfClosing stop :: after →
        EndsFree source options (.startTag name written selfClosing stop)
          (String.ofList (Text.lower name.chars))
          (before.foldl (Construction.take source options) {}) := by
  refine ⟨?_, ?_⟩
  · intro lineage member rule found ancestor within closes
    have nodes : lineagesAll [] (Document.ofSource source options).nodes = _ :=
      Construction.lineages_finish source _
    rw [nodes] at member
    have free := Construction.isFree_takeAll source options (tokens source.chars)
      (fun _ absent => absurd absent List.not_mem_nil) lineage member rule found ancestor within
    rw [List.contains_iff_mem.mpr closes] at free
    contradiction
  · intro before name written selfClosing stop after _
    exact endsFree_startTag source options name written selfClosing stop _

end HtmlTemplate.Markup
