/-
This file follows the elements of a tree up to the finished document. An element that is closed stays in the
tree as it is, and no other element of the document starts where it starts.
-/

import HtmlTemplate.Proofs.Markup.EndTags
import HtmlTemplate.Proofs.Markup.Spans

namespace HtmlTemplate.Markup

namespace Construction

/-- A node is in the tree so far. -/
def Holds (node : Node) (state : Construction) : Prop :=
  node ∈ preorderAll state.roots ∨ ∃ element ∈ state.openElements, node ∈ preorderAll element.children

namespace Holds

variable {node : Node} {state : Construction}

/-- The newest siblings are in the tree. -/
theorem of_mem_siblings (member : node ∈ preorderAll state.siblings) : state.Holds node := by
  rcases state with ⟨openElements, roots, diagnostics⟩
  cases openElements with
  | nil => exact .inl member
  | cons element outer => exact .inr ⟨element, List.mem_cons_self, member⟩

/-- A node stays in the tree unless its sibling list loses it. -/
theorem withSiblings (holds : state.Holds node) {nodes : List Node}
    (kept : node ∈ preorderAll state.siblings → node ∈ preorderAll nodes) :
    (state.withSiblings nodes).Holds node := by
  rcases state with ⟨openElements, roots, diagnostics⟩
  cases openElements with
  | nil =>
      rcases holds with inRoots | ⟨element, absent, _⟩
      · exact .inl (kept inRoots)
      · contradiction
  | cons element outer =>
      rcases holds with inRoots | ⟨found, member, inside⟩
      · exact .inl inRoots
      · rcases List.mem_cons.mp member with rfl | inOuter
        · exact .inr ⟨_, List.mem_cons_self, kept inside⟩
        · exact .inr ⟨found, List.mem_cons_of_mem _ inOuter, inside⟩

theorem add (holds : state.Holds node) (other : Node) : (state.add other).Holds node :=
  holds.withSiblings fun member => List.mem_append_right _ member

/-- What is inside a new node is in the tree. -/
theorem of_add {other : Node} (inside : node ∈ other.preorder) : (state.add other).Holds node := by
  apply of_mem_siblings
  rw [Construction.add, siblings_withSiblings]
  exact List.mem_append_left _ inside

/-- Only the newest text is ever replaced. -/
theorem step {options : ReadOptions} {next : Construction} (step : Step options state next)
    (notText : ∀ content location, node ≠ .text content location) (holds : state.Holds node) :
    next.Holds node := by
  cases step with
  | added _ other leaf => exact holds.add other
  | continued _ before content location whole older newest =>
      refine holds.withSiblings fun member => ?_
      rw [newest] at member
      rcases List.mem_cons.mp member with isText | inOlder
      · exact absurd isText (notText before location)
      · exact List.mem_cons_of_mem _ inOlder
  | opened _ element empty content =>
      rcases holds with inRoots | ⟨found, member, inside⟩
      · exact .inl inRoots
      · exact .inr ⟨found, List.mem_cons_of_mem _ member, inside⟩
  | closed outer element location =>
      have kept (outside : outer.Holds node) : (outer.add (element.node location)).Holds node :=
        outside.add _
      rcases holds with inRoots | ⟨found, member, inside⟩
      · exact kept (.inl inRoots)
      · rcases List.mem_cons.mp member with rfl | inOuter
        · exact of_add (List.mem_cons_of_mem _ (mem_preorderAll_reverse.mpr inside))
        · exact kept (.inr ⟨found, inOuter, inside⟩)
  | reported _ code location markup => exact holds

/-- Only texts are lost by later steps. -/
theorem steps {options : ReadOptions} {next : Construction} (steps : Steps options state next)
    (notText : ∀ content location, node ≠ .text content location) (holds : state.Holds node) :
    next.Holds node := by
  induction steps with
  | refl => exact holds
  | tail _ step inductionHypothesis => exact inductionHypothesis.step step notText

end Holds

/-- The element that an end tag closes is in the tree. -/
theorem EndTagEffect.holds {source : Source} {options : ReadOptions} {name : Lexeme}
    {closed : Option OpenElement} {element : OpenElement} {first second : Construction}
    (effect : EndTagEffect source options name closed first second) (closes : closed = some element) :
    ∃ children, second.Holds
      ({ element with children }.node
        (source.location element.location.start.offset (name.stop + 1))) := by
  cases effect with
  | ignored => contradiction
  | rejected => contradiction
  | closed state inner found children content apart same =>
      obtain rfl := Option.some.inj closes
      exact ⟨children, .of_add List.mem_cons_self⟩

end Construction

/-- The offset at which an element is located to start. -/
def Node.elementStart? : Node → Option Nat
  | .doctype _ _ => none
  | .comment _ _ => none
  | .text _ _ => none
  | .element _ _ _ _ location => some location.start.offset

/-- Where the elements among nodes start, in the order of the document. -/
def elementStarts (nodes : List Node) : List Nat := (preorderAll nodes).filterMap Node.elementStart?

@[simp] theorem elementStarts_nil : elementStarts [] = [] := rfl

@[simp] theorem elementStarts_append (first second : List Node) :
    elementStarts (first ++ second) = elementStarts first ++ elementStarts second := by
  rw [elementStarts, preorderAll_append, List.filterMap_append]
  rfl

/-- A leaf starts at most one element. -/
theorem elementStarts_of_isLeaf {node : Node} (leaf : node.isLeaf = true) :
    elementStarts [node] = node.elementStart?.toList := by
  rw [elementStarts, preorderAll, preorderAll, List.append_nil, Node.preorder_of_isLeaf leaf]
  cases start : node.elementStart? <;> simp [start]

/-- A closed element starts before the elements inside it. -/
theorem OpenElement.elementStarts_node (element : OpenElement) (location : Location) :
    elementStarts [element.node location] =
      location.start.offset :: elementStarts element.children.reverse := by
  simp [elementStarts, preorderAll, node, Node.preorder, Node.elementStart?]

/-- Elements that start one after another are known by their starts. -/
theorem eq_of_elementStart? {nodes : List Node} (ordered : (elementStarts nodes).Pairwise (· < ·))
    {first second : Node} (inFirst : first ∈ preorderAll nodes) (inSecond : second ∈ preorderAll nodes)
    {start : Nat} (firstStart : first.elementStart? = some start)
    (secondStart : second.elementStart? = some start) : first = second := by
  have apart : (preorderAll nodes).Pairwise fun one other =>
      ¬(one.elementStart? = some start ∧ other.elementStart? = some start) := by
    refine (List.pairwise_filterMap.mp ordered).imp ?_
    rintro one other less ⟨here, there⟩
    exact Nat.lt_irrefl _ (less _ here _ there)
  have forward : (preorderAll nodes).Pairwise fun one other =>
      one.elementStart? = some start → other.elementStart? = some start → one = other :=
    apart.imp fun never here there => absurd ⟨here, there⟩ never
  have backward : (preorderAll nodes).Pairwise fun one other =>
      other.elementStart? = some start → one.elementStart? = some start → other = one :=
    apart.imp fun never there here => absurd ⟨here, there⟩ never
  exact forward.forall_of_forall_of_flip (fun _ _ _ _ => rfl) backward inFirst inSecond firstStart
    secondStart

namespace Construction

/-- Where the elements so far start, in the order of the document. -/
def starts (state : Construction) : List Nat :=
  elementStarts state.roots.reverse ++ state.openElements.reverse.flatMap fun element =>
    element.location.start.offset :: elementStarts element.children.reverse

/-- The newest siblings start last. -/
theorem starts_withSiblings (state : Construction) (nodes : List Node) :
    (state.withSiblings nodes).starts =
      (state.withSiblings []).starts ++ elementStarts nodes.reverse := by
  rcases state with ⟨openElements, roots, diagnostics⟩
  cases openElements <;> simp [starts, withSiblings]

theorem starts_withSiblings_cons (state : Construction) (node : Node) (older : List Node) :
    (state.withSiblings (node :: older)).starts =
      (state.withSiblings older).starts ++ elementStarts [node] := by
  rw [starts_withSiblings, starts_withSiblings state older, List.reverse_cons, elementStarts_append,
    List.append_assoc]

/-- A node that is added starts behind all others. -/
theorem starts_add (state : Construction) (node : Node) :
    (state.add node).starts = state.starts ++ elementStarts [node] := by
  rw [add, starts_withSiblings_cons, withSiblings_siblings]

/-- An open element starts behind the nodes before it. -/
theorem starts_inside (element : OpenElement) (state : Construction) :
    (inside element state).starts = state.starts ++ element.location.start.offset ::
      elementStarts element.children.reverse := by
  simp [starts, inside]

/-- An element keeps its start when it is closed. -/
theorem starts_closed {element : OpenElement} {location : Location} (state : Construction)
    (same : location.start.offset = element.location.start.offset) :
    (state.add (element.node location)).starts = (inside element state).starts := by
  rw [starts_add, OpenElement.elementStarts_node, starts_inside, same]

/-- The elements so far start one after another, before the offset. -/
structure Increasing (source : Source) (place : Nat) (state : Construction) : Prop where
  located : state.Located source place
  ordered : state.starts.Pairwise (· < ·)
  before : ∀ start ∈ state.starts, start < place

namespace Increasing

variable {source : Source} {first last : Nat} {state next : Construction}

/-- A step that starts nothing keeps the order. -/
theorem of_same (increasing : state.Increasing source first) (located : next.Located source last)
    (same : next.starts = state.starts) (onward : first ≤ last) : next.Increasing source last :=
  ⟨located, same ▸ increasing.ordered, fun start member =>
    Nat.lt_of_lt_of_le (increasing.before start (same ▸ member)) onward⟩

/-- An element that starts behind all others comes last. -/
theorem of_later (increasing : state.Increasing source first) (located : next.Located source last)
    {start : Nat} (later : next.starts = state.starts ++ [start]) (after : first ≤ start)
    (before : start < last) : next.Increasing source last := by
  refine ⟨located, ?_, ?_⟩
  · rw [later, List.pairwise_append]
    refine ⟨increasing.ordered, List.pairwise_singleton _ _, fun other member last isLast => ?_⟩
    obtain rfl := List.mem_singleton.mp isLast
    exact Nat.lt_of_lt_of_le (increasing.before other member) after
  · rw [later]
    refine List.forall_mem_append.mpr ⟨fun other member => ?_, List.forall_mem_singleton.mpr before⟩
    exact Nat.lt_trans (Nat.lt_of_lt_of_le (increasing.before other member) after) before

/-- Every step keeps element starts in order. -/
theorem step (small : source.size < Position.wordSize) (before after : Nat × Construction)
    (step : LocatedStep source before after) (increasing : before.2.Increasing source before.1) :
    after.2.Increasing source after.1 := by
  have located := increasing.located.step small before after step
  cases step with
  | moved state onward => exact increasing.of_same located rfl onward
  | added state node leaf isLocated start less within =>
      have added := elementStarts_of_isLeaf leaf
      cases node with
      | element tag attributes children detached location =>
          exact increasing.of_later located ((starts_add state _).trans (by rw [added]; rfl)) start less
      | _ =>
          refine increasing.of_same located ?_ (Nat.le_trans start (Nat.le_of_lt less))
          exact (starts_add state _).trans (List.append_nil _)
  | continued state content more location older newest touches boundary onward =>
      refine increasing.of_same located ?_ onward
      have same := starts_withSiblings_cons state (.text content location) older
      rw [← newest, withSiblings_siblings] at same
      exact (starts_withSiblings_cons state _ older).trans same.symm
  | opened state element empty isLocated start =>
      refine increasing.of_later located ?_ (isLocated.start_eq.symm ▸ start) isLocated.filled
      rw [starts_inside, empty]
      rfl
  | closed state element boundary onward =>
      obtain ⟨spans, _⟩ := increasing.located.spans_closed small boundary onward
      exact increasing.of_same located (starts_closed state spans.start_eq) onward
  | lapsed state element place =>
      exact increasing.of_same located (starts_closed (state.report _ _) rfl) (Nat.le_refl _)
  | reported state code location place exact =>
      exact increasing.of_same located rfl (Nat.le_refl _)

end Increasing

end Construction

/-- The elements of a document start one after another. -/
theorem Document.starts_increasing {source : Source} (small : source.size < Position.wordSize)
    (options : ReadOptions) :
    (elementStarts (Document.ofSource source options).nodes).Pairwise (· < ·) := by
  have start : Construction.Increasing source 0 {} :=
    ⟨⟨.empty, List.forall_mem_nil _⟩, .nil, List.forall_mem_nil _⟩
  obtain ⟨state, increasing, ended, document⟩ :=
    Construction.locatedInvariant_ofSource small options start (Construction.Increasing.step small)
  have ordered := increasing.ordered
  rw [Construction.starts, ended, List.reverse_nil, List.flatMap_nil, List.append_nil] at ordered
  rwa [document]

end HtmlTemplate.Markup
