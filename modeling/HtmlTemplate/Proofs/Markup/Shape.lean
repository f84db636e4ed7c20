/-
This file says which shape every tree has: which names its elements and attributes have, whose content is
detached, that every text is what stands at its place, and that no text touches the one after it.
-/

import HtmlTemplate.Proofs.Markup.Names
import HtmlTemplate.Proofs.Markup.Placement
import Mathlib.Data.List.Chain

namespace HtmlTemplate.Markup

/-- A place in a source is known by its offset. -/
theorem Cursor.Reaches.eq_of_offset {start first second : Cursor} (toFirst : start.Reaches first)
    (toSecond : start.Reaches second) (same : first.offset = second.offset) : first = second := by
  obtain ⟨word, passes⟩ := toFirst
  obtain ⟨other, passesOther⟩ := toSecond
  have length : Text.byteLength word = Text.byteLength other :=
    Nat.add_left_cancel (passes.offset.symm.trans (same.trans passesOther.offset))
  obtain ⟨middle, longer, rest⟩ :=
    Text.exists_middle (passes.rest.symm.trans passesOther.rest) (Nat.le_of_eq length)
  have nothing : middle = [] := by
    rw [longer, Text.byteLength_append] at length
    exact (Text.byteLength_eq_zero_iff middle).mp (by omega)
  rcases first with ⟨offset, chars⟩
  rcases second with ⟨otherOffset, otherChars⟩
  obtain rfl : offset = otherOffset := same
  rw [nothing, List.nil_append] at rest
  rw [show chars = otherChars from rest]

/-- A text of the source that stops at the given place or before. -/
structure Lexeme.Stands (source : Source) (place : Nat) (content : Lexeme) : Prop where
  filled : content.chars ≠ []
  placed : ∃ first last, Cursor.Reaches ⟨0, source.chars⟩ first ∧ content.Between first last
  within : content.stop ≤ place

namespace Lexeme.Stands

variable {source : Source} {place : Nat} {content : Lexeme}

theorem start_lt_stop (stands : content.Stands source place) : content.start < content.stop :=
  Nat.lt_add_of_pos_right (Text.byteLength_pos stands.filled)

/-- A lexeme that stands in a source ends in it. -/
theorem stop_le_size (stands : content.Stands source place) : content.stop ≤ source.size := by
  obtain ⟨first, last, reached, between⟩ := stands.placed
  exact between.stop_le_size reached

theorem position_start (stands : content.Stands source place) :
    (source.location content.start content.stop).start =
      Position.ofOffset source.breaks content.start := by
  rw [source.location_of_le (Nat.le_of_lt stands.start_lt_stop) stands.stop_le_size]

theorem position_stop (stands : content.Stands source place) :
    (source.location content.start content.stop).stop =
      Position.ofOffset source.breaks content.stop := by
  rw [source.location_of_le (Nat.le_of_lt stands.start_lt_stop) stands.stop_le_size]

theorem location_start (stands : content.Stands source place) :
    (source.location content.start content.stop).start.offset = content.start % Position.wordSize :=
  congrArg Position.offset stands.position_start

theorem location_stop (stands : content.Stands source place) :
    (source.location content.start content.stop).stop.offset = content.stop % Position.wordSize :=
  congrArg Position.offset stands.position_stop

/-- Two texts that touch are one text. -/
theorem join {next : Lexeme} (stands : content.Stands source next.start) (onward : next.Stands source place)
    (touch : content.stop = next.start) :
    Stands source place ⟨content.start, content.chars ++ next.chars⟩ ∧
      stop ⟨content.start, content.chars ++ next.chars⟩ = next.stop := by
  have whole : stop ⟨content.start, content.chars ++ next.chars⟩ = next.stop := by
    rw [stop, Text.byteLength_append, ← Nat.add_assoc, stop, ← touch]
    rfl
  obtain ⟨first, last, reached, between⟩ := stands.placed
  obtain ⟨start, after, reachedNext, betweenNext⟩ := onward.placed
  have same : last = start := by
    apply (reached.trans between.2.reaches).eq_of_offset reachedNext
    rw [← between.stop_eq, touch, betweenNext.1]
  refine ⟨⟨?_, ⟨first, after, reached, between.1, ?_⟩, ?_⟩, whole⟩
  · simp [stands.filled]
  · exact between.2.trans (same ▸ betweenNext.2)
  · rw [whole]
    exact onward.within

end Lexeme.Stands

/-- Of two texts in a row, the first stops before the second starts. -/
def Node.Apart : Node → Node → Prop
  | .text _ first, .text _ second => first.stop.offset < second.start.offset
  | _, _ => True

/-- Of two texts in a row, the second starts later or beyond words. -/
def Node.Parted (source : Source) : Node → Node → Prop
  | .text _ first, .text _ second => ∃ stop start, first.stop = Position.ofOffset source.breaks stop ∧
      second.start = Position.ofOffset source.breaks start ∧ start < source.size ∧
      (stop < start ∨ stop = start ∧ Position.wordSize ≤ start)
  | _, _ => True

/-- Words tell all offsets of a source of their size apart. -/
theorem Node.Parted.apart {source : Source} {first second : Node}
    (parted : Node.Parted source first second) (small : source.size ≤ Position.wordSize) :
    first.Apart second := by
  cases first with
  | text before location =>
      cases second with
      | text content place =>
          obtain ⟨stop, start, stopAt, startAt, within, order⟩ := parted
          have less : start < Position.wordSize := within.trans_le small
          have below : stop < start := by omega
          show location.stop.offset < place.start.offset
          rw [stopAt, startAt]
          show stop % Position.wordSize < start % Position.wordSize
          rwa [Nat.mod_eq_of_lt less, Nat.mod_eq_of_lt (below.trans less)]
      | _ => trivial
  | _ => cases second <;> trivial

/-- The shape of a node of a source that is read to a place. -/
def Node.IsShaped (source : Source) (place : Nat) : Node → Prop
  | .doctype _ _ => True
  | .comment _ _ => True
  | .text content location => ∃ lexeme : Lexeme, lexeme.Stands source place ∧ content = lexeme.text ∧
      location = source.location lexeme.start lexeme.stop
  | .element tag _ children detached _ =>
      detached = Tag.isTemplate tag ∧ children.IsChain (Node.Parted source)

section

variable {source : Source} {place : Nat}

/-- The shape of a node is kept further on. -/
theorem Node.IsShaped.mono {later : Nat} (less : place ≤ later) {node : Node}
    (shaped : node.IsShaped source place) : node.IsShaped source later := by
  cases node with
  | text content location =>
      obtain ⟨lexeme, stands, same⟩ := shaped
      exact ⟨lexeme, ⟨stands.filled, stands.placed, stands.within.trans less⟩, same⟩
  | _ => exact shaped

/-- Only texts have to be parted. -/
theorem Node.parted_of_not_text {node : Node} (other : ∀ content location, node ≠ .text content location)
    (older : Node) : older.Parted source node := by
  cases node with
  | text content location => exact absurd rfl (other content location)
  | _ => cases older <;> trivial

/-- The newest sibling comes last. -/
theorem isChain_add {siblings : List Node} {node : Node}
    (chain : siblings.reverse.IsChain (Node.Parted source))
    (newest : ∀ older ∈ siblings.head?, older.Parted source node) :
    (node :: siblings).reverse.IsChain (Node.Parted source) := by
  rw [List.reverse_cons, List.isChain_append, List.getLast?_reverse]
  refine ⟨chain, List.isChain_singleton node, ?_⟩
  intro older isNewest next isNode
  obtain rfl : node = next := by simpa using isNode
  exact newest older isNewest

/-- The newest sibling may be replaced by one that starts where it starts. -/
theorem isChain_replace {siblings : List Node} {node other : Node}
    (chain : (node :: siblings).reverse.IsChain (Node.Parted source))
    (same : ∀ older : Node, older.Parted source node → older.Parted source other) :
    (other :: siblings).reverse.IsChain (Node.Parted source) := by
  rw [List.reverse_cons, List.isChain_append, List.getLast?_reverse] at chain
  exact isChain_add chain.1 fun older isNewest => same older (chain.2.2 older isNewest node rfl)

namespace Construction

/-- The shape of a tree of a source that is read to a place. -/
structure Shaped (source : Source) (place : Nat) (state : Construction) : Prop where
  nodes : state.Carries (Node.IsShaped source place) fun _ => True
  roots : state.roots.reverse.IsChain (Node.Parted source)
  openElements : ∀ element ∈ state.openElements,
    element.children.reverse.IsChain (Node.Parted source)

namespace Shaped

variable {state : Construction}

theorem empty : Shaped source place {} :=
  ⟨.empty, .nil, fun _ absent => absurd absent List.not_mem_nil⟩

theorem mono {later : Nat} (shaped : state.Shaped source place) (less : place ≤ later) :
    state.Shaped source later :=
  ⟨shaped.nodes.imp fun _ here => here.mono less, shaped.roots, shaped.openElements⟩

theorem siblings (shaped : state.Shaped source place) :
    state.siblings.reverse.IsChain (Node.Parted source) := by
  rcases state with ⟨openElements, roots, diagnostics⟩
  cases openElements with
  | nil => exact shaped.roots
  | cons element outer => exact shaped.openElements element List.mem_cons_self

/-- New siblings that are parted keep the shape. -/
theorem withSiblings {nodes : List Node} (shaped : state.Shaped source place)
    (carries : (state.withSiblings nodes).Carries (Node.IsShaped source place) fun _ => True)
    (apart : nodes.reverse.IsChain (Node.Parted source)) :
    (state.withSiblings nodes).Shaped source place := by
  rcases state with ⟨openElements, roots, diagnostics⟩
  cases openElements with
  | nil => exact ⟨carries, apart, shaped.openElements⟩
  | cons element outer =>
      exact ⟨carries, shaped.roots,
        List.forall_mem_cons.mpr ⟨apart, (List.forall_mem_cons.mp shaped.openElements).2⟩⟩

/-- A new node that is parted from the newest keeps the shape. -/
theorem add {node : Node} (shaped : state.Shaped source place)
    (carries : (state.add node).Carries (Node.IsShaped source place) fun _ => True)
    (newest : ∀ older ∈ state.siblings.head?, older.Parted source node) :
    (state.add node).Shaped source place :=
  shaped.withSiblings carries (isChain_add shaped.siblings newest)

/-- A change that adds no text keeps the shape. -/
theorem change {options : ReadOptions} (apart : ∀ tag, options.isVoid tag = true → Tag.isTemplate tag = false)
    (first second : Construction) (change : Change options first second)
    (shaped : first.Shaped source place) : second.Shaped source place := by
  cases change with
  | added state node made =>
      have here : node.IsShaped source place := by
        cases node with
        | text => exact made.elim
        | element tag attributes children detached location =>
            obtain ⟨rfl, detached | ⟨void, rfl⟩⟩ := made
            · exact ⟨detached, .nil⟩
            · exact ⟨(apart tag void).symm, .nil⟩
        | _ => trivial
      have other : ∀ content location, node ≠ .text content location := by
        rintro content location rfl
        exact made.elim
      exact shaped.add (shaped.nodes.addLeaf made.isLeaf here)
        fun older _ => Node.parted_of_not_text other older
  | opened state element empty content =>
      refine ⟨shaped.nodes.inside trivial empty, shaped.roots, ?_⟩
      refine List.forall_mem_cons.mpr ⟨?_, shaped.openElements⟩
      rw [empty]
      exact .nil
  | closed state element location =>
      obtain ⟨here, others⟩ := List.forall_mem_cons.mp shaped.openElements
      have outer : state.Shaped source place := ⟨shaped.nodes.outer, shaped.roots, others⟩
      exact outer.add (shaped.nodes.closed ⟨rfl, here⟩)
        fun older _ => Node.parted_of_not_text (by simp [OpenElement.node]) older
  | reported state code location markup =>
      exact ⟨shaped.nodes.report code location, shaped.roots, shaped.openElements⟩

/-- A text among the newest siblings stands before the place that is reached. -/
theorem exists_newest {before : String} {location : Location} {older : List Node}
    (shaped : state.Shaped source place) (newest : state.siblings = .text before location :: older) :
    ∃ earlier : Lexeme, earlier.Stands source place ∧ before = earlier.text ∧
      location = source.location earlier.start earlier.stop := by
  have here := shaped.nodes.siblings
  rw [newest] at here
  exact here _ List.mem_cons_self

/-- A text of its own starts after the one before it has stopped. -/
theorem addOwnText {content : Lexeme} (shaped : state.Shaped source content.start)
    (stands : content.Stands source content.stop)
    (other : ∀ before location older, state.siblings = .text before location :: older →
      location.stop.offset ≠ content.start) :
    (state.add (.text content.text (source.location content.start content.stop))).Shaped source
      content.stop := by
  have onward := shaped.mono (Nat.le_of_lt stands.start_lt_stop)
  refine onward.add (onward.nodes.addLeaf rfl ⟨content, stands, rfl, rfl⟩) ?_
  intro older isNewest
  cases older with
  | text before location =>
      obtain ⟨others, newest⟩ := List.head?_eq_some_iff.mp isNewest
      have recorded := other before location others newest
      obtain ⟨earlier, standsEarlier, rfl, rfl⟩ := shaped.exists_newest newest
      have within := standsEarlier.within
      rw [standsEarlier.location_stop] at recorded
      refine ⟨earlier.stop, content.start, standsEarlier.position_stop, stands.position_start,
        stands.start_lt_stop.trans_le stands.stop_le_size, ?_⟩
      rcases Nat.lt_or_eq_of_le within with less | same
      · exact .inl less
      · refine .inr ⟨same, ?_⟩
        rw [same] at recorded
        exact Nat.le_of_not_lt fun less => recorded (Nat.mod_eq_of_lt less)
  | _ => trivial

/-- A text keeps the shape, joined or not. -/
theorem addText {content : Lexeme} (shaped : state.Shaped source content.start)
    (stands : content.Stands source content.stop) :
    (state.addText source content).Shaped source content.stop := by
  have onward := shaped.mono (Nat.le_of_lt stands.start_lt_stop)
  unfold Construction.addText
  split
  · rename_i before location older newest
    split
    · rename_i touch
      obtain ⟨earlier, standsEarlier, rfl, rfl⟩ := shaped.exists_newest newest
      rw [standsEarlier.location_stop] at touch
      have stop : earlier.stop = content.start := by
        have within := standsEarlier.within
        have wrapped := Nat.mod_le earlier.stop Position.wordSize
        omega
      have start : (source.location earlier.start earlier.stop).start.offset = earlier.start := by
        rw [standsEarlier.location_start]
        have ordered := standsEarlier.start_lt_stop
        have small := Nat.mod_lt earlier.stop (show Position.wordSize > 0 by decide)
        exact Nat.mod_eq_of_lt (by omega)
      obtain ⟨joined, whole⟩ := standsEarlier.join stands stop
      rw [start]
      refine onward.withSiblings (onward.nodes.continueText newest ⟨_, joined, ?_, ?_⟩) ?_
      · exact String.ofList_append.symm
      · rw [whole]
      · have apart := shaped.siblings
        rw [newest] at apart
        have sameStart : (source.location earlier.start content.stop).start =
            (source.location earlier.start earlier.stop).start := by
          rw [standsEarlier.position_start, ← whole]
          exact joined.position_start
        refine isChain_replace apart fun older before => ?_
        cases older with
        | text =>
            obtain ⟨stop, start, stopAt, startAt, order⟩ := before
            exact ⟨stop, start, stopAt, sameStart.trans startAt, order⟩
        | _ => trivial
    · rename_i untouched
      refine shaped.addOwnText stands ?_
      intro other place others same
      rw [newest] at same
      obtain ⟨⟨_, rfl⟩, _⟩ : (_ ∧ location = place) ∧ older = others := by simpa using same
      exact untouched
  · rename_i noText
    refine shaped.addOwnText stands ?_
    intro before location older newest
    exact absurd newest (noText before location older)

end Shaped

variable {options : ReadOptions}

end Construction

end

end HtmlTemplate.Markup
