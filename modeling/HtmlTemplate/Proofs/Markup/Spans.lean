/-
This file says how the locations of a document lie in its source. They are all exact, the start tag of an
element begins its location, and in a document without faults the nodes lie inside of one another and after
one another as the tree says.
-/

import HtmlTemplate.Proofs.Markup.Located

namespace HtmlTemplate

/-- A location lies inside of another one. -/
def Location.Inside (inner outer : Location) : Prop :=
  outer.start.offset ≤ inner.start.offset ∧ inner.stop.offset ≤ outer.stop.offset

/-- A location ends before another one starts. -/
def Location.Precedes (first second : Location) : Prop :=
  first.stop.offset ≤ second.start.offset ∧ first.start.offset < second.start.offset

namespace Markup

/-- The children of an element lie inside of it, one after another. -/
def Node.Encloses : Node → Prop
  | .doctype _ _ => True
  | .comment _ _ => True
  | .text _ _ => True
  | .element _ _ children _ location =>
      (∀ child ∈ children, child.location.Inside location) ∧
        children.Pairwise fun first second => first.location.Precedes second.location

/-- Nodes stand between two offsets, one after another, the newest first. -/
def Row (first : Nat) : List Node → Nat → Prop
  | [], last => first ≤ last
  | node :: older, last =>
      node.location.start.offset < last ∧ node.location.stop.offset ≤ last ∧
        Row first older node.location.start.offset

namespace Row

variable {first last : Nat} {nodes : List Node}

theorem mono {later : Nat} (row : Row first nodes last) (onward : last ≤ later) :
    Row first nodes later := by
  cases nodes with
  | nil => exact Nat.le_trans row onward
  | cons node older =>
      exact ⟨Nat.lt_of_lt_of_le row.1 onward, Nat.le_trans row.2.1 onward, row.2.2⟩

theorem first_le (row : Row first nodes last) : first ≤ last := by
  induction nodes generalizing last with
  | nil => exact row
  | cons node older inductionHypothesis =>
      exact Nat.le_trans (inductionHypothesis row.2.2) (Nat.le_of_lt row.1)

/-- Every node of a row stands in it. -/
theorem between (row : Row first nodes last) :
    ∀ node ∈ nodes, first ≤ node.location.start.offset ∧ node.location.start.offset < last ∧
      node.location.stop.offset ≤ last := by
  induction nodes generalizing last with
  | nil => exact List.forall_mem_nil _
  | cons node older inductionHypothesis =>
      obtain ⟨start, stop, below⟩ := row
      refine List.forall_mem_cons.mpr ⟨⟨below.first_le, start, stop⟩, ?_⟩
      intro other member
      obtain ⟨lower, onward, upper⟩ := inductionHypothesis below other member
      exact ⟨lower, Nat.lt_trans onward start, Nat.le_trans upper (Nat.le_of_lt start)⟩

/-- The nodes of a row stand one before the other. -/
theorem pairwise (row : Row first nodes last) :
    nodes.reverse.Pairwise fun earlier later => earlier.location.Precedes later.location := by
  induction nodes generalizing last with
  | nil => exact .nil
  | cons node older inductionHypothesis =>
      obtain ⟨_, _, below⟩ := row
      rw [List.reverse_cons, List.pairwise_append]
      refine ⟨inductionHypothesis below, List.pairwise_singleton _ _, ?_⟩
      intro earlier member later isNode
      obtain rfl := List.mem_singleton.mp isNode
      obtain ⟨_, onward, upper⟩ := below.between earlier (List.mem_reverse.mp member)
      exact ⟨upper, onward⟩

end Row

namespace Construction

/-- All locations so far are exact, and open start tags stand before. -/
structure Located (source : Source) (place : Nat) (state : Construction) : Prop where
  carries : state.Carries (Node.IsLocated source) fun element =>
    element.IsLocated source ∧ element.location.stop.offset ≤ place
  faults : ∀ fault ∈ state.diagnostics, ∃ location, fault.location = some location ∧
    location.IsExact source

namespace Located

variable {source : Source} {first last : Nat} {state : Construction} {element : OpenElement}

theorem mono (located : state.Located source first) (onward : first ≤ last) :
    state.Located source last :=
  ⟨located.carries.mono fun _ opens => ⟨opens.1, Nat.le_trans opens.2 onward⟩, located.faults⟩

/-- An element that is closed is located by its whole extent. -/
theorem spans_closed (small : source.size < Position.wordSize)
    (located : (inside element state).Located source first)
    (boundary : Text.IsBoundary source.chars last) (onward : first ≤ last) :
    (source.location element.location.start.offset last).Spans source
        element.location.start.offset last ∧
      element.location.start.offset < last := by
  obtain ⟨⟨isLocated, before⟩, _⟩ := located.carries.innermost
  have filled : element.location.start.offset < element.location.stop.offset := isLocated.filled
  have exact : element.location.IsExact source := isLocated.exact
  have start := exact.isBoundary_start
  have less : element.location.start.offset < last :=
    Nat.lt_of_lt_of_le filled (Nat.le_trans before onward)
  exact ⟨source.location_spans small start boundary (Nat.le_of_lt less), less⟩

/-- A text that goes on up to an offset starts where it started. -/
theorem spans_continued (small : source.size < Position.wordSize) (located : state.Located source first)
    {content : String} {location : Location} {older : List Node}
    (newest : state.siblings = .text content location :: older)
    (touches : location.stop.offset = first) (boundary : Text.IsBoundary source.chars last)
    (onward : first ≤ last) :
    (source.location location.start.offset last).Spans source location.start.offset last := by
  have isText : Node.IsLocated source (.text content location) :=
    located.carries.siblings _ (newest ▸ List.mem_cons_self)
  have exact : location.IsExact source := isText.exact
  have ordered := exact.ordered
  exact source.location_spans small exact.isBoundary_start boundary (by omega)

/-- Every located step keeps locations exact. -/
theorem step (small : source.size < Position.wordSize) (before after : Nat × Construction)
    (step : LocatedStep source before after) (located : before.2.Located source before.1) :
    after.2.Located source after.1 := by
  cases step with
  | moved state onward => exact located.mono onward
  | added state node leaf isLocated start less within =>
      have later := located.mono (Nat.le_trans start (Nat.le_of_lt less))
      exact ⟨later.carries.addLeaf leaf isLocated, by simpa using located.faults⟩
  | continued state content more location older newest touches boundary onward =>
      have spans := located.spans_continued small newest touches boundary onward
      exact ⟨(located.mono onward).carries.continueText newest ⟨spans.exact, trivial⟩,
        by simpa using located.faults⟩
  | opened state element empty isLocated start =>
      have opens : element.start ≤ element.location.stop.offset := by
        rw [← isLocated.start_eq]
        exact Nat.le_of_lt isLocated.filled
      have later := located.mono (Nat.le_trans start opens)
      have bare : element.bare.IsLocated source :=
        ⟨isLocated.exact, isLocated.start_eq, isLocated.filled, isLocated.tagged⟩
      exact ⟨later.carries.inside ⟨bare, Nat.le_refl _⟩ empty, located.faults⟩
  | closed state element boundary onward =>
      obtain ⟨spans, less⟩ := located.spans_closed small boundary onward
      have later := located.mono onward
      obtain ⟨⟨isLocated, within⟩, _⟩ := later.carries.innermost
      have tagged : HasStartTag source element.tag element.attributes element.location :=
        isLocated.tagged
      refine ⟨later.carries.closed ⟨spans.exact, tagged.widen spans.start_eq ?_⟩,
        by simpa [inside] using located.faults⟩
      rw [spans.stop_eq]
      exact within
  | lapsed state element place =>
      obtain ⟨⟨isLocated, _⟩, _⟩ := located.carries.innermost
      have exact : element.location.IsExact source := isLocated.exact
      have reported := located.carries.report .missingEndTag element.location
      refine ⟨reported.closed ⟨exact, isLocated.tagged⟩, ?_⟩
      rw [diagnostics_add]
      exact List.forall_mem_cons.mpr ⟨⟨_, rfl, exact⟩, located.faults⟩
  | reported state code location place exact =>
      exact ⟨located.carries.report code location,
        List.forall_mem_cons.mpr ⟨⟨_, rfl, exact⟩, located.faults⟩⟩

end Located

/-- Children and nodes stand in rows, each before the next element around. -/
def Standing (roots : List Node) : List OpenElement → Nat → Prop
  | [], place => Row 0 roots place
  | element :: outer, place =>
      Row element.location.stop.offset element.children place ∧
        Standing roots outer element.location.start.offset

/-- Everything so far lies as the tree says, up to the offset. -/
structure Nested (place : Nat) (state : Construction) : Prop where
  stands : Standing state.roots state.openElements place
  carries : state.Carries Node.Encloses fun _ => True

namespace Nested

variable {first last : Nat} {state : Construction} {element : OpenElement}

theorem mono (nested : state.Nested first) (onward : first ≤ last) : state.Nested last := by
  refine ⟨?_, nested.carries⟩
  rcases state with ⟨openElements, roots, diagnostics⟩
  cases openElements with
  | nil => exact Row.mono nested.stands onward
  | cons element outer => exact ⟨nested.stands.1.mono onward, nested.stands.2⟩

theorem standing_withSiblings {nodes : List Node}
    (stands : Standing state.roots state.openElements first)
    (content : ∀ lower, Row lower state.siblings first → Row lower nodes last) :
    Standing (state.withSiblings nodes).roots (state.withSiblings nodes).openElements last := by
  rcases state with ⟨openElements, roots, diagnostics⟩
  cases openElements with
  | nil => exact content 0 stands
  | cons element outer => exact ⟨content _ stands.1, stands.2⟩

/-- A node behind all others keeps them in their rows. -/
theorem standing_add {node : Node} (stands : Standing state.roots state.openElements first)
    (after : first ≤ node.location.start.offset) (before : node.location.start.offset < last)
    (within : node.location.stop.offset ≤ last) :
    Standing (state.add node).roots (state.add node).openElements last :=
  standing_withSiblings stands fun _ row => ⟨before, within, row.mono after⟩

theorem encloses_of_isLeaf {node : Node} (leaf : node.isLeaf = true) : node.Encloses := by
  cases node with
  | element tag attributes children detached location =>
      obtain rfl : children = [] := by simpa [Node.isLeaf] using leaf
      exact ⟨List.forall_mem_nil _, .nil⟩
  | _ => trivial

/-- Every located step keeps elements nested. -/
theorem step {source : Source} (small : source.size < Position.wordSize)
    (before after : Nat × Construction) (step : LocatedStep source before after)
    (located : before.2.Located source before.1)
    (nested : before.2.diagnostics = [] → before.2.Nested before.1)
    (clear : after.2.diagnostics = []) : after.2.Nested after.1 := by
  cases step with
  | moved state onward => exact (nested clear).mono onward
  | added state node leaf isLocated start less within =>
      have before := nested (by simpa using clear)
      exact ⟨standing_add before.stands start less within,
        before.carries.addLeaf leaf (encloses_of_isLeaf leaf)⟩
  | continued state content more location older newest touches boundary onward =>
      have before := nested (by simpa using clear)
      have spans := located.spans_continued small newest touches boundary onward
      refine ⟨standing_withSiblings before.stands ?_, before.carries.continueText newest trivial⟩
      intro lower row
      rw [newest] at row
      obtain ⟨start, _, below⟩ := row
      refine ⟨?_, ?_, ?_⟩
      · exact spans.start_eq.symm ▸ Nat.lt_of_lt_of_le start onward
      · exact Nat.le_of_eq spans.stop_eq
      · exact spans.start_eq.symm ▸ below
  | opened state element empty isLocated start =>
      have before := nested clear
      refine ⟨⟨?_, ?_⟩, before.carries.inside trivial empty⟩
      · rw [empty]
        exact Nat.le_refl _
      · rw [isLocated.start_eq]
        exact (before.mono start).stands
  | closed state element boundary onward =>
      have before := nested (by simpa [inside] using clear)
      obtain ⟨spans, less⟩ := located.spans_closed small boundary onward
      -- The content ends before the step, and the row around the element ends where it starts.
      obtain ⟨row, outer⟩ := before.stands
      refine ⟨standing_add outer ?_ ?_ ?_, before.carries.closed ⟨?_, row.pairwise⟩⟩
      · exact Nat.le_of_eq spans.start_eq.symm
      · exact spans.start_eq.symm ▸ less
      · exact Nat.le_of_eq spans.stop_eq
      · intro child member
        obtain ⟨⟨isLocated, _⟩, _⟩ := located.carries.innermost
        have filled : element.location.start.offset < element.location.stop.offset :=
          isLocated.filled
        obtain ⟨lower, _, upper⟩ := row.between child (List.mem_reverse.mp member)
        rw [Location.Inside, spans.start_eq, spans.stop_eq]
        exact ⟨Nat.le_trans (Nat.le_of_lt filled) lower, Nat.le_trans upper onward⟩
  -- An element without its end tag may have content behind its location, but that is a fault.
  | lapsed state element place => simp [report] at clear
  | reported state code location place exact => simp [report] at clear

end Nested

/-- Everything so far is located, and nested unless there are faults. -/
structure Laid (source : Source) (place : Nat) (state : Construction) : Prop where
  located : state.Located source place
  nested : state.diagnostics = [] → state.Nested place

/-- Every located step keeps the tree laid. -/
theorem Laid.step {source : Source} (small : source.size < Position.wordSize)
    (before after : Nat × Construction) (step : LocatedStep source before after)
    (laid : before.2.Laid source before.1) : after.2.Laid source after.1 :=
  ⟨laid.located.step small before after step,
    Nested.step small before after step laid.located laid.nested⟩

theorem Laid.start (source : Source) : Laid source 0 {} :=
  ⟨⟨.empty, List.forall_mem_nil _⟩, fun _ => ⟨Nat.le_refl 0, .empty⟩⟩

end Construction

/-- The locations of a node and of its attributes. -/
def Node.locations : Node → List Location
  | .doctype _ location => [location]
  | .comment _ location => [location]
  | .text _ location => [location]
  | .element _ attributes _ _ location => location :: attributes.map (·.location)

/-- The locations of all nodes, attributes and faults. -/
def Document.locations (document : Document) : List Location :=
  (preorderAll document.nodes).flatMap Node.locations ++ document.diagnostics.filterMap (·.location)

theorem Node.IsLocated.locations {source : Source} {node : Node} (located : node.IsLocated source) :
    ∀ location ∈ node.locations, location.IsExact source := by
  cases node with
  | element tag attributes children detached location =>
      obtain ⟨segment, _, name, written, selfClosing, stop, _, _, _, _, _, inTag⟩ := located.tagged
      refine List.forall_mem_cons.mpr ⟨located.exact, ?_⟩
      intro location member
      obtain ⟨entry, isEntry, rfl⟩ := List.mem_map.mp member
      exact (inTag entry isEntry).1
  | _ => exact List.forall_mem_singleton.mpr located.exact

/-- All locations are exact up to words, and nest in a document without faults. -/
theorem locations_exact_nested (source : Source) (options : ReadOptions)
    (small : source.size < Position.wordSize) :
    let document := Document.ofSource source options
    (∀ location ∈ document.locations,
      location.start.offset ≤ location.stop.offset ∧ location.stop.offset ≤ source.size ∧
        location.Covers (· % Position.wordSize) source ∧
        (source.size + 1 < Position.wordSize → location.Covers id source)) ∧
    (∀ fault ∈ document.diagnostics, fault.location.isSome = true) ∧
    (∀ node ∈ preorderAll document.nodes, node.HasTag source) ∧
    (document.diagnostics = [] →
      (∀ node ∈ preorderAll document.nodes, node.Encloses) ∧
        document.nodes.Pairwise fun first second => first.location.Precedes second.location) := by
  obtain ⟨state, laid, ended, document⟩ :=
    Construction.locatedInvariant_ofSource small options (.start source) (Construction.Laid.step small)
  rw [document]
  have located : ∀ node ∈ preorderAll state.roots.reverse, node.IsLocated source :=
    fun node member => laid.located.carries.roots node (mem_preorderAll_reverse.mp member)
  have faults : ∀ fault ∈ state.diagnostics.reverse, ∃ location, fault.location = some location ∧
      location.IsExact source :=
    fun fault member => laid.located.faults fault (List.mem_reverse.mp member)
  refine ⟨?_, ?_, fun node member => (located node member).tagged, ?_⟩
  · intro location member
    have exact : location.IsExact source := by
      rcases List.mem_append.mp member with ofNode | ofFault
      · obtain ⟨node, isNode, inNode⟩ := List.mem_flatMap.mp ofNode
        exact (located node isNode).locations location inNode
      · obtain ⟨fault, isFault, same⟩ := List.mem_filterMap.mp ofFault
        obtain ⟨other, found, exact⟩ := faults fault isFault
        obtain rfl := Option.some.inj (found.symm.trans same)
        exact exact
    exact ⟨exact.ordered, source.le_size_of_isBoundary exact.isBoundary_stop, exact, exact.plain⟩
  · intro fault member
    obtain ⟨location, found, _⟩ := faults fault member
    rw [found]
    rfl
  · intro clear
    have nested := laid.nested (List.reverse_eq_nil_iff.mp clear)
    have stands := nested.stands
    rw [ended] at stands
    exact ⟨fun node member => nested.carries.roots node (mem_preorderAll_reverse.mp member),
      stands.pairwise⟩

/-- The end tags of the items are left out. -/
theorem locations_unclosedItems :
    let source := Source.ofString "<ul><li a=b>x<li>y\n<br></ul>"
    let document := Document.ofSource source {}
    source.size < Position.wordSize ∧ document.locations.length = 7 ∧
      (∀ location ∈ document.locations, location.Covers id source) ∧
      ∀ node ∈ preorderAll document.nodes, node.HasTag source ∧ node.Encloses := by
  intro source document
  have small : source.size + 1 < Position.wordSize := by decide +kernel
  have clear : document.diagnostics = [] := by
    rw [← List.isEmpty_iff]
    decide +kernel
  have lower := Nat.lt_of_succ_lt small
  obtain ⟨exact, _, tagged, nested⟩ := locations_exact_nested source {} lower
  refine ⟨lower, by decide +kernel, ?_, ?_⟩
  · exact fun location member => (exact location member).2.2.2 small
  · exact fun node member => ⟨tagged node member, (nested clear).1 node member⟩

/-- A source without an angle bracket is located as one text. -/
theorem location_mem_of_plain {word : List Char} (filled : word ≠ [])
    (kept : word.all (· != '<') = true) :
    let source := Source.ofChars word
    source.location 0 source.size ∈ (Document.ofSource source {}).locations := by
  intro source
  let content : Lexeme := ⟨0, word⟩
  have stop : content.stop = source.size := Nat.zero_add _
  have nodes : (Document.ofSource source {}).nodes =
      [.text content.text (source.location 0 source.size)] := by
    rw [Document.ofSource, show source.chars = word from rfl, tokens_text filled kept, ← stop]
    rfl
  rw [Document.locations, nodes]
  simp [preorderAll, Node.preorder, Node.locations]

/-- The column behind a longest line is lost. -/
theorem column_of_plain {word : List Char} (single : '\n' ∉ word)
    (length : Text.byteLength word + 1 = Position.wordSize) :
    let source := Source.ofChars word
    (source.location 0 source.size).stop.column = 0 ∧
      ¬(source.location 0 source.size).Covers id source := by
  intro source
  have size : source.size = Text.byteLength word := rfl
  have breaks : source.breaks = [] := by
    rw [source.breaks_eq]
    exact lineBreaks_eq_nil 0 single
  have stop : (source.location 0 source.size).stop = ⟨source.size % Position.wordSize, 1, 0⟩ := by
    rw [source.location_of_le (Nat.zero_le _) (Nat.le_refl _), breaks]
    simp only [Position.ofOffset, List.takeWhile_nil, List.getLast?_nil, List.length_nil]
    rw [size, length, Nat.mod_self]
    rfl
  refine ⟨by rw [stop], ?_⟩
  rintro ⟨before, covered, after, whole, _, _, isAfter⟩
  have none : '\n' ∉ before ++ covered := by
    intro member
    apply single
    rw [show word = before ++ (covered ++ after) from whole, ← List.append_assoc]
    exact List.mem_append_left _ member
  have column := isAfter.column_first none
  rw [stop] at column
  exact absurd column (Nat.succ_ne_zero _).symm

theorem column_of_line {count : Nat} (filled : count ≠ 0) (length : count + 1 = Position.wordSize) :
    let source := Source.ofChars (List.replicate count 'a')
    source.size < Position.wordSize ∧
      ∃ location ∈ (Document.ofSource source {}).locations,
        location.stop.column = 0 ∧ ¬location.Covers id source := by
  have bytes := byteLength_replicate_plain count
  have some : List.replicate count 'a' ≠ [] := by simpa using filled
  have single : '\n' ∉ List.replicate count 'a' := by
    intro member
    exact absurd (List.eq_of_mem_replicate member) (by decide)
  have small : Text.byteLength (List.replicate count 'a') < Position.wordSize := by omega
  exact ⟨small, _, location_mem_of_plain some (all_replicate_plain count),
    column_of_plain single (bytes.symm ▸ length)⟩

/-- A column that is the size of a word is kept as zero. -/
theorem column_of_longest_line :
    let source := Source.ofChars (List.replicate (Position.wordSize - 1) 'a')
    source.size < Position.wordSize ∧
      ∃ location ∈ (Document.ofSource source {}).locations,
        location.stop.column = 0 ∧ ¬location.Covers id source :=
  column_of_line (by decide) (by decide)

end Markup

end HtmlTemplate
