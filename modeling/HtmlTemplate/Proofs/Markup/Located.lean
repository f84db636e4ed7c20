/-
This file says where reading places what it adds to a tree. Every token makes a number of steps that go on
from its first offset to its last one, and none of them adds anything that starts before the step.
-/

import HtmlTemplate.Proofs.Markup.Nesting
import HtmlTemplate.Proofs.Markup.Placement
import HtmlTemplate.Proofs.Markup.Stack

namespace HtmlTemplate.Markup

/-- The start tag of an element stands where its location starts. -/
def HasStartTag (source : Source) (tag : String) (attributes : List Attribute)
    (location : Location) : Prop :=
  ∃ segment ∈ segments source.chars, ∃ name written selfClosing stop,
    segment.token = .startTag name written selfClosing stop ∧
    tag = String.ofList (Text.lower name.chars) ∧
    attributes = written.map (Construction.attributeOf source) ∧
    location.start.offset = segment.covered.start ∧
    segment.covered.stop ≤ location.stop.offset ∧
    ∀ entry ∈ attributes, entry.location.IsExact source ∧
      segment.covered.start ≤ entry.location.start.offset ∧
      entry.location.stop.offset ≤ segment.covered.stop

theorem HasStartTag.widen {source : Source} {tag : String} {attributes : List Attribute}
    {location wider : Location} (tagged : HasStartTag source tag attributes location)
    (start : wider.start.offset = location.start.offset)
    (stop : location.stop.offset ≤ wider.stop.offset) :
    HasStartTag source tag attributes wider := by
  obtain ⟨segment, member, name, written, selfClosing, last, token, isTag, areWritten, first, upTo,
    inTag⟩ := tagged
  exact ⟨segment, member, name, written, selfClosing, last, token, isTag, areWritten,
    start.trans first, Nat.le_trans upTo stop, inTag⟩

/-- An element has its start tag where its location says. -/
def Node.HasTag (source : Source) : Node → Prop
  | .doctype _ _ => True
  | .comment _ _ => True
  | .text _ _ => True
  | .element tag attributes _ _ location => HasStartTag source tag attributes location

structure Node.IsLocated (source : Source) (node : Node) : Prop where
  exact : node.location.IsExact source
  tagged : node.HasTag source

/-- The location of an open element is that of its start tag. -/
structure OpenElement.IsLocated (source : Source) (element : OpenElement) : Prop where
  exact : element.location.IsExact source
  start_eq : element.location.start.offset = element.start
  filled : element.location.start.offset < element.location.stop.offset
  tagged : HasStartTag source element.tag element.attributes element.location

namespace Construction

/-- A step of reading from an offset to a later one. -/
inductive LocatedStep (source : Source) : Nat × Construction → Nat × Construction → Prop where
  | moved (state : Construction) {first last : Nat} (onward : first ≤ last) :
      LocatedStep source (first, state) (last, state)
  | added (state : Construction) (node : Node) {first last : Nat} (leaf : node.isLeaf = true)
      (located : node.IsLocated source) (after : first ≤ node.location.start.offset)
      (before : node.location.start.offset < last) (within : node.location.stop.offset ≤ last) :
      LocatedStep source (first, state) (last, state.add node)
  | continued (state : Construction) (before content : String) (location : Location)
      (older : List Node) {first stop : Nat}
      (newest : state.siblings = .text before location :: older)
      (touches : location.stop.offset = first) (boundary : Text.IsBoundary source.chars stop)
      (onward : first ≤ stop) :
      LocatedStep source (first, state) (stop, state.withSiblings
        (.text (before ++ content) (source.location location.start.offset stop) :: older))
  | opened (state : Construction) (element : OpenElement) {first : Nat}
      (empty : element.children = []) (located : element.IsLocated source)
      (after : first ≤ element.start) :
      LocatedStep source (first, state) (element.location.stop.offset, inside element state)
  | closed (state : Construction) (element : OpenElement) {first stop : Nat}
      (boundary : Text.IsBoundary source.chars stop) (onward : first ≤ stop) :
      LocatedStep source (first, inside element state)
        (stop, state.add (element.node (source.location element.location.start.offset stop)))
  | lapsed (state : Construction) (element : OpenElement) (first : Nat) :
      LocatedStep source (first, inside element state)
        (first, (state.report .missingEndTag element.location).add (element.node element.location))
  | reported (state : Construction) (code : Diagnostic.Code) (location : Location) (first : Nat)
      (exact : location.IsExact source) :
      LocatedStep source (first, state) (first, state.report code location)

/-- Any number of steps of reading. -/
abbrev LocatedSteps (source : Source) : Nat × Construction → Nat × Construction → Prop :=
  Relation.ReflTransGen (LocatedStep source)

section

variable {source : Source}

theorem locatedStep_add {state : Construction} {node : Node} {first start stop last : Nat}
    (leaf : node.isLeaf = true) (spans : node.location.Spans source start stop)
    (tagged : node.HasTag source) (after : first ≤ start) (before : start < last)
    (within : stop ≤ last) : LocatedStep source (first, state) (last, state.add node) := by
  refine .added state node leaf ⟨spans.exact, tagged⟩ ?_ ?_ ?_
  · rwa [spans.start_eq]
  · rwa [spans.start_eq]
  · rwa [spans.stop_eq]

/-- Closing an element at a boundary is a located step. -/
theorem locatedSteps_closeInnermost {first stop : Nat} (boundary : Text.IsBoundary source.chars stop)
    (onward : first ≤ stop) (state : Construction) :
    LocatedSteps source (first, state) (stop, state.closeInnermost source (some stop)) := by
  rcases state with ⟨openElements, roots, diagnostics⟩
  cases openElements with
  | nil => exact .single (.moved _ onward)
  | cons element outer => exact .single (.closed ⟨outer, roots, diagnostics⟩ element boundary onward)

/-- Ending an element without its tag is a located step. -/
theorem locatedSteps_closeUnterminated {first stop : Nat}
    (boundary : Text.IsBoundary source.chars stop) (onward : first ≤ stop) (state : Construction) :
    LocatedSteps source (first, state) (stop, state.closeUnterminated source stop) := by
  rcases state with ⟨openElements, roots, diagnostics⟩
  cases openElements with
  | nil => exact .single (.moved _ onward)
  | cons element outer =>
      unfold closeUnterminated
      dsimp only
      split
      · exact locatedSteps_closeInnermost boundary onward _
      · exact .head (.lapsed ⟨outer, roots, diagnostics⟩ element first) (.single (.moved _ onward))

theorem locatedSteps_repeated {change : Construction → Construction} {place : Nat}
    (each : ∀ state, LocatedSteps source (place, state) (place, change state)) (count : Nat)
    (state : Construction) :
    LocatedSteps source (place, state) (place, repeated change count state) := by
  induction count generalizing state with
  | zero => exact .refl
  | succ count inductionHypothesis => exact (each state).trans (inductionHypothesis _)

/-- Implied end tags are located steps. -/
theorem locatedSteps_closeImplied {start : Nat} (boundary : Text.IsBoundary source.chars start)
    (tag : String) (state : Construction) :
    LocatedSteps source (start, state) (start, state.closeImplied source tag start) := by
  rw [closeImplied_eq]
  exact locatedSteps_repeated (locatedSteps_closeInnermost boundary (Nat.le_refl start)) _ state

theorem locatedSteps_finish (state : Construction) :
    LocatedSteps source (source.size, state) (source.size, state.finish source) :=
  locatedSteps_repeated
    (locatedSteps_closeUnterminated source.isBoundary_size (Nat.le_refl source.size)) _ state

end

end Construction

section

variable {source : Source} {first last : Cursor}

theorem Cursor.Reaches.isBoundary (reached : Cursor.Reaches ⟨0, source.chars⟩ first) :
    Text.IsBoundary source.chars first.offset := by
  obtain ⟨before, passes⟩ := reached
  exact ⟨before, first.rest, passes.rest, by rw [passes.offset, Nat.zero_add]⟩

/-- A cursor with nothing left stands at the end. -/
theorem Cursor.Reaches.offset_eq_size (reached : Cursor.Reaches ⟨0, source.chars⟩ first)
    (ended : first.rest = []) : first.offset = source.size := by
  obtain ⟨before, passes⟩ := reached
  have whole : source.chars = before ++ first.rest := passes.rest
  rw [passes.offset, source.size_eq, whole, ended, List.append_nil, Nat.zero_add]

variable (small : source.size < Position.wordSize)
  (reached : Cursor.Reaches ⟨0, source.chars⟩ first)

include small reached

/-- What stands between two cursors has an exact location. -/
theorem Cursor.Reaches.location_spans (onward : first.Reaches last) :
    (source.location first.offset last.offset).Spans source first.offset last.offset :=
  source.location_spans small reached.isBoundary (reached.trans onward).isBoundary onward.offset_le

/-- The attributes of a start tag have exact locations inside of it. -/
theorem AttributeToken.Within.location_spans {written : AttributeToken}
    (within : written.Within first last) :
    (Construction.attributeOf source written).location.IsExact source ∧
      first.offset ≤ (Construction.attributeOf source written).location.start.offset ∧
      (Construction.attributeOf source written).location.stop.offset ≤ last.offset := by
  obtain ⟨start, stop, before, named, inner, lasts, after⟩ := within
  have spans := Cursor.Reaches.location_spans small (reached.trans before) inner
  have same : (Construction.attributeOf source written).location =
      source.location start.offset stop.offset := by
    rw [named, lasts]
    rfl
  rw [same, spans.start_eq, spans.stop_eq]
  exact ⟨spans.exact, before.offset_le, after.offset_le⟩

/-- A start tag that covers a part of the source is there. -/
theorem hasStartTag_of_placed {word : List Char} {name : Lexeme} {written : List AttributeToken}
    {selfClosing : Bool} {stop : Nat} (passes : first.Passes word last)
    (placed : (Token.startTag name written selfClosing stop).Placed first last)
    (member : ⟨⟨first.offset, word⟩, .startTag name written selfClosing stop⟩ ∈
      segments source.chars) :
    (source.location (name.start - 1) (stop + 1)).Spans source first.offset last.offset ∧
      name.start - 1 = first.offset ∧
      HasStartTag source (String.ofList (Text.lower name.chars))
        (written.map (Construction.attributeOf source))
        (source.location (name.start - 1) (stop + 1)) := by
  obtain ⟨opening, closing, opens, named, inner, place, closes, within⟩ := placed
  have start : name.start - 1 = first.offset :=
    Nat.sub_eq_of_eq_add (named.symm.trans opens.offset)
  have stop : stop + 1 = last.offset := by
    rw [← place]
    exact closes.offset.symm
  have spans := Cursor.Reaches.location_spans small reached passes.reaches
  rw [start, stop]
  refine ⟨spans, rfl, _, member, name, written, selfClosing, _, rfl, rfl, rfl, spans.start_eq, ?_, ?_⟩
  · rw [spans.stop_eq, passes.offset]
    exact Nat.le_refl _
  · intro entry isEntry
    obtain ⟨token, isWritten, rfl⟩ := List.mem_map.mp isEntry
    obtain ⟨exact, lower, upper⟩ := AttributeToken.Within.location_spans small
      (reached.trans opens.reaches) (within token isWritten)
    refine ⟨exact, Nat.le_trans opens.reaches.offset_le lower, ?_⟩
    exact Nat.le_trans upper (Nat.le_trans closes.reaches.offset_le (Nat.le_of_eq passes.offset))

namespace Construction

/-- A text is a located step. -/
theorem locatedSteps_addText {content : Lexeme} (between : content.Between first last)
    (filled : first.offset < last.offset) (state : Construction) :
    LocatedSteps source (first.offset, state) (last.offset, state.addText source content) := by
  have onward := between.2.reaches
  have spans := Cursor.Reaches.location_spans small reached onward
  have single : LocatedSteps source (first.offset, state)
      (last.offset, state.add (.text content.text (source.location first.offset last.offset))) :=
    .single (locatedStep_add rfl spans trivial (Nat.le_refl _) filled (Nat.le_refl _))
  unfold addText
  rw [between.1, between.stop_eq]
  split
  · rename_i before location older newest
    split
    · rename_i touches
      exact .single (.continued state before content.text location older newest touches
        (reached.trans onward).isBoundary onward.offset_le)
    · exact single
  · exact single

/-- A comment is a located step. -/
theorem locatedSteps_addComment (options : ReadOptions) {content : Lexeme} {inner stop : Cursor}
    (onward : first.Reaches inner) (between : content.Between inner stop) (rest : stop.Reaches last)
    (filled : inner.offset < last.offset) (state : Construction) :
    LocatedSteps source (first.offset, state)
      (last.offset, state.addComment source options content) := by
  unfold addComment
  rw [between.1, between.stop_eq]
  split
  · exact .single (locatedStep_add rfl
      (Cursor.Reaches.location_spans small (reached.trans onward) between.2.reaches) trivial
      onward.offset_le filled rest.offset_le)
  · exact .single (.moved state (onward.trans (between.2.reaches.trans rest)).offset_le)

/-- A declaration is a located step. -/
theorem locatedSteps_addDeclaration (options : ReadOptions) {content : Lexeme}
    (placed : (Token.declaration content).Placed first last) (state : Construction) :
    LocatedSteps source (first.offset, state)
      (last.offset, state.addDeclaration source options content) := by
  obtain ⟨opening, closing, opens, between, closes⟩ := placed
  have onward := opens.reaches.trans (between.2.reaches.trans closes.reaches)
  have filled := closes.offset_lt (List.cons_ne_nil _ _)
  unfold addDeclaration
  split
  · have start : content.start - 2 = first.offset := by
      rw [between.1]
      exact Nat.sub_eq_of_eq_add opens.offset
    have stop : content.stop + 1 = last.offset := by
      rw [between.stop_eq]
      exact closes.offset.symm
    rw [start, stop]
    exact .single (locatedStep_add rfl (Cursor.Reaches.location_spans small reached onward) trivial
      (Nat.le_refl _) (Nat.lt_of_le_of_lt (opens.reaches.trans between.2.reaches).offset_le filled)
      (Nat.le_refl _))
  · exact locatedSteps_addComment small reached options opens.reaches between closes.reaches
      (Nat.lt_of_le_of_lt between.2.reaches.offset_le filled) state

/-- A start tag ends elements at its start, and adds its own. -/
theorem locatedSteps_startTag (options : ReadOptions) {word : List Char} {name : Lexeme}
    {written : List AttributeToken} {selfClosing : Bool} {stop : Nat}
    (passes : first.Passes word last) (filled : word ≠ [])
    (placed : (Token.startTag name written selfClosing stop).Placed first last)
    (member : ⟨⟨first.offset, word⟩, .startTag name written selfClosing stop⟩ ∈
      segments source.chars) (state : Construction) :
    LocatedSteps source (first.offset, state)
      (last.offset, state.startTag source options name written selfClosing stop) := by
  obtain ⟨spans, start, tagged⟩ := hasStartTag_of_placed small reached passes placed member
  have onward := passes.offset_lt filled
  have closed := locatedSteps_closeImplied reached.isBoundary
    (String.ofList (Text.lower name.chars)) state
  unfold startTag
  dsimp only
  rw [start] at spans tagged ⊢
  split
  · exact closed.tail (locatedStep_add rfl spans tagged (Nat.le_refl _) onward (Nat.le_refl _))
  · split
    · exact closed.tail (locatedStep_add rfl spans tagged (Nat.le_refl _) onward (Nat.le_refl _))
    · have located : OpenElement.IsLocated source ⟨first.offset, String.ofList (Text.lower name.chars),
          written.map (attributeOf source), source.location first.offset (stop + 1), []⟩ :=
        ⟨spans.exact, spans.start_eq, by rwa [spans.start_eq, spans.stop_eq], tagged⟩
      rw [← spans.stop_eq]
      exact closed.tail (.opened _ _ rfl located (Nat.le_refl _))

/-- An end tag ends elements at its start, and its own behind its name. -/
theorem locatedSteps_endTag (options : ReadOptions) {name : Lexeme}
    (placed : name.InEndTag first last) (state : Construction) :
    LocatedSteps source (first.offset, state)
      (last.offset, state.endTag source options name) := by
  obtain ⟨opening, start, stop, closing, before, opens, offset, between, more, next, rest⟩ := placed
  have onward : opening.Reaches closing := opens.trans (between.2.reaches.trans more)
  have openingOffset : name.start - 2 = opening.offset := by
    rw [between.1, ← offset, Nat.add_sub_cancel]
  have closingOffset : name.stop + 1 = closing.offset := by rw [between.stop_eq, next]
  have moved (state : Construction) :
      LocatedStep source (closing.offset, state) (last.offset, state) :=
    .moved state rest.offset_le
  unfold endTag
  rw [openingOffset, closingOffset]
  split
  · exact .single (.moved state (before.trans (onward.trans rest)).offset_le)
  · split
    · exact .head (.reported state .invalidEndTag _ _
        (Cursor.Reaches.location_spans small (reached.trans before) onward).exact)
        (.single (.moved _ (before.trans (onward.trans rest)).offset_le))
    · rename_i count _
      have unwound := locatedSteps_repeated (locatedSteps_closeUnterminated
        (reached.trans before).isBoundary (Nat.le_refl opening.offset)) count state
      have closed := locatedSteps_closeInnermost (reached.trans (before.trans onward)).isBoundary
        onward.offset_le (repeated (closeUnterminated source opening.offset) count state)
      exact (unwound.trans closed).head (.moved state before.offset_le) |>.tail (moved _)

/-- What is cut off by the end of the source is reported there. -/
theorem locatedStep_reportEnd (ended : first.rest = []) (code : Diagnostic.Code)
    (state : Construction) :
    LocatedStep source (first.offset, state)
      (first.offset, state.reportAt source code first.offset) := by
  have size := reached.offset_eq_size ended
  refine .reported state code _ _ ?_
  rw [size, source.location_end _ (Nat.le_add_right _ 1), ← size]
  exact (Cursor.Reaches.location_spans small reached (.refl first)).exact

/-- Taking a token goes on from its first offset to its last one. -/
theorem locatedSteps_take (options : ReadOptions) {word : List Char} {token : Token}
    (passes : first.Passes word last) (filled : word ≠ []) (placed : token.Placed first last)
    (member : ⟨⟨first.offset, word⟩, token⟩ ∈ segments source.chars) (state : Construction) :
    LocatedSteps source (first.offset, state) (last.offset, state.take source options token) := by
  have onward := passes.offset_lt filled
  have moved (state : Construction) : LocatedStep source (first.offset, state) (last.offset, state) :=
    .moved state (Nat.le_of_lt onward)
  cases token with
  | text content => exact locatedSteps_addText small reached placed onward state
  | startTag name written selfClosing stop =>
      exact locatedSteps_startTag small reached options passes filled placed member state
  | endTag name => exact locatedSteps_endTag small reached options placed state
  | namelessEndTag stop =>
      obtain ⟨closing, before, rfl, closes⟩ := placed
      have spans := Cursor.Reaches.location_spans small (reached.trans before) closes.reaches
      rw [closes.offset] at spans
      exact .tail (.single (.reported state .missingEndTagName _ _ spans.exact)) (moved _)
  | comment content =>
      obtain ⟨opening, closing, mark, before, _, between, closes, isMark⟩ := placed
      have stop : closing.offset < last.offset := closes.offset_lt (by rcases isMark with rfl | rfl <;> simp)
      exact locatedSteps_addComment small reached options before between closes.reaches
        (Nat.lt_of_le_of_lt between.2.reaches.offset_le stop) state
  | declaration content => exact locatedSteps_addDeclaration small reached options placed state
  | unfinished construct stop =>
      obtain ⟨ended, rfl, endTag⟩ := placed
      have report := locatedStep_reportEnd small (reached.trans passes.reaches) ended
      cases construct with
      | endTag name =>
          exact (locatedSteps_endTag small reached options (endTag name rfl) state).tail
            (report .eofInTag _)
      | startTag name written cut => exact .head (moved state) (.single (report .eofInTag state))
      | tag => exact .head (moved state) (.single (report .eofInTag state))
      | comment => exact .head (moved state) (.single (report .eofInComment state))
      | declaration => exact .head (moved state) (.single (report .eofInDoctype state))

end Construction

end

namespace Construction

section

variable {source : Source} (small : source.size < Position.wordSize)

include small

/-- All tokens are located steps. -/
theorem locatedSteps_takeAll (options : ReadOptions) {cursor : Cursor} {pieces : List Segment}
    (lays : cursor.Lays pieces) (reached : Cursor.Reaches ⟨0, source.chars⟩ cursor)
    (members : ∀ piece ∈ pieces, piece ∈ segments source.chars) (state : Construction) :
    LocatedSteps source (cursor.offset, state)
      (source.size, (pieces.map (·.token)).foldl (take source options) state) := by
  induction lays generalizing state with
  | done ended =>
      rw [reached.offset_eq_size ended]
      exact .refl
  | token passes filled placed lays inductionHypothesis =>
      obtain ⟨member, others⟩ := List.forall_mem_cons.mp members
      exact (locatedSteps_take small reached options passes filled placed member state).trans
        (inductionHypothesis (reached.trans passes.reaches) others _)

/-- What every step keeps holds of the tree of every document. -/
theorem locatedInvariant_ofSource (options : ReadOptions) {invariant : Nat → Construction → Prop}
    (start : invariant 0 {})
    (kept : ∀ first second, LocatedStep source first second →
      invariant first.1 first.2 → invariant second.1 second.2) :
    ∃ state, invariant source.size state ∧ state.openElements = [] ∧
      Document.ofSource source options = ⟨state.roots.reverse, state.diagnostics.reverse⟩ := by
  have along : ∀ last, LocatedSteps source (0, {}) last → invariant last.1 last.2 := by
    intro last steps
    induction steps with
    | refl => exact start
    | tail _ step inductionHypothesis => exact kept _ _ step inductionHypothesis
  have read := locatedSteps_takeAll small options (lays_segmentsFrom ⟨0, source.chars⟩) (.refl _)
    (fun _ member => member) {}
  exact ⟨_, along _ (read.trans (locatedSteps_finish _)), openElements_finish _, rfl⟩

end

end Construction

end HtmlTemplate.Markup
