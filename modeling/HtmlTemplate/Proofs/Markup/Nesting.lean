/-
This file shows that a tree nests what the events of its source report: in the order of the document, its
nodes are those that the events promise.
-/

import HtmlTemplate.Proofs.Markup.Construction
import HtmlTemplate.Proofs.Markup.Outline
import HtmlTemplate.Proofs.Markup.Scan
import HtmlTemplate.Proofs.Source.Positions

namespace HtmlTemplate.Markup

@[simp] theorem outlineAll_nil : outlineAll [] = [] := rfl

@[simp] theorem outlineAll_append (first second : List Node) :
    outlineAll (first ++ second) = outlineAll first ++ outlineAll second := by
  rw [outlineAll, preorderAll_append, List.map_append]
  rfl

/-- An open element without its content. -/
def OpenElement.outline (element : OpenElement) : Outline :=
  .element element.tag (element.attributes.map fun read => (read.name, read.value))

/-- A closed element comes before the nodes inside it. -/
theorem OpenElement.outlineAll_node (element : OpenElement) (location : Location) :
    outlineAll [element.node location] = element.outline :: outlineAll element.children.reverse := by
  simp [outlineAll, preorderAll, node, Node.preorder, Node.outline, outline]

namespace Construction

/-- The nodes so far in the order of the document. -/
def outline (state : Construction) : List Outline :=
  outlineAll state.roots.reverse ++ state.openElements.reverse.flatMap fun element =>
    element.outline :: outlineAll element.children.reverse

/-- The newest siblings come last. -/
theorem outline_withSiblings (state : Construction) (nodes : List Node) :
    (state.withSiblings nodes).outline =
      (state.withSiblings []).outline ++ outlineAll nodes.reverse := by
  rcases state with ⟨openElements, roots, diagnostics⟩
  cases openElements <;> simp [outline, withSiblings, OpenElement.outline]

/-- A new sibling comes last. -/
theorem outline_withSiblings_cons (state : Construction) (node : Node) (older : List Node) :
    (state.withSiblings (node :: older)).outline =
      (state.withSiblings older).outline ++ outlineAll [node] := by
  rw [outline_withSiblings, outline_withSiblings state older, List.reverse_cons, outlineAll_append,
    List.append_assoc]

/-- A change adds nodes at the end, and no text among its siblings. -/
structure Extends (added : List Outline) (first second : Construction) : Prop where
  outline : second.outline = first.outline ++ added
  newest : second.siblings = first.siblings ∨ second.endsWithText = false

theorem endsWithText_congr {first second : Construction} (same : first.siblings = second.siblings) :
    first.endsWithText = second.endsWithText := by
  rw [endsWithText, endsWithText, same]

namespace Extends

theorem refl (state : Construction) : Extends [] state state :=
  ⟨(List.append_nil _).symm, .inl rfl⟩

/-- Changes one after another add their nodes in a row. -/
theorem trans {added more : List Outline} {first second third : Construction}
    (step : Extends added first second) (next : Extends more second third) :
    Extends (added ++ more) first third := by
  refine ⟨?_, ?_⟩
  · rw [next.outline, step.outline, List.append_assoc]
  · rcases next.newest with same | apart
    · rcases step.newest with before | apart
      · exact .inl (same.trans before)
      · exact .inr ((endsWithText_congr same).trans apart)
    · exact .inr apart

theorem repeated {change : Construction → Construction}
    (step : ∀ state, Extends [] state (change state)) (count : Nat) (state : Construction) :
    Extends [] state (repeated change count state) := by
  induction count generalizing state with
  | zero => exact refl state
  | succ count inductionHypothesis => exact (step state).trans (inductionHypothesis (change state))

end Extends

/-- A node that is added comes last. -/
theorem outline_add (state : Construction) (node : Node) :
    (state.add node).outline = state.outline ++ outlineAll [node] := by
  rw [add, outline_withSiblings_cons, withSiblings_siblings]

theorem endsWithText_add (state : Construction) {node : Node}
    (apart : ∀ content location, node ≠ .text content location) :
    (state.add node).endsWithText = false := by
  rw [endsWithText, add, siblings_withSiblings]
  cases node <;> simp_all

theorem extends_add (state : Construction) {node : Node} {added : List Outline}
    (apart : ∀ content location, node ≠ .text content location) (same : outlineAll [node] = added) :
    Extends added state (state.add node) :=
  ⟨same ▸ outline_add state node, .inr (endsWithText_add state apart)⟩

theorem extends_report (state : Construction) (code : Diagnostic.Code) (location : Location) :
    Extends [] state (state.report code location) :=
  ⟨(List.append_nil _).symm, .inl rfl⟩

section

variable (source : Source) (options : ReadOptions)

/-- An element keeps its place when it is closed. -/
theorem extends_closeInnermost (stop : Option Nat) (state : Construction) :
    Extends [] state (state.closeInnermost source stop) := by
  rcases state with ⟨openElements, roots, diagnostics⟩
  cases openElements with
  | nil => exact .refl _
  | cons element outer =>
      refine ⟨?_, .inr (endsWithText_add _ nofun)⟩
      rw [closeInnermost, outline_add, OpenElement.outlineAll_node]
      simp [outline]

/-- Ending an element adds nothing. -/
theorem extends_closeUnterminated (stop : Nat) (state : Construction) :
    Extends [] state (state.closeUnterminated source stop) := by
  unfold closeUnterminated
  split
  · exact .refl state
  · split
    · exact extends_closeInnermost source (some stop) state
    · exact (extends_report state _ _).trans (extends_closeInnermost source none _)

/-- Implied end tags add nothing. -/
theorem extends_closeImplied (tag : String) (start : Nat) (state : Construction) :
    Extends [] state (state.closeImplied source tag start) := by
  unfold closeImplied
  split
  · exact .refl state
  · exact .repeated (extends_closeInnermost source (some start)) _ state

/-- An end tag adds nothing. -/
theorem extends_endTag (name : Lexeme) (state : Construction) :
    Extends [] state (state.endTag source options name) := by
  unfold endTag
  split
  · exact .refl state
  · split
    · exact extends_report state _ _
    · exact (Extends.repeated (extends_closeUnterminated source _) _ state).trans
        (extends_closeInnermost source _ _)

/-- A start tag adds its element, open or not. -/
theorem extends_startTag (name : Lexeme) (written : List AttributeToken) (selfClosing : Bool)
    (stop : Nat) (state : Construction) :
    Extends ((Token.startTag name written selfClosing stop).outlines options) state
      (state.startTag source options name written selfClosing stop) := by
  have pairs : (written.map (attributeOf source)).map (fun read => (read.name, read.value)) =
      written.map AttributeToken.pair := by
    rw [List.map_map]
    rfl
  have implied := extends_closeImplied source (String.ofList (Text.lower name.chars))
    (name.start - 1) state
  rw [startTag, Token.outlines, ← pairs, ← List.nil_append [_]]
  refine implied.trans ?_
  split
  · exact extends_add _ nofun rfl
  · split
    · exact extends_add _ nofun rfl
    · refine ⟨?_, .inr rfl⟩
      simp [outline, OpenElement.outline]

/-- A comment adds its own node, if comments are kept. -/
theorem extends_addComment (content : Lexeme) (state : Construction) :
    Extends ((Token.comment content).outlines options) state
      (state.addComment source options content) := by
  rw [addComment, Token.outlines]
  split
  · exact extends_add state nofun rfl
  · exact .refl state

/-- A declaration adds its doctype or its comment. -/
theorem extends_addDeclaration (content : Lexeme) (state : Construction) :
    Extends ((Token.declaration content).outlines options) state
      (state.addDeclaration source options content) := by
  rw [addDeclaration, Token.outlines]
  cases Doctype.ofDeclaration? content.chars with
  | some declared => exact extends_add state nofun rfl
  | none => exact extends_addComment source options content state

/-- A token other than a text adds the node that it stands for. -/
theorem extends_take (state : Construction) {token : Token}
    (apart : ∀ content, token ≠ .text content) :
    Extends (token.outlines options) state (state.take source options token) := by
  cases token with
  | text content => exact absurd rfl (apart content)
  | startTag name written selfClosing stop =>
      exact extends_startTag source options name written selfClosing stop state
  | endTag name => exact extends_endTag source options name state
  | namelessEndTag stop => exact extends_report state _ _
  | comment content => exact extends_addComment source options content state
  | declaration content => exact extends_addDeclaration source options content state
  | unfinished construct stop =>
      cases construct with
      | endTag name =>
          exact (extends_endTag source options name state).trans (extends_report _ _ _)
      | _ => exact extends_report state _ _

end

/-- The newest sibling, if a text, is recorded to stop before the offset. -/
def TextBelow (offset : Nat) (state : Construction) : Prop :=
  ∀ content location older, state.siblings = .text content location :: older →
    location.stop.offset < offset

theorem TextBelow.mono {first second : Nat} {state : Construction} (below : state.TextBelow first)
    (less : first ≤ second) : state.TextBelow second :=
  fun content location older newest => (below content location older newest).trans_le less

/-- What adds no text keeps the texts below. -/
theorem TextBelow.extends {added : List Outline} {first second : Construction} {offset : Nat}
    (below : first.TextBelow offset) (step : Extends added first second) :
    second.TextBelow offset := by
  intro content location older newest
  rcases step.newest with same | apart
  · exact below content location older (same.symm.trans newest)
  · rw [endsWithText, newest] at apart
    contradiction

/-- A text behind the end of the last one is its own node. -/
theorem TextBelow.addText {source : Source} {content : Lexeme} {state : Construction}
    (below : state.TextBelow content.start) :
    state.addText source content =
      state.add (.text content.text (source.location content.start content.stop)) := by
  unfold Construction.addText
  split
  · rename_i before location older newest
    rw [if_neg (below before location older newest).ne]
  · rfl

end Construction

theorem Cursor.Reaches.offset_le_size {source : Source} {cursor : Cursor}
    (reached : Cursor.Reaches ⟨0, source.chars⟩ cursor) : cursor.offset ≤ source.size := by
  obtain ⟨before, passes⟩ := reached
  have whole : source.chars = before ++ cursor.rest := passes.rest
  rw [passes.offset, source.size_eq, whole, Text.byteLength_append, Nat.zero_add]
  exact Nat.le_add_right _ _

section

variable {source : Source} {content : Lexeme} {first last : Cursor}

theorem Lexeme.Between.stop_le_size (between : content.Between first last)
    (reached : Cursor.Reaches ⟨0, source.chars⟩ first) : content.stop ≤ source.size := by
  rw [between.stop_eq]
  exact (reached.trans between.2.reaches).offset_le_size

/-- A stretch of the source is located by the positions of its ends. -/
theorem Lexeme.Between.location_eq (between : content.Between first last)
    (reached : Cursor.Reaches ⟨0, source.chars⟩ first) :
    source.location content.start content.stop = ⟨Position.ofOffset source.breaks content.start,
      Position.ofOffset source.breaks content.stop, source.slice content.start content.stop⟩ :=
  source.location_of_le (Nat.le_add_right _ _) (between.stop_le_size reached)

/-- The offsets of what stands in the source are recorded in words. -/
theorem Lexeme.Between.location_start (between : content.Between first last)
    (reached : Cursor.Reaches ⟨0, source.chars⟩ first) :
    (source.location content.start content.stop).start.offset = content.start % Position.wordSize := by
  rw [between.location_eq reached]
  rfl

theorem Lexeme.Between.location_stop (between : content.Between first last)
    (reached : Cursor.Reaches ⟨0, source.chars⟩ first) :
    (source.location content.start content.stop).stop.offset = content.stop % Position.wordSize := by
  rw [between.location_eq reached]
  rfl

end

namespace Construction

/-- The newest sibling is a text that reaches up to the cursor. -/
structure Pending (source : Source) (content : Lexeme) (older : List Node) (cursor : Cursor)
    (state : Construction) : Prop where
  newest : state.siblings =
    .text content.text (source.location content.start content.stop) :: older
  placed : ∃ start, Cursor.Reaches ⟨0, source.chars⟩ start ∧ content.Between start cursor

namespace Pending

variable {source : Source} {content : Lexeme} {older : List Node} {cursor : Cursor}
  {state : Construction}

theorem stop_eq (pending : state.Pending source content older cursor) :
    content.stop = cursor.offset := by
  obtain ⟨start, _, between⟩ := pending.placed
  exact between.stop_eq

theorem reached (pending : state.Pending source content older cursor) :
    Cursor.Reaches ⟨0, source.chars⟩ cursor := by
  obtain ⟨start, reached, between⟩ := pending.placed
  exact reached.trans between.2.reaches

/-- A text that goes on with the newest one stops where both together stop. -/
theorem stop_append (pending : state.Pending source content older cursor) (word : List Char) :
    Lexeme.stop ⟨content.start, content.chars ++ word⟩ = Lexeme.stop ⟨cursor.offset, word⟩ := by
  rw [Lexeme.stop, Lexeme.stop, Text.byteLength_append, ← Nat.add_assoc, ← pending.stop_eq]
  rfl

/-- The offsets of a pending text are kept as words. -/
theorem recorded (pending : state.Pending source content older cursor) :
    (source.location content.start content.stop).start.offset = content.start % Position.wordSize ∧
      (source.location content.start content.stop).stop.offset =
        cursor.offset % Position.wordSize := by
  obtain ⟨start, reached, between⟩ := pending.placed
  rw [← pending.stop_eq]
  exact ⟨between.location_start reached, between.location_stop reached⟩

theorem textBelow (pending : state.Pending source content older cursor) {offset : Nat}
    (less : cursor.offset % Position.wordSize < offset) : state.TextBelow offset := by
  intro other location others newest
  rw [pending.newest] at newest
  obtain ⟨⟨_, rfl⟩, _⟩ : (_ ∧ _ = location) ∧ older = others := by simpa using newest
  rw [pending.recorded.2]
  exact less

/-- A pending text reports its characters once nothing goes on with it. -/
theorem flush (pending : state.Pending source content older cursor) (options : ReadOptions)
    {touches : Nat → Nat → Bool} {later : List Event}
    (ended : ∀ next ∈ later.head?, Event.continues touches (.text content) next = false) :
    state.outline ++ Outline.ofEvents source options touches later =
      (state.withSiblings older).outline ++
        Outline.ofEvents source options touches (.text content :: later) := by
  obtain ⟨start, reached, between⟩ := pending.placed
  have whole : source.slice content.start content.stop = content.text :=
    congrArg String.ofList (between.spanned_eq reached)
  have outline := outline_withSiblings_cons state
    (.text content.text (source.location content.start content.stop)) older
  rw [← pending.newest, withSiblings_siblings] at outline
  rw [outline, Outline.ofEvents_cons source options ended, Outline.ofGroup, Outline.lastStop, whole,
    List.append_assoc]
  rfl

/-- A text that touches the newest one goes on with it. -/
theorem addText (pending : state.Pending source content older cursor) {word : List Char}
    {after : Cursor} (passes : cursor.Passes word after)
    (small : cursor.offset < Position.wordSize) :
    (state.addText source ⟨cursor.offset, word⟩).Pending source
        ⟨content.start, content.chars ++ word⟩ older after ∧
      (state.addText source ⟨cursor.offset, word⟩).withSiblings older = state.withSiblings older := by
  have startSmall : content.start < Position.wordSize := by
    have ordered : content.start ≤ content.stop := Nat.le_add_right _ _
    rw [pending.stop_eq] at ordered
    exact ordered.trans_lt small
  obtain ⟨start, stop⟩ := pending.recorded
  rw [Nat.mod_eq_of_lt startSmall] at start
  rw [Nat.mod_eq_of_lt small] at stop
  have joined : state.addText source ⟨cursor.offset, word⟩ = state.withSiblings
      (.text (Lexeme.text ⟨content.start, content.chars ++ word⟩)
        (source.location content.start (Lexeme.stop ⟨content.start, content.chars ++ word⟩)) ::
          older) := by
    rw [Construction.addText, pending.newest]
    dsimp only
    rw [if_pos stop, start, pending.stop_append, Lexeme.text, Lexeme.text, Lexeme.text,
      String.ofList_append]
  obtain ⟨first, reached, between⟩ := pending.placed
  rw [joined]
  refine ⟨⟨siblings_withSiblings _ _, first, reached, between.1, between.2.trans passes⟩, ?_⟩
  exact withSiblings_withSiblings _ _ _

end Pending

section

variable (source : Source) (options : ReadOptions) (touches : Nat → Nat → Bool)

/-- Takes the tokens of segments one after another. -/
def takeAll (state : Construction) (segments : List Segment) : Construction :=
  (segments.map (·.token)).foldl (take source options) state

/-- Taking segments from the cursor on adds the nodes that their events report. -/
structure Nests (cursor : Cursor) (segments : List Segment) : Prop where
  /-- After a text that stops earlier, or after another node. -/
  apart : ∀ state : Construction, state.TextBelow cursor.offset →
    (takeAll source options state segments).outline =
      state.outline ++ Outline.ofEvents source options touches (segments.flatMap (·.token.events))
  /-- After a text that stops at the cursor, which the next text may go on with. -/
  pending : ∀ (state : Construction) (content : Lexeme) (older : List Node),
    state.Pending source content older cursor →
    (takeAll source options state segments).outline =
      (state.withSiblings older).outline ++
        Outline.ofEvents source options touches (.text content :: segments.flatMap (·.token.events))

end

section

variable {source : Source} {options : ReadOptions} {touches : Nat → Nat → Bool}
  {cursor after : Cursor} {word : List Char} {later : List Segment}

theorem nests_done : Nests source options touches cursor [] where
  apart state _ := (List.append_nil state.outline).symm
  pending state content older pending := by
    have ended : ∀ next ∈ ([] : List Event).head?,
        Event.continues touches (.text content) next = false := nofun
    exact (List.append_nil state.outline).symm.trans (pending.flush options ended)

/-- A text that is added on its own is pending. -/
theorem Pending.of_add (state : Construction) {content : Lexeme}
    (reached : Cursor.Reaches ⟨0, source.chars⟩ cursor) (between : content.Between cursor after) :
    (state.add (.text content.text (source.location content.start content.stop))).Pending source
      content state.siblings after :=
  ⟨siblings_withSiblings _ _, cursor, reached, between⟩

/-- A text on its own is a node with the texts that follow. -/
theorem Nests.addText (nests : Nests source options touches after later)
    (reached : Cursor.Reaches ⟨0, source.chars⟩ cursor) (passes : cursor.Passes word after)
    (state : Construction) (below : state.TextBelow cursor.offset) :
    (takeAll source options (state.addText source ⟨cursor.offset, word⟩) later).outline =
      state.outline ++ Outline.ofEvents source options touches
        (.text ⟨cursor.offset, word⟩ :: later.flatMap (·.token.events)) := by
  have added : state.addText source ⟨cursor.offset, word⟩ = _ := below.addText
  have between : Lexeme.Between ⟨cursor.offset, word⟩ cursor after := ⟨rfl, passes⟩
  have outline := nests.pending _ _ _ (Pending.of_add state reached between)
  rw [add, withSiblings_withSiblings, withSiblings_siblings, ← add, ← added] at outline
  exact outline

/-- Two texts that touch below the size of a word are one node. -/
theorem nests_text
    (faithful : ∀ offset < source.size, touches offset offset = decide (offset < Position.wordSize))
    (reached : Cursor.Reaches ⟨0, source.chars⟩ cursor) (passes : cursor.Passes word after)
    (filled : word ≠ []) (nests : Nests source options touches after later) :
    Nests source options touches cursor
      (⟨⟨cursor.offset, word⟩, .text ⟨cursor.offset, word⟩⟩ :: later) := by
  refine ⟨nests.addText reached passes, ?_⟩
  intro state content older pending
  have within : cursor.offset < source.size := by
    have bound := (reached.trans passes.reaches).offset_le_size
    rw [passes.offset] at bound
    exact (Nat.lt_add_of_pos_right (Text.byteLength_pos filled)).trans_le bound
  have touch := faithful cursor.offset within
  by_cases small : cursor.offset < Position.wordSize
  · obtain ⟨joined, rest⟩ := pending.addText passes small
    have outline := nests.pending _ _ _ joined
    have touching : touches content.stop cursor.offset = true := by
      rw [pending.stop_eq, touch, decide_eq_true small]
    have join : Outline.ofEvents source options touches
        (.text content :: .text ⟨cursor.offset, word⟩ :: later.flatMap (·.token.events)) =
          Outline.ofEvents source options touches
            (.text ⟨content.start, content.chars ++ word⟩ :: later.flatMap (·.token.events)) :=
      Outline.ofEvents_join source options _ touching rfl (pending.stop_append word)
    rw [rest, ← join] at outline
    exact outline
  · -- The recorded offset has lost its high bits, so it lies before the cursor.
    have below : state.TextBelow cursor.offset :=
      pending.textBelow ((Nat.mod_lt _ (by decide)).trans_le (Nat.le_of_not_lt small))
    refine (nests.addText reached passes state below).trans (pending.flush options ?_)
    rintro next ⟨⟩
    rw [Event.continues, pending.stop_eq, touch, decide_eq_false small]

/-- Markup adds its nodes behind those before it. -/
theorem nests_markup {token : Token} (reached : Cursor.Reaches ⟨0, source.chars⟩ cursor)
    (passes : cursor.Passes word after) (filled : word ≠ [])
    (reading : Reading cursor (token, after)) (tiles : after.Tiles later)
    (nests : Nests source options touches after later) :
    Nests source options touches cursor (⟨⟨cursor.offset, word⟩, token⟩ :: later) := by
  have onward : cursor.offset < after.offset := by
    rw [passes.offset]
    exact Nat.lt_add_of_pos_right (Text.byteLength_pos filled)
  have node : ∀ state : Construction, state.TextBelow after.offset →
      (takeAll source options (state.take source options token) later).outline =
        state.outline ++ Outline.ofEvents source options touches
          (token.events ++ later.flatMap (·.token.events)) := by
    intro state below
    have step := extends_take source options state reading.ne_text
    rw [nests.apart _ (below.extends step), step.outline, List.append_assoc,
      reading.ofEvents_eq tiles reached]
  refine ⟨fun state below => node state (below.mono onward.le), ?_⟩
  intro state content older pending
  have below : state.TextBelow after.offset :=
    pending.textBelow ((Nat.mod_le _ _).trans_lt onward)
  refine (node state below).trans (pending.flush options ?_)
  intro next isNext
  obtain ⟨member, begins⟩ := Token.begins_of_head next isNext
  refine Event.not_continues_of_begins touches begins (.inr ?_)
  rintro other rfl
  exact reading.ne_text other (eq_text_of_mem member)

/-- The segments of a source nest in its tree. -/
theorem nests_of_tiles
    (faithful : ∀ offset < source.size, touches offset offset = decide (offset < Position.wordSize))
    {segments : List Segment} (tiles : cursor.Tiles segments)
    (reached : Cursor.Reaches ⟨0, source.chars⟩ cursor) :
    Nests source options touches cursor segments := by
  induction tiles with
  | done _ => exact nests_done
  | text passes filled _ inductionHypothesis =>
      have nests := inductionHypothesis (reached.trans passes.reaches)
      exact nests_text faithful reached passes filled nests
  | @markup cursor after word token later passes opens reading tiles inductionHypothesis =>
      have nests := inductionHypothesis (reached.trans passes.reaches)
      have filled : word ≠ [] := by
        rintro rfl
        contradiction
      exact nests_markup reached passes filled reading tiles nests

theorem openTags_closeUnterminated (stop : Nat) (state : Construction) :
    (state.closeUnterminated source stop).openTags = state.openTags.tail := by
  rcases state with ⟨openElements, roots, diagnostics⟩
  cases openElements with
  | nil => rfl
  | cons element outer =>
      unfold closeUnterminated
      dsimp only
      split <;> exact openTags_withSiblings _ _

/-- No element stays open at the end of a source. -/
theorem openElements_finish (state : Construction) : (state.finish source).openElements = [] := by
  have closes (count : Nat) (state : Construction) :
      (repeated (closeUnterminated source source.size) count state).openTags =
        state.openTags.drop count := by
    induction count generalizing state with
    | zero => rfl
    | succ count inductionHypothesis =>
        rw [repeated, inductionHypothesis, openTags_closeUnterminated, List.drop_tail]
  have all : state.openTags.drop state.openElements.length = [] :=
    List.drop_eq_nil_of_le (List.length_map _).le
  exact List.map_eq_nil_iff.mp ((closes state.openElements.length state).trans all)

/-- The nodes of the finished tree are those of the open one. -/
theorem outline_finish (state : Construction) :
    outlineAll (state.finish source).roots.reverse = state.outline := by
  have finished : Extends [] state (state.finish source) :=
    .repeated (extends_closeUnterminated source source.size) _ state
  have whole := finished.outline
  rw [List.append_nil, outline, openElements_finish, List.reverse_nil, List.flatMap_nil,
    List.append_nil] at whole
  exact whole

end

end Construction

/-- The nodes of a tree are those that its events report. -/
theorem outlineAll_ofSource {source : Source} (options : ReadOptions) {touches : Nat → Nat → Bool}
    (faithful : ∀ offset < source.size, touches offset offset = decide (offset < Position.wordSize)) :
    outlineAll (Document.ofSource source options).nodes =
      Outline.ofEvents source options touches (events source.chars) := by
  have nests : Construction.Nests source options touches ⟨0, source.chars⟩ (segments source.chars) :=
    Construction.nests_of_tiles faithful (tiles_segments source.chars) (.refl _)
  have outline := nests.apart {} nofun
  rw [events_eq, Outline.ofEvents_concat source options _ .finish rfl nofun rfl]
  exact (Construction.outline_finish _).trans outline

/-- The nodes of a tree are those that the events of its source report. -/
theorem outline_ofSource (source : Source) (options : ReadOptions) :
    outlineAll (Document.ofSource source options).nodes =
        Outline.ofEvents source options
          (fun stop start => stop == start && decide (start < Position.wordSize))
          (events source.chars) ∧
      (source.size ≤ Position.wordSize →
        outlineAll (Document.ofSource source options).nodes =
          Outline.ofEvents source options (fun stop start => stop == start)
            (events source.chars)) := by
  refine ⟨outlineAll_ofSource options ?_, fun small => outlineAll_ofSource options ?_⟩
  · intro offset _
    rw [beq_self_eq_true, Bool.true_and]
  · intro offset within
    rw [decide_eq_true (within.trans_le small)]
    exact beq_self_eq_true offset

/-- A list whose items have no end tags, with a text in two parts. -/
theorem outline_unclosedItems :
    (Source.ofString "<ul><LI A=&lt; b>1 < 2<li>3</ul>").size ≤ Position.wordSize ∧
      outlineAll (Document.ofSource (Source.ofString "<ul><LI A=&lt; b>1 < 2<li>3</ul>") {}).nodes =
        [.element "ul" [], .element "li" [("a", "<"), ("b", "")], .text "1 < 2", .element "li" [],
          .text "3"] :=
  ⟨by decide, ((outline_ofSource (Source.ofString "<ul><LI A=&lt; b>1 < 2<li>3</ul>") {}).2
    (by decide)).trans (by decide +kernel)⟩

theorem ne_nil_of_byteLength {word : List Char}
    (length : Text.byteLength word = Position.wordSize) : word ≠ [] := by
  rintro rfl
  contradiction

theorem size_partedText {word : List Char} (length : Text.byteLength word = Position.wordSize) :
    (Source.ofChars (word ++ ['<', ' ', 'b'])).size = Position.wordSize + 3 := by
  rw [Source.size_eq, Source.ofChars, Text.byteLength_append, length]
  rfl

/-- Texts that touch at the size of a word are two nodes. -/
theorem Document.nodes_partedText {word : List Char} (kept : word.all (· != '<') = true)
    (length : Text.byteLength word = Position.wordSize) :
    let source := Source.ofChars (word ++ ['<', ' ', 'b'])
    (Document.ofSource source {}).nodes =
      [.text (String.ofList word) (source.location 0 Position.wordSize),
        .text "< b" (source.location Position.wordSize (Position.wordSize + 3))] := by
  intro source
  have filled := ne_nil_of_byteLength length
  have within : Position.wordSize ≤ source.size := by
    rw [size_partedText length]
    exact Nat.le_add_right _ _
  have recorded : (source.location 0 Position.wordSize).stop.offset = 0 := by
    rw [source.location_of_le (Nat.zero_le _) within]
    exact Nat.mod_self _
  let first : Lexeme := ⟨0, word⟩
  let second : Lexeme := ⟨Position.wordSize, ['<', ' ', 'b']⟩
  have stop : first.stop = Position.wordSize := (Nat.zero_add _).trans length
  have own : Construction.addText source second
      { roots := [.text first.text (source.location first.start first.stop)] } =
        { roots := [.text second.text (source.location second.start second.stop),
            .text first.text (source.location first.start first.stop)] } := by
    have apart : (source.location first.start first.stop).stop.offset ≠ second.start := by
      rw [stop, recorded]
      decide
    simp only [Construction.addText, Construction.siblings, if_neg apart, Construction.add,
      Construction.withSiblings]
  have taken : (tokens source.chars).foldl (Construction.take source {}) {} =
      Construction.addText source second
        { roots := [.text first.text (source.location first.start first.stop)] } := by
    rw [show source.chars = word ++ ['<', ' ', 'b'] from rfl, tokens_partedText filled kept, length]
    rfl
  rw [Document.ofSource, taken, own, stop]
  rfl

/-- Two texts that touch are one run of events. -/
theorem Outline.length_partedText {word : List Char} (filled : word ≠ [])
    (kept : word.all (· != '<') = true) :
    let source := Source.ofChars (word ++ ['<', ' ', 'b'])
    (ofEvents source {} (fun stop start => stop == start) (events source.chars)).length = 1 := by
  intro source
  have chars : source.chars = word ++ ['<', ' ', 'b'] := rfl
  have touch : (Lexeme.stop ⟨0, word⟩ == Text.byteLength word) = true := by
    rw [Lexeme.stop, Nat.zero_add, beq_self_eq_true]
  let whole : Lexeme := ⟨0, word ++ ['<', ' ', 'b']⟩
  have start : whole.start = Lexeme.start ⟨0, word⟩ := rfl
  have stop : whole.stop = Lexeme.stop ⟨Text.byteLength word, ['<', ' ', 'b']⟩ := by
    simp [whole, Lexeme.stop]
  have join : ofEvents source {} (fun stop start => stop == start)
      [.text ⟨0, word⟩, .text ⟨Text.byteLength word, ['<', ' ', 'b']⟩] =
        ofEvents source {} (fun stop start => stop == start) [.text whole] :=
    ofEvents_join source {} [] touch start stop
  rw [events, chars, tokens_partedText filled kept,
    ofEvents_concat source {} _ .finish rfl (by simp) rfl]
  exact congrArg List.length join

theorem all_replicate_plain (count : Nat) : (List.replicate count 'a').all (· != '<') = true := by
  rw [List.all_eq_true]
  intro c member
  rw [List.eq_of_mem_replicate member]
  rfl

theorem byteLength_replicate_plain (count : Nat) :
    Text.byteLength (List.replicate count 'a') = count := by
  have single : ∀ c ∈ List.replicate count 'a', c.utf8Size = 1 := by
    intro c member
    rw [List.eq_of_mem_replicate member]
    rfl
  rw [Text.byteLength_eq_length single, List.length_replicate]

/-- Two texts touch at the size of a word but are two nodes. -/
theorem outline_beyond_word :
    let source := Source.ofChars (List.replicate Position.wordSize 'a' ++ ['<', ' ', 'b'])
    (∃ first second, (Document.ofSource source {}).nodes =
      [.text (String.ofList (List.replicate Position.wordSize 'a')) first, .text "< b" second]) ∧
      (Outline.ofEvents source {} (fun stop start => stop == start)
        (events source.chars)).length = 1 := by
  have kept := all_replicate_plain Position.wordSize
  have length := byteLength_replicate_plain Position.wordSize
  have filled : List.replicate Position.wordSize 'a' ≠ [] := ne_nil_of_byteLength length
  exact ⟨⟨_, _, Document.nodes_partedText kept length⟩, Outline.length_partedText filled kept⟩

end HtmlTemplate.Markup
