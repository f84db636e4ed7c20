/-
This file says what tags do to the open elements: how far a start tag reaches, which elements an end tag
ends, and which of them are reported because their own end tag is missing.
-/

import HtmlTemplate.Proofs.Markup.Guarantees

namespace HtmlTemplate.Markup

namespace Tag

/-- Whether an open element keeps a start tag from ending others. -/
def ImpliedEnd.bounds (rule : ImpliedEnd) (tag : String) : Bool :=
  rule.scope.contains tag || !hasOptionalEnd tag

/-- The tags before the first one that bounds the rule, the innermost first. -/
def ImpliedEnd.reach (rule : ImpliedEnd) (tags : List String) : List String :=
  tags.takeWhile fun tag => !rule.bounds tag

/-- No element bounds a rule that ends its tag. -/
theorem not_bounds_of_closes {tag : String} {rule : ImpliedEnd} (found : impliedEnd? tag = some rule) :
    ∀ closed ∈ rule.closes, rule.bounds closed = false := by
  unfold impliedEnd? at found
  split at found
  case h_15 =>
    split at found
    · obtain rfl := Option.some.inj found
      decide
    · contradiction
  all_goals
    obtain rfl := Option.some.inj found
    decide

theorem hasOptionalEnd_of_not_bounds {rule : ImpliedEnd} {tag : String}
    (free : rule.bounds tag = false) : hasOptionalEnd tag = true := by
  simp only [ImpliedEnd.bounds, Bool.or_eq_false_iff, Bool.not_eq_false'] at free
  exact free.2

end Tag

/-- The fault of an element whose end tag is missing. -/
def OpenElement.missingEnd (element : OpenElement) : Diagnostic :=
  { code := .missingEndTag, location := some element.location }

/-- The faults of elements that end without an end tag of their own. -/
def missingEnds (elements : List OpenElement) : List Diagnostic :=
  (elements.filter fun element => !Tag.hasOptionalEnd element.tag).map OpenElement.missingEnd

theorem code_of_mem_missingEnds {elements : List OpenElement} {fault : Diagnostic}
    (member : fault ∈ missingEnds elements) : fault.code = .missingEndTag := by
  obtain ⟨element, _, rfl⟩ := List.mem_map.mp member
  rfl

theorem missingEnds_append (first second : List OpenElement) :
    missingEnds (first ++ second) = missingEnds first ++ missingEnds second := by
  rw [missingEnds, List.filter_append, List.map_append]
  rfl

theorem reverse_missingEnds_singleton (element : OpenElement) :
    (missingEnds [element]).reverse = missingEnds [element] := by
  rw [missingEnds, List.filter_cons]
  split <;> rfl

/-- The faults of an element and of those around it, the newest first. -/
theorem reverse_missingEnds_cons (element : OpenElement) (outer : List OpenElement) :
    (missingEnds (element :: outer)).reverse =
      (missingEnds outer).reverse ++ missingEnds [element] := by
  rw [← List.singleton_append, missingEnds_append, List.reverse_append,
    reverse_missingEnds_singleton]

/-- The content of an element does not matter for its fault. -/
theorem missingEnds_map_bare (elements : List OpenElement) :
    missingEnds (elements.map OpenElement.bare) = missingEnds elements := by
  rw [missingEnds, List.filter_map, List.map_map]
  rfl

/-- Elements that may lack their end tags cause no fault. -/
theorem missingEnds_of_optional {elements : List OpenElement}
    (optional : ∀ element ∈ elements, Tag.hasOptionalEnd element.tag = true) :
    missingEnds elements = [] := by
  have none : elements.filter (fun element => !Tag.hasOptionalEnd element.tag) = [] := by
    rw [List.filter_eq_nil_iff]
    intro element member
    simp [optional element member]
  rw [missingEnds, none, List.map_nil]

namespace Construction

/-- The open elements without their content, the innermost first. -/
def frames (state : Construction) : List OpenElement := state.openElements.map OpenElement.bare

theorem openTags_eq_frames (state : Construction) : state.openTags = state.frames.map (·.tag) := by
  rw [frames, List.map_map]
  rfl

@[simp] theorem frames_withSiblings (state : Construction) (nodes : List Node) :
    (state.withSiblings nodes).frames = state.frames := by
  rcases state with ⟨openElements, roots, diagnostics⟩
  cases openElements <;> rfl

@[simp] theorem frames_add (state : Construction) (node : Node) :
    (state.add node).frames = state.frames :=
  frames_withSiblings state _

@[simp] theorem diagnostics_add (state : Construction) (node : Node) :
    (state.add node).diagnostics = state.diagnostics :=
  diagnostics_withSiblings state _

section

variable (source : Source)

/-- Closing the innermost element takes it off the stack. -/
theorem frames_closeInnermost (stop : Option Nat) (state : Construction) :
    (state.closeInnermost source stop).frames = state.frames.tail := by
  rcases state with ⟨openElements, roots, diagnostics⟩
  cases openElements with
  | nil => rfl
  | cons element outer => exact frames_add _ _

theorem diagnostics_closeInnermost (stop : Option Nat) (state : Construction) :
    (state.closeInnermost source stop).diagnostics = state.diagnostics := by
  rcases state with ⟨openElements, roots, diagnostics⟩
  cases openElements with
  | nil => rfl
  | cons element outer => exact diagnostics_add _ _

/-- An element without its end tag is closed, and reported if required. -/
theorem closeUnterminated_inside (stop : Nat) (element : OpenElement) (state : Construction) :
    ∃ location, (inside element state).closeUnterminated source stop =
      { state with diagnostics := missingEnds [element] ++ state.diagnostics }.add
        (element.node location) := by
  unfold closeUnterminated
  dsimp only [inside]
  split
  · rename_i optional
    rw [missingEnds_of_optional (by simpa using optional)]
    exact ⟨_, rfl⟩
  · rename_i required
    have reported : missingEnds [element] = [element.missingEnd] := by
      simp [missingEnds, Bool.eq_false_iff.mpr required]
    rw [reported]
    exact ⟨_, rfl⟩

/-- An element that ends is taken off the stack. -/
theorem frames_closeUnterminated (stop : Nat) (state : Construction) :
    (state.closeUnterminated source stop).frames = state.frames.tail := by
  rcases state with ⟨openElements, roots, diagnostics⟩
  cases openElements with
  | nil => rfl
  | cons element outer =>
      obtain ⟨location, closed⟩ :=
        closeUnterminated_inside source stop element ⟨outer, roots, diagnostics⟩
      rw [show Construction.mk (element :: outer) roots diagnostics =
        inside element ⟨outer, roots, diagnostics⟩ from rfl, closed, frames_add]
      rfl

/-- An element that ends is reported if its end tag is required. -/
theorem diagnostics_closeUnterminated (stop : Nat) (state : Construction) :
    (state.closeUnterminated source stop).diagnostics =
      missingEnds (state.frames.take 1) ++ state.diagnostics := by
  rcases state with ⟨openElements, roots, diagnostics⟩
  cases openElements with
  | nil => rfl
  | cons element outer =>
      obtain ⟨location, closed⟩ :=
        closeUnterminated_inside source stop element ⟨outer, roots, diagnostics⟩
      rw [show Construction.mk (element :: outer) roots diagnostics =
        inside element ⟨outer, roots, diagnostics⟩ from rfl, closed, diagnostics_add]
      exact congrArg (· ++ diagnostics) (missingEnds_map_bare [element]).symm

/-- Steps that take one element off take as many as they are. -/
theorem frames_repeated {change : Construction → Construction}
    (each : ∀ state, (change state).frames = state.frames.tail) (count : Nat) (state : Construction) :
    (repeated change count state).frames = state.frames.drop count := by
  induction count generalizing state with
  | zero => rfl
  | succ count inductionHypothesis => rw [repeated, inductionHypothesis, each, List.drop_tail]

/-- What one change leaves alone, any number of them does. -/
theorem view_repeated {α : Type} {view : Construction → α} {change : Construction → Construction}
    (each : ∀ state, view (change state) = view state) (count : Nat) (state : Construction) :
    view (repeated change count state) = view state := by
  induction count generalizing state with
  | zero => rfl
  | succ count inductionHypothesis => rw [repeated, inductionHypothesis, each]

/-- The faults of elements that end are reported, the outermost last. -/
theorem diagnostics_repeated_closeUnterminated (stop count : Nat) (state : Construction) :
    (repeated (closeUnterminated source stop) count state).diagnostics =
      (missingEnds (state.frames.take count)).reverse ++ state.diagnostics := by
  induction count generalizing state with
  | zero => rfl
  | succ count inductionHypothesis =>
      rw [repeated, inductionHypothesis, frames_closeUnterminated, diagnostics_closeUnterminated]
      cases state.frames with
      | nil => simp [missingEnds]
      | cons element outer =>
          rw [List.take_succ_cons, List.take_succ_cons, List.take_zero, List.tail_cons,
            reverse_missingEnds_cons, List.append_assoc]

/-- The number of open elements that the start of a tag ends. -/
def impliedEnds (tag : String) (state : Construction) : Nat :=
  match Tag.impliedEnd? tag with
  | none => 0
  | some rule => impliedCount rule state.openElements

theorem closeImplied_eq (tag : String) (start : Nat) (state : Construction) :
    state.closeImplied source tag start =
      repeated (closeInnermost source (some start)) (state.impliedEnds tag) state := by
  unfold closeImplied impliedEnds
  cases Tag.impliedEnd? tag <;> rfl

/-- The elements that a start tag ends are taken off. -/
theorem frames_closeImplied (tag : String) (start : Nat) (state : Construction) :
    (state.closeImplied source tag start).frames = state.frames.drop (state.impliedEnds tag) := by
  rw [closeImplied_eq]
  exact frames_repeated (frames_closeInnermost source (some start)) _ state

theorem diagnostics_closeImplied (tag : String) (start : Nat) (state : Construction) :
    (state.closeImplied source tag start).diagnostics = state.diagnostics := by
  rw [closeImplied_eq]
  exact view_repeated (diagnostics_closeInnermost source (some start)) _ state

end

section

variable {rule : Tag.ImpliedEnd}

/-- A rule ends elements within its reach only. -/
theorem not_bounds_of_impliedCount (apart : ∀ closed ∈ rule.closes, rule.bounds closed = false)
    (elements : List OpenElement) :
    ∀ ended ∈ elements.take (impliedCount rule elements), rule.bounds ended.tag = false := by
  induction elements with
  | nil => exact fun _ absent => absurd absent List.not_mem_nil
  | cons element outer inductionHypothesis =>
      unfold impliedCount
      split
      · rename_i closes
        rw [List.take_succ_cons]
        exact List.forall_mem_cons.mpr
          ⟨apart _ (List.contains_iff_mem.mp closes), inductionHypothesis⟩
      · split
        · exact fun _ absent => absurd absent List.not_mem_nil
        · rename_i free
          split
          · exact fun _ absent => absurd absent List.not_mem_nil
          · rename_i count same
            rw [same] at inductionHypothesis
            rw [List.take_succ_cons]
            exact List.forall_mem_cons.mpr ⟨Bool.eq_false_iff.mpr free, inductionHypothesis⟩

/-- A rule leaves nothing within its reach that it ends. -/
theorem not_closes_of_reach (elements : List OpenElement) :
    ∀ tag ∈ rule.reach ((elements.drop (impliedCount rule elements)).map (·.tag)),
      rule.closes.contains tag = false := by
  induction elements with
  | nil => exact fun _ absent => absurd absent List.not_mem_nil
  | cons element outer inductionHypothesis =>
      unfold impliedCount
      split
      · exact inductionHypothesis
      · rename_i kept
        split
        · rename_i bounded
          have none : rule.reach ((element :: outer).map (·.tag)) = [] := by
            have bounds : rule.bounds element.tag = true := bounded
            simp [Tag.ImpliedEnd.reach, bounds]
          rw [List.drop_zero, none]
          exact fun _ absent => absurd absent List.not_mem_nil
        · rename_i free
          have bounds : rule.bounds element.tag = false := Bool.eq_false_iff.mpr free
          split
          · rename_i same
            rw [same, List.drop_zero] at inductionHypothesis
            intro tag member
            rw [List.drop_zero, List.map_cons, Tag.ImpliedEnd.reach,
              List.takeWhile_cons_of_pos (by simp [bounds])] at member
            rcases List.mem_cons.mp member with rfl | inOuter
            · exact Bool.eq_false_iff.mpr kept
            · exact inductionHypothesis tag inOuter
          · rename_i count same
            rw [same] at inductionHypothesis
            exact inductionHypothesis

end

/-- No element that a start tag ends bounds its rule. -/
theorem exists_rule_of_impliedEnds {tag : String} {state : Construction} {ended : OpenElement}
    (member : ended ∈ state.openElements.take (state.impliedEnds tag)) :
    ∃ rule, Tag.impliedEnd? tag = some rule ∧ rule.bounds ended.tag = false := by
  unfold impliedEnds at member
  cases found : Tag.impliedEnd? tag with
  | none =>
      rw [found] at member
      contradiction
  | some rule =>
      rw [found] at member
      exact ⟨rule, rfl, not_bounds_of_impliedCount (Tag.not_bounds_of_closes found) _ ended member⟩

/-- The elements that a start tag ends cause no fault. -/
theorem missingEnds_impliedEnds (tag : String) (state : Construction) :
    missingEnds (state.frames.take (state.impliedEnds tag)) = [] := by
  rw [frames, ← List.map_take, missingEnds_map_bare]
  apply missingEnds_of_optional
  intro element member
  obtain ⟨rule, _, free⟩ := exists_rule_of_impliedEnds member
  exact Tag.hasOptionalEnd_of_not_bounds free

/-- Nothing that a start tag ends is open around its place. -/
theorem not_closes_of_closeImplied (source : Source) {tag : String} {rule : Tag.ImpliedEnd}
    (found : Tag.impliedEnd? tag = some rule) (start : Nat) (state : Construction) :
    ∀ ancestor ∈ rule.reach (state.closeImplied source tag start).openTags,
      rule.closes.contains ancestor = false := by
  have left : (state.closeImplied source tag start).openTags =
      (state.openElements.drop (impliedCount rule state.openElements)).map (·.tag) := by
    rw [openTags_eq_frames, frames_closeImplied, impliedEnds, found, frames, ← List.map_drop,
      List.map_map]
    rfl
  rw [left]
  exact not_closes_of_reach state.openElements

end Construction

/-- The element that a token opens, if it takes content. -/
def Token.opens? (source : Source) (options : ReadOptions) : Token → Option OpenElement
  | .startTag name written selfClosing stop =>
      let tag := String.ofList (Text.lower name.chars)
      if selfClosing || options.isVoid tag then none
      else
        some ⟨name.start - 1, tag, written.map (Construction.attributeOf source),
          source.location (name.start - 1) (stop + 1), []⟩
  | _ => none

namespace Construction

section

variable (source : Source) (options : ReadOptions)

/-- A start tag ends elements from the inside, and then opens its own. -/
theorem frames_startTag (name : Lexeme) (written : List AttributeToken) (selfClosing : Bool)
    (stop : Nat) (state : Construction) :
    (state.startTag source options name written selfClosing stop).frames =
      ((Token.startTag name written selfClosing stop).opens? source options).toList ++
        state.frames.drop (state.impliedEnds (String.ofList (Text.lower name.chars))) := by
  rw [← frames_closeImplied source _ (name.start - 1)]
  unfold startTag Token.opens?
  dsimp only
  cases selfClosing with
  | true => exact frames_add _ _
  | false =>
      cases options.isVoid (String.ofList (Text.lower name.chars)) with
      | true => exact frames_add _ _
      | false => rfl

/-- A start tag causes no fault. -/
theorem diagnostics_startTag (name : Lexeme) (written : List AttributeToken) (selfClosing : Bool)
    (stop : Nat) (state : Construction) :
    (state.startTag source options name written selfClosing stop).diagnostics =
      state.diagnostics := by
  unfold startTag
  dsimp only
  split
  · rw [diagnostics_add, diagnostics_closeImplied]
  · split
    · rw [diagnostics_add, diagnostics_closeImplied]
    · exact diagnostics_closeImplied source _ _ state

/-- The elements inside an open one become part of its content. -/
theorem repeated_closeUnterminated_inside (stop : Nat) (inner : List OpenElement)
    (state : Construction) (element : OpenElement) :
    ∃ content, repeated (closeUnterminated source stop) inner.length
        { state with openElements := inner ++ element :: state.openElements } =
      inside { element with children := content }
        { state with diagnostics := (missingEnds inner).reverse ++ state.diagnostics } := by
  generalize same : inner.length = count
  induction count generalizing inner state element with
  | zero =>
      obtain rfl := List.length_eq_zero_iff.mp same
      exact ⟨element.children, rfl⟩
  | succ count inductionHypothesis =>
      obtain ⟨first, rest, rfl⟩ := List.exists_cons_of_length_eq_add_one same
      obtain ⟨location, closed⟩ := closeUnterminated_inside source stop first
        { state with openElements := rest ++ element :: state.openElements }
      -- The first element becomes the newest child of the next one, which is `element` at the end.
      have step : closeUnterminated source stop
          { state with openElements := first :: rest ++ element :: state.openElements } = _ := closed
      rw [repeated, step, reverse_missingEnds_cons, List.append_assoc]
      cases rest with
      | nil =>
          exact inductionHypothesis []
            { state with diagnostics := missingEnds [first] ++ state.diagnostics }
            { element with children := first.node location :: element.children } (Nat.succ.inj same)
      | cons next others =>
          have sameFaults : missingEnds
              ({ next with children := first.node location :: next.children } :: others) =
                missingEnds (next :: others) := by
            rw [← missingEnds_map_bare, ← missingEnds_map_bare (next :: others)]
            rfl
          rw [← sameFaults]
          exact inductionHypothesis
            ({ next with children := first.node location :: next.children } :: others)
            { state with diagnostics := missingEnds [first] ++ state.diagnostics } element
            (Nat.succ.inj same)

end

end Construction

end HtmlTemplate.Markup
