/-
This file says in which order the faults of markup are reported. They come in the order of the places where
they are found. A missing end tag is found where its element ends without it, and any other fault where it
starts, so that the order of the source is kept unless something is found inside of such an element.
-/

import HtmlTemplate.Proofs.Compile.Outcome
import HtmlTemplate.Proofs.Markup.EndTags
import HtmlTemplate.Proofs.Markup.Located

namespace HtmlTemplate

/-- The offset at which a fault is located to start. -/
def Diagnostic.start (fault : Diagnostic) : Nat :=
  match fault.location with
  | some location => location.start.offset
  | none => 0

/-- Faults in the order of the source. -/
def AreInOrder (faults : List Diagnostic) : Prop :=
  faults.Pairwise fun first second => first.start ≤ second.start

instance (faults : List Diagnostic) : Decidable (AreInOrder faults) :=
  inferInstanceAs (Decidable (faults.Pairwise _))

namespace Markup

/-- A fault with the place at which it is found. -/
structure Report where
  fault : Diagnostic
  place : Nat
  deriving DecidableEq, Repr

namespace Report

/-- A missing end tag is found behind its element, another fault at its start. -/
def IsFound (report : Report) : Prop :=
  report.fault.location.isSome = true ∧
    if report.fault.code = .missingEndTag then report.fault.start < report.place
    else report.fault.start = report.place

/-- The other fault starts after this one and before this one is found. -/
def Encloses (report other : Report) : Prop :=
  report.fault.start < other.fault.start ∧ other.fault.start < report.place

instance (report other : Report) : Decidable (report.Encloses other) :=
  inferInstanceAs (Decidable (_ ∧ _))

end Report

/-- Faults that are all found at one place. -/
def reportsAt (place : Nat) (faults : List Diagnostic) : List Report :=
  faults.map fun fault => ⟨fault, place⟩

/-- The reports of faults at a place carry these faults. -/
theorem map_fault_reportsAt (place : Nat) (faults : List Diagnostic) :
    (reportsAt place faults).map (·.fault) = faults := by
  rw [reportsAt, List.map_map]
  exact List.map_id faults

/-- Going on from a place with open elements to another one, with reports. -/
inductive Finds : Nat × List OpenElement → List Report → Nat × List OpenElement → Prop where
  | done (here : Nat × List OpenElement) : Finds here [] here
  | moved {place later : Nat} {stack : List OpenElement} {reports : List Report}
      {last : Nat × List OpenElement} (onward : place ≤ later)
      (rest : Finds (later, stack) reports last) : Finds (place, stack) reports last
  | opened {place later : Nat} {stack : List OpenElement} {reports : List Report}
      {last : Nat × List OpenElement} (element : OpenElement) (start : element.start = place)
      (located : element.location.start.offset = element.start) (onward : place < later)
      (rest : Finds (later, element :: stack) reports last) : Finds (place, stack) reports last
  | ended {place : Nat} {stack : List OpenElement} {reports : List Report}
      {last : Nat × List OpenElement} (element : OpenElement)
      (rest : Finds (place, stack) reports last) : Finds (place, element :: stack) reports last
  | lapsed {place : Nat} {stack : List OpenElement} {reports : List Report}
      {last : Nat × List OpenElement} (element : OpenElement)
      (rest : Finds (place, stack) reports last) :
      Finds (place, element :: stack) (⟨element.missingEnd, place⟩ :: reports) last
  | found {place : Nat} {stack : List OpenElement} {reports : List Report}
      {last : Nat × List OpenElement} (fault : Diagnostic) (located : fault.location.isSome = true)
      (other : fault.code ≠ .missingEndTag) (start : fault.start = place)
      (rest : Finds (place + 1, stack) reports last) :
      Finds (place, stack) (⟨fault, place⟩ :: reports) last

/-- The open elements start before the place, each inside those around it. -/
structure Nested (here : Nat × List OpenElement) : Prop where
  ordered : here.2.Pairwise fun inner outer => outer.start < inner.start
  located : ∀ element ∈ here.2, element.start < here.1 ∧ element.location.start.offset = element.start

/-- What holds of all reports from a place on. -/
structure AreFound (here : Nat × List OpenElement) (reports : List Report) : Prop where
  onward : ∀ report ∈ reports, here.1 ≤ report.place
  found : ∀ report ∈ reports, report.IsFound
  origin : ∀ report ∈ reports, here.1 ≤ report.fault.start ∨
    ∃ element ∈ here.2, report.fault = element.missingEnd
  places : reports.Pairwise fun first second => first.place ≤ second.place
  behind : reports.Pairwise fun first second => first.fault.start < second.place
  apart : reports.Pairwise fun first second => ¬first.Encloses second

/-- A stack that is nested stays so further on. -/
theorem Nested.mono {place later : Nat} {stack : List OpenElement} (nested : Nested (place, stack))
    (onward : place ≤ later) : Nested (later, stack) :=
  ⟨nested.ordered, fun element member =>
    ⟨(nested.located element member).1.trans_le onward, (nested.located element member).2⟩⟩

/-- A nested stack is nested without its innermost element. -/
theorem Nested.outer {place : Nat} {element : OpenElement} {stack : List OpenElement}
    (nested : Nested (place, element :: stack)) : Nested (place, stack) :=
  ⟨(List.pairwise_cons.mp nested.ordered).2, (List.forall_mem_cons.mp nested.located).2⟩

/-- A start tag nests its element in the stack. -/
theorem Nested.inside {place later : Nat} {element : OpenElement} {stack : List OpenElement}
    (nested : Nested (place, stack)) (start : element.start = place)
    (located : element.location.start.offset = element.start) (onward : place < later) :
    Nested (later, element :: stack) where
  ordered := by
    refine List.pairwise_cons.mpr ⟨fun outer member => ?_, nested.ordered⟩
    rw [start]
    exact (nested.located outer member).1
  located := List.forall_mem_cons.mpr
    ⟨⟨start ▸ onward, located⟩, (nested.mono onward.le).located⟩

theorem OpenElement.start_missingEnd (element : OpenElement) :
    element.missingEnd.start = element.location.start.offset := rfl

namespace AreFound

variable {here next : Nat × List OpenElement} {reports : List Report}

/-- Going back is possible if the later elements were open or start later. -/
theorem back (rest : AreFound next reports) (onward : here.1 ≤ next.1)
    (stack : ∀ element ∈ next.2, element ∈ here.2 ∨ here.1 ≤ element.missingEnd.start) :
    AreFound here reports := by
  refine ⟨fun report member => onward.trans (rest.onward report member), rest.found, ?_, rest.places,
    rest.behind, rest.apart⟩
  intro report member
  rcases rest.origin report member with later | ⟨element, inStack, same⟩
  · exact .inl (onward.trans later)
  · rcases stack element inStack with outer | starts
    · exact .inr ⟨element, outer, same⟩
    · exact .inl (same ▸ starts)

/-- A report before others that are found is found. -/
theorem cons {report : Report} (rest : AreFound here reports) (onward : here.1 ≤ report.place)
    (found : report.IsFound) (origin : here.1 ≤ report.fault.start ∨
      ∃ element ∈ here.2, report.fault = element.missingEnd)
    (places : ∀ other ∈ reports, report.place ≤ other.place)
    (behind : ∀ other ∈ reports, report.fault.start < other.place)
    (apart : ∀ other ∈ reports, ¬report.Encloses other) : AreFound here (report :: reports) :=
  ⟨List.forall_mem_cons.mpr ⟨onward, rest.onward⟩, List.forall_mem_cons.mpr ⟨found, rest.found⟩,
    List.forall_mem_cons.mpr ⟨origin, rest.origin⟩, .cons places rest.places, .cons behind rest.behind,
    .cons apart rest.apart⟩

end AreFound

/-- An element that lapses encloses nothing that is found later. -/
theorem Finds.areFound {first last : Nat × List OpenElement} {reports : List Report}
    (finds : Finds first reports last) (nested : Nested first) : AreFound first reports := by
  induction finds with
  | done here =>
      exact ⟨List.forall_mem_nil _, List.forall_mem_nil _, List.forall_mem_nil _, .nil, .nil, .nil⟩
  | moved onward rest inductionHypothesis =>
      exact (inductionHypothesis (nested.mono onward)).back onward fun _ member => .inl member
  | opened element start located onward rest inductionHypothesis =>
      refine (inductionHypothesis (nested.inside start located onward)).back onward.le ?_
      refine List.forall_mem_cons.mpr ⟨.inr ?_, fun _ member => .inl member⟩
      rw [element.start_missingEnd, located, start]
  | ended element rest inductionHypothesis =>
      exact (inductionHypothesis nested.outer).back (Nat.le_refl _)
        fun _ member => .inl (List.mem_cons_of_mem _ member)
  | lapsed element rest inductionHypothesis =>
      rename_i place stack reports last
      have later := inductionHypothesis nested.outer
      obtain ⟨before, located⟩ := nested.located element List.mem_cons_self
      have start : element.missingEnd.start = element.start := located
      have whole : AreFound (place, element :: stack) reports :=
        later.back (Nat.le_refl _) fun _ member => .inl (List.mem_cons_of_mem _ member)
      refine whole.cons (Nat.le_refl _) ⟨rfl, ?_⟩ (.inr ⟨element, List.mem_cons_self, rfl⟩) later.onward
        ?_ ?_
      · exact start ▸ before
      · intro other member
        exact (start ▸ before).trans_le (later.onward other member)
      · rintro other member ⟨inside, less⟩
        rcases later.origin other member with onward | ⟨outer, inStack, same⟩
        · exact absurd less (Nat.not_lt_of_le onward)
        · have outside := (List.pairwise_cons.mp nested.ordered).1 outer inStack
          have outerStart : outer.missingEnd.start = outer.start :=
            (nested.located outer (List.mem_cons_of_mem _ inStack)).2
          rw [same, start, outerStart] at inside
          exact absurd inside (Nat.lt_asymm outside)
  | found fault located other start rest inductionHypothesis =>
      rename_i place stack reports last
      have later := inductionHypothesis (nested.mono (Nat.le_succ place))
      have whole : AreFound (place, stack) reports :=
        later.back (Nat.le_succ place) fun _ member => .inl member
      refine whole.cons (Nat.le_refl _) ⟨located, ?_⟩ (.inl start.ge) ?_ ?_ ?_
      · rw [if_neg other]
        exact start
      · exact fun other member => (Nat.le_succ place).trans (later.onward other member)
      · intro other member
        exact start ▸ later.onward other member
      · rintro other member ⟨inside, less⟩
        exact absurd less (Nat.lt_asymm (start ▸ inside))

/-- Faults are in the order of the source exactly if none encloses another. -/
theorem AreFound.areInOrder_iff {here : Nat × List OpenElement} {reports : List Report}
    (areFound : AreFound here reports) :
    AreInOrder (reports.map (·.fault)) ↔ ∀ report ∈ reports, ∀ other ∈ reports, ¬report.Encloses other := by
  have inOrder : AreInOrder (reports.map (·.fault)) ↔
      reports.Pairwise fun first second => first.fault.start ≤ second.fault.start := List.pairwise_map
  rw [inOrder]
  constructor
  · intro sorted
    have after : reports.Pairwise fun first second => ¬second.Encloses first :=
      sorted.imp fun ordered encloses => absurd encloses.1 (Nat.not_lt_of_le ordered)
    exact areFound.apart.forall_of_forall_of_flip (fun _ _ encloses => Nat.lt_irrefl _ encloses.1) after
  · intro none
    refine areFound.behind.imp_of_mem fun {first second} inFirst inSecond behind => ?_
    exact Nat.le_of_not_lt fun less => none second inSecond first inFirst ⟨less, behind⟩

/-- Faults other than missing end tags are in the order of the source. -/
theorem AreFound.areInOrder_others {here : Nat × List OpenElement} {reports : List Report}
    (areFound : AreFound here reports) :
    AreInOrder ((reports.map (·.fault)).filter fun fault => fault.code != .missingEndTag) := by
  rw [List.filter_map]
  refine List.pairwise_map.mpr ((areFound.places.filter _).imp_of_mem ?_)
  intro first second inFirst inSecond ordered
  have start : ∀ report ∈ reports.filter (fun report => report.fault.code != .missingEndTag),
      report.fault.start = report.place := by
    intro report member
    obtain ⟨inReports, other⟩ := List.mem_filter.mp member
    have found := (areFound.found report inReports).2
    rwa [if_neg (by simpa using other)] at found
  rw [start first inFirst, start second inSecond]
  exact ordered

/-- What two stretches find, they find together. -/
theorem Finds.trans {first middle last : Nat × List OpenElement} {reports more : List Report}
    (finds : Finds first reports middle) (later : Finds middle more last) :
    Finds first (reports ++ more) last := by
  induction finds with
  | done => exact later
  | moved onward _ inductionHypothesis => exact .moved onward (inductionHypothesis later)
  | opened element start located onward _ inductionHypothesis =>
      exact .opened element start located onward (inductionHypothesis later)
  | ended element _ inductionHypothesis => exact .ended element (inductionHypothesis later)
  | lapsed element _ inductionHypothesis => exact .lapsed element (inductionHypothesis later)
  | found fault located other start _ inductionHypothesis =>
      exact .found fault located other start (inductionHypothesis later)

/-- Elements may end without a report. -/
theorem finds_ended (place : Nat) (gone stack : List OpenElement) :
    Finds (place, gone ++ stack) [] (place, stack) := by
  induction gone with
  | nil => exact .done _
  | cons element others inductionHypothesis => exact .ended element inductionHypothesis

/-- Elements that lapse are reported where their end tags are required. -/
theorem finds_lapsed (place : Nat) (gone stack : List OpenElement) :
    Finds (place, gone ++ stack) (reportsAt place (missingEnds gone)) (place, stack) := by
  induction gone with
  | nil => exact .done _
  | cons element others inductionHypothesis =>
      rw [missingEnds, List.filter_cons]
      split
      · exact .lapsed element inductionHypothesis
      · exact .ended element inductionHypothesis

/-- A fault without a detail, at a location. -/
def faultAt (code : Diagnostic.Code) (location : Location) : Diagnostic :=
  { code, location := some location }

namespace Construction

section

variable (source : Source) (options : ReadOptions)

/-- The reports of an end tag, for lapsed elements or for itself. -/
def endTagReports (name : Lexeme) (state : Construction) : List Report :=
  if options.isVoid name.text then []
  else
    match state.openElements.findIdx? fun element => Text.agree element.tag.toList name.chars with
    | none =>
        reportsAt (name.start - 2)
          [faultAt .invalidEndTag (source.location (name.start - 2) (name.stop + 1))]
    | some inner => reportsAt (name.start - 2) (missingEnds (state.frames.take inner))

/-- What a token reports. -/
def tokenReports (state : Construction) : Token → List Report
  | .endTag name => state.endTagReports source options name
  | .namelessEndTag stop =>
      reportsAt stop [faultAt .missingEndTagName (source.location stop (stop + 1))]
  | .unfinished construct stop =>
      (match construct with
        | .endTag name => state.endTagReports source options name
        | _ => []) ++
      reportsAt stop [faultAt construct.code (source.location stop (stop + 1))]
  | _ => []

/-- The reports of all tokens, and of the end of the source. -/
def reports : Construction → List Token → List Report
  | state, [] => reportsAt (source.size + 1) (missingEnds state.frames)
  | state, token :: later =>
      state.tokenReports source options token ++ reports (state.take source options token) later

/-- An end tag reports what its reports hold. -/
theorem diagnostics_endTag (name : Lexeme) (state : Construction) :
    (state.endTag source options name).diagnostics =
      ((state.endTagReports source options name).map (·.fault)).reverse ++ state.diagnostics := by
  unfold endTag endTagReports
  split
  · rfl
  · cases state.openElements.findIdx? fun element => Text.agree element.tag.toList name.chars with
    | none => rfl
    | some inner =>
        dsimp only
        rw [diagnostics_closeInnermost, diagnostics_repeated_closeUnterminated, map_fault_reportsAt]

/-- The faults of a token are those that it reports. -/
theorem diagnostics_take (state : Construction) (token : Token) :
    (state.take source options token).diagnostics =
      ((state.tokenReports source options token).map (·.fault)).reverse ++ state.diagnostics := by
  have same : ∀ next, (∃ nodes, next = state.withSiblings nodes) → next.diagnostics = state.diagnostics := by
    rintro _ ⟨nodes, rfl⟩
    exact diagnostics_withSiblings state nodes
  cases token with
  | startTag name written selfClosing stop =>
      exact diagnostics_startTag source options name written selfClosing stop state
  | endTag name => exact diagnostics_endTag source options name state
  | unfinished construct stop =>
      cases construct with
      | endTag name =>
          show faultAt _ _ :: (state.endTag source options name).diagnostics = _
          rw [diagnostics_endTag, tokenReports, List.map_append, List.reverse_append]
          rfl
      | _ => rfl
  | text content => exact same _ (exists_withSiblings_addText source content state)
  | comment content => exact same _ (exists_withSiblings_addComment source options content state)
  | declaration content => exact same _ (exists_withSiblings_addDeclaration source options content state)
  | namelessEndTag stop => rfl

/-- The faults of a tree are those of its reports. -/
theorem diagnostics_reports (tokens : List Token) (state : Construction) :
    ((tokens.foldl (take source options) state).finish source).diagnostics =
      ((reports source options state tokens).map (·.fault)).reverse ++ state.diagnostics := by
  induction tokens generalizing state with
  | nil =>
      have all : state.frames.take state.openElements.length = state.frames :=
        List.take_of_length_le (Nat.le_of_eq (List.length_map _))
      rw [List.foldl_nil, finish, diagnostics_repeated_closeUnterminated, all, reports,
        map_fault_reportsAt]
  | cons token later inductionHypothesis =>
      rw [List.foldl_cons, inductionHypothesis, diagnostics_take, reports, List.map_append,
        List.reverse_append, List.append_assoc]

end

section

variable {source : Source} {options : ReadOptions} {first last : Cursor}
  (small : source.size < Position.wordSize) (reached : Cursor.Reaches ⟨0, source.chars⟩ first)

include small reached

/-- A start tag ends elements silently, and then opens its own. -/
theorem finds_startTag {word : List Char} {name : Lexeme} {written : List AttributeToken}
    {selfClosing : Bool} {stop : Nat} (through : first.Passes word last) (filled : word ≠ [])
    (placed : (Token.startTag name written selfClosing stop).Placed first last) (state : Construction) :
    Finds (first.offset, state.frames) []
      (last.offset, (state.startTag source options name written selfClosing stop).frames) := by
  obtain ⟨opening, closing, opens, named, inner, place, closes, _⟩ := placed
  have passes := through.reaches
  have onward := through.offset_lt filled
  have start : name.start - 1 = first.offset :=
    Nat.sub_eq_of_eq_add (named.symm.trans opens.offset)
  have stop : stop + 1 = last.offset := by
    rw [← place]
    exact closes.offset.symm
  have spans := Cursor.Reaches.location_spans small reached passes
  rw [frames_startTag]
  have gone := finds_ended first.offset
    (state.frames.take (state.impliedEnds (String.ofList (Text.lower name.chars))))
    (state.frames.drop (state.impliedEnds (String.ofList (Text.lower name.chars))))
  rw [List.take_append_drop] at gone
  refine gone.trans ?_
  unfold Token.opens?
  dsimp only
  split
  · exact .moved passes.offset_le (.done _)
  · refine .opened _ start ?_ onward (.done _)
    rw [start, stop]
    exact spans.start_eq

/-- An end tag lets elements lapse where it starts, or is reported there. -/
theorem finds_endTag {name : Lexeme} (placed : name.InEndTag first last) (state : Construction) :
    Finds (first.offset, state.frames) (state.endTagReports source options name)
      (last.offset, (state.endTag source options name).frames) := by
  obtain ⟨opening, start, stop, closing, before, opens, offset, between, more, next, rest⟩ := placed
  have onward : opening.Reaches closing := opens.trans (between.2.reaches.trans more)
  have openingOffset : name.start - 2 = opening.offset := by
    rw [between.1, ← offset, Nat.add_sub_cancel]
  have closingOffset : name.stop + 1 = closing.offset := by rw [between.stop_eq, next]
  have beyond : opening.offset + 1 ≤ last.offset := by
    have upTo := (between.2.reaches.trans (more.trans rest)).offset_le
    omega
  have spans := Cursor.Reaches.location_spans small (reached.trans before) onward
  refine .moved before.offset_le ?_
  unfold endTag endTagReports
  rw [openingOffset, closingOffset]
  split
  · exact .moved (Nat.le_of_lt beyond) (.done _)
  · cases state.openElements.findIdx? fun element => Text.agree element.tag.toList name.chars with
    | none => exact .found _ rfl (by simp [faultAt]) spans.start_eq (.moved beyond (.done _))
    | some inner =>
        have lapsed := finds_lapsed opening.offset (state.frames.take inner) (state.frames.drop inner)
        rw [List.take_append_drop] at lapsed
        have frames : ((repeated (closeUnterminated source opening.offset) inner state).closeInnermost
            source (some closing.offset)).frames = (state.frames.drop inner).tail := by
          rw [frames_closeInnermost, frames_repeated (frames_closeUnterminated source opening.offset)]
        have closed : Finds (opening.offset, state.frames.drop inner) []
            (last.offset, (state.frames.drop inner).tail) := by
          cases state.frames.drop inner with
          | nil => exact .moved (Nat.le_of_lt beyond) (.done _)
          | cons element outer => exact .ended element (.moved (Nat.le_of_lt beyond) (.done _))
        dsimp only
        rw [frames, ← List.append_nil (reportsAt _ _)]
        exact lapsed.trans closed

/-- What is cut off by the end of the source is reported there. -/
theorem finds_end (ended : first.rest = []) (construct : Unfinished) (stack : List OpenElement) :
    Finds (first.offset, stack)
      (reportsAt first.offset
        [faultAt construct.code (source.location first.offset (first.offset + 1))])
      (source.size + 1, stack) := by
  have size := reached.offset_eq_size ended
  have start : (faultAt construct.code (source.location first.offset (first.offset + 1))).start =
      first.offset := by
    have spans := Cursor.Reaches.location_spans small reached (.refl first)
    rw [faultAt, Diagnostic.start, size, source.location_end _ (Nat.le_add_right _ 1), ← size]
    exact spans.start_eq
  refine .found _ rfl ?_ start ?_
  · cases construct <;> simp [faultAt, Unfinished.code]
  · rw [size]
    exact .done _

/-- A token finds its reports between its ends. -/
theorem finds_take {word : List Char} {token : Token} (passes : first.Passes word last)
    (filled : word ≠ []) (placed : token.Placed first last) (state : Construction) :
    ∃ place, Finds (first.offset, state.frames) (state.tokenReports source options token)
        (place, (state.take source options token).frames) ∧
      (place ≤ last.offset ∨ last.rest = [] ∧ place ≤ source.size + 1) := by
  have same : ∀ next, (∃ nodes, next = state.withSiblings nodes) →
      Finds (first.offset, state.frames) [] (last.offset, next.frames) := by
    rintro _ ⟨nodes, rfl⟩
    rw [frames_withSiblings]
    exact .moved passes.reaches.offset_le (.done _)
  have upTo : last.offset ≤ last.offset ∨ last.rest = [] ∧ last.offset ≤ source.size + 1 :=
    .inl (Nat.le_refl _)
  cases token with
  | text content => exact ⟨_, same _ (exists_withSiblings_addText source content state), upTo⟩
  | comment content => exact ⟨_, same _ (exists_withSiblings_addComment source options content state), upTo⟩
  | declaration content =>
      exact ⟨_, same _ (exists_withSiblings_addDeclaration source options content state), upTo⟩
  | startTag name written selfClosing stop =>
      exact ⟨_, finds_startTag small reached passes filled placed state, upTo⟩
  | endTag name => exact ⟨_, finds_endTag small reached placed state, upTo⟩
  | namelessEndTag stop =>
      obtain ⟨closing, before, rfl, closes⟩ := placed
      have spans := Cursor.Reaches.location_spans small (reached.trans before) closes.reaches
      rw [closes.offset] at spans
      refine ⟨_, .moved before.offset_le (.found _ rfl (by simp [faultAt]) spans.start_eq (.done _)), .inl ?_⟩
      exact closes.offset_lt (List.cons_ne_nil _ _)
  | unfinished construct stop =>
      obtain ⟨ended, rfl, endTag⟩ := placed
      have cut := finds_end small (reached.trans passes.reaches) ended construct
      refine ⟨source.size + 1, ?_, .inr ⟨ended, Nat.le_refl _⟩⟩
      cases construct with
      | endTag name =>
          exact (finds_endTag small reached (endTag name rfl) state).trans (cut _)
      | _ => exact .moved passes.reaches.offset_le (cut _)

end

/-- All reports are found on the way to the end of the source. -/
theorem finds_reports {source : Source} {options : ReadOptions} (small : source.size < Position.wordSize)
    {cursor : Cursor} {pieces : List Segment} (lays : cursor.Lays pieces)
    (reached : Cursor.Reaches ⟨0, source.chars⟩ cursor) (state : Construction) {place : Nat}
    (before : place ≤ cursor.offset ∨ cursor.rest = [] ∧ place ≤ source.size + 1) :
    Finds (place, state.frames) (reports source options state (pieces.map (·.token)))
      (source.size + 1, []) := by
  induction lays generalizing state place with
  | done ended =>
      have size := reached.offset_eq_size ended
      have lapsed := finds_lapsed (source.size + 1) state.frames []
      rw [List.append_nil] at lapsed
      exact .moved (by omega) lapsed
  | token passes filled placed lays inductionHypothesis =>
      rename_i cursor after word token later
      have upTo : place ≤ cursor.offset := by
        rcases before with upTo | ⟨ended, _⟩
        · exact upTo
        · exact absurd (List.append_eq_nil_iff.mp (passes.rest.symm.trans ended)).1 filled
      obtain ⟨next, finds, onward⟩ := finds_take small reached passes filled placed state
      exact .moved upTo (finds.trans (inductionHypothesis (reached.trans passes.reaches) _ onward))

end Construction

/-- The faults of a document are those that its tokens report, in that order. -/
theorem Document.diagnostics_eq_reports (source : Source) (options : ReadOptions) :
    (Document.ofSource source options).diagnostics =
      (Construction.reports source options {} (tokens source.chars)).map (·.fault) := by
  have all := Construction.diagnostics_reports source options (tokens source.chars) {}
  rw [List.append_nil] at all
  exact (congrArg List.reverse all).trans (List.reverse_reverse _)

/-- All reports of a source are found in order. -/
theorem areFound_reports {source : Source} (small : source.size < Position.wordSize)
    (options : ReadOptions) :
    AreFound (0, []) (Construction.reports source options {} (tokens source.chars)) := by
  have finds : Finds (0, []) (Construction.reports source options {} (tokens source.chars))
      (source.size + 1, []) :=
    Construction.finds_reports small (lays_segmentsFrom ⟨0, source.chars⟩) (.refl _) {}
      (.inl (Nat.zero_le _))
  exact finds.areFound ⟨.nil, List.forall_mem_nil _⟩

end Markup

open Markup

/-- Compiling wrong markup reports its faults by the places where they are found. -/
theorem compile_faults_by_place (options : Options) (name source : String)
    (small : (Source.ofString source).size < Position.wordSize)
    (faulty : (readMarkup source).diagnostics ≠ []) :
    let reports := Construction.reports (Source.ofString source) readOptions {} (tokens source.toList)
    parseTemplate options source = .error ⟨reports.map (·.fault)⟩ ∧
    compile options name source = .error ⟨reports.map (·.fault)⟩ ∧
    (∀ report ∈ reports, report.IsFound) ∧
    (reports.Pairwise fun first second => first.place ≤ second.place) ∧
    AreInOrder ((reports.map (·.fault)).filter fun fault => fault.code != .missingEndTag) ∧
    (AreInOrder (reports.map (·.fault)) ↔
      ∀ report ∈ reports, ∀ other ∈ reports, ¬report.Encloses other) := by
  intro reports
  have areFound : AreFound (0, []) reports := areFound_reports small readOptions
  have faults : (readMarkup source).diagnostics = reports.map (·.fault) :=
    Document.diagnostics_eq_reports (Source.ofString source) readOptions
  have failed := parseTemplate_faulty options faulty
  rw [faults] at failed
  exact ⟨failed, compile_error name failed, areFound.found, areFound.places,
    areFound.areInOrder_others, areFound.areInOrder_iff⟩

/-- An end tag closes nothing, and two elements behind it stay open. -/
theorem compile_faults_by_place_optionalEnd :
    let source := "</a><b><p>x"
    (Source.ofString source).size < Position.wordSize ∧ (readMarkup source).diagnostics ≠ [] ∧
      (Construction.reports (Source.ofString source) readOptions {} (tokens source.toList)).map
        (·.place) = [0, 12] ∧
      ∃ failure, compile {} "page" source = .error failure ∧
        failure.codes = [.invalidEndTag, .missingEndTag] ∧ AreInOrder failure.diagnostics := by
  intro source
  have small : (Source.ofString source).size < Position.wordSize := by decide +kernel
  have faulty : (readMarkup source).diagnostics ≠ [] := by decide +kernel
  obtain ⟨_, failed, _, _, _, ordered⟩ := compile_faults_by_place {} "page" source small faulty
  exact ⟨small, faulty, by decide +kernel, _, failed, by decide +kernel, ordered.mpr (by decide +kernel)⟩

/-- Two elements stay open, and the inner one is reported first. -/
theorem compile_faults_out_of_order :
    ∃ failure, compile {} "page" "<div><span>" = .error failure ∧
      failure.codes = [.missingEndTag, .missingEndTag] ∧
      failure.diagnostics.map Diagnostic.start = [5, 0] ∧ ¬AreInOrder failure.diagnostics := by
  have faulty : (readMarkup "<div><span>").diagnostics ≠ [] := by decide +kernel
  exact ⟨_, compile_error "page" (parseTemplate_faulty {} faulty), by decide +kernel, by decide +kernel,
    by decide +kernel⟩

end HtmlTemplate
