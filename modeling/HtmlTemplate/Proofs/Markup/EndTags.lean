/-
This file keeps account of the elements of a source: which of them end tags close, which end without an end
tag of their own, and for which of these a missing end tag is reported.
-/

import HtmlTemplate.Proofs.Markup.Ancestors
import HtmlTemplate.Proofs.Markup.Assembly
import HtmlTemplate.Proofs.Markup.Placement

namespace HtmlTemplate.Markup

open scoped List

/-- The innermost open element of its name that an end tag closes. -/
def Event.closes? (options : ReadOptions) (tree : Construction) : Event → Option OpenElement
  | .endTag name =>
      if options.isVoid name.text then none
      else tree.frames.find? fun element => Text.agree element.tag.toList name.chars
  | _ => none

/-- An end tag closes the innermost element of its name. -/
theorem Event.closes?_endTag (options : ReadOptions) (tree : Construction) (name : Lexeme) :
    Event.closes? options tree (.endTag name) =
      if options.isVoid name.text then none
      else
        (tree.openElements.find? fun element => Text.agree element.tag.toList name.chars).map
          OpenElement.bare := by
  rw [Event.closes?, Construction.frames, List.find?_map]
  rfl

/-- An event inside a tag closes nothing. -/
theorem Event.closes?_of_not_begins {options : ReadOptions} {tree : Construction} {event : Event}
    (inTag : event.begins = false) : event.closes? options tree = none := by
  cases event with
  | endTag name => contradiction
  | _ => rfl

namespace Construction

/-- What an end tag does to a tree, with the element that it closes. -/
inductive EndTagEffect (source : Source) (options : ReadOptions) (name : Lexeme) :
    Option OpenElement → Construction → Construction → Prop where
  | ignored (state : Construction) (void : options.isVoid name.text = true) :
      EndTagEffect source options name none state state
  | rejected (state : Construction) (content : options.isVoid name.text = false)
      (absent : ∀ element ∈ state.openElements, Text.agree element.tag.toList name.chars = false) :
      EndTagEffect source options name none state
        (state.report .invalidEndTag (source.location (name.start - 2) (name.stop + 1)))
  | closed (state : Construction) (inner : List OpenElement) (element : OpenElement)
      (children : List Node) (content : options.isVoid name.text = false)
      (apart : ∀ other ∈ inner, Text.agree other.tag.toList name.chars = false)
      (same : Text.agree element.tag.toList name.chars = true) :
      EndTagEffect source options name (some element.bare)
        { state with openElements := inner ++ element :: state.openElements }
        ({ state with diagnostics := (missingEnds inner).reverse ++ state.diagnostics }.add
          ({ element with children }.node
            (source.location element.location.start.offset (name.stop + 1))))

/-- An end tag does what its effect says. -/
theorem endTag_effect (source : Source) (options : ReadOptions) (name : Lexeme)
    (state : Construction) :
    EndTagEffect source options name (Event.closes? options state (.endTag name)) state
      (state.endTag source options name) := by
  rw [Event.closes?_endTag, endTag]
  cases void : options.isVoid name.text with
  | true => exact .ignored state void
  | false =>
      rcases state with ⟨openElements, roots, diagnostics⟩
      dsimp only
      cases found : openElements.find? fun element => Text.agree element.tag.toList name.chars with
      | none =>
          have absent : ∀ element ∈ openElements,
              Text.agree element.tag.toList name.chars = false := by
            simpa using List.find?_eq_none.mp found
          rw [List.findIdx?_eq_none_iff.mpr absent]
          exact .rejected ⟨openElements, roots, diagnostics⟩ void absent
      | some element =>
          obtain ⟨same, inner, outer, rfl, others⟩ := List.find?_eq_some_iff_append.mp found
          have apart : ∀ other ∈ inner, Text.agree other.tag.toList name.chars = false := by
            simpa using others
          have index : (inner ++ element :: outer).findIdx?
              (fun other => Text.agree other.tag.toList name.chars) = some inner.length := by
            rw [List.findIdx?_append, List.findIdx?_eq_none_iff.mpr apart, List.findIdx?_cons, same]
            simp
          obtain ⟨children, unwound⟩ := repeated_closeUnterminated_inside source (name.start - 2)
            inner ⟨outer, roots, diagnostics⟩ element
          dsimp only at unwound
          rw [index]
          dsimp only
          rw [unwound]
          exact .closed ⟨outer, roots, diagnostics⟩ inner element children void apart same

end Construction

/-- The elements that the start tags among the tokens open. -/
def openings (source : Source) (options : ReadOptions) (tokens : List Token) : List OpenElement :=
  tokens.filterMap (Token.opens? source options)

theorem openings_cons (source : Source) (options : ReadOptions) (token : Token)
    (later : List Token) :
    openings source options (token :: later) =
      (token.opens? source options).toList ++ openings source options later := by
  rw [openings, List.filterMap_cons]
  cases token.opens? source options <;> rfl

/-- The elements that end tags close while the events are heard. -/
def closings (source : Source) (options : ReadOptions) : Assembly → List Event → List OpenElement
  | _, [] => []
  | state, event :: later =>
      (event.closes? options state.tree).toList ++
        match Assembly.hear source options state event with
        | none => []
        | some next => closings source options next later

section

variable (source : Source) (options : ReadOptions)

/-- What events in a row close, they close in a row. -/
theorem closings_append {state next : Assembly} {first : List Event}
    (heard : Assembly.hearAll source options state first = some next) (later : List Event) :
    closings source options state (first ++ later) =
      closings source options state first ++ closings source options next later := by
  induction first generalizing state with
  | nil =>
      obtain rfl := Option.some.inj heard
      rfl
  | cons event rest inductionHypothesis =>
      rw [Assembly.hearAll_cons] at heard
      obtain ⟨middle, heardEvent, heardRest⟩ := Option.bind_eq_some_iff.mp heard
      rw [List.cons_append, closings, closings, heardEvent, List.append_assoc]
      exact congrArg _ (inductionHypothesis heardRest)

/-- Events that close nothing leave nothing closed. -/
theorem closings_eq_nil {events : List Event}
    (none : ∀ event ∈ events, ∀ tree, event.closes? options tree = none) (state : Assembly) :
    closings source options state events = [] := by
  induction events generalizing state with
  | nil => rfl
  | cons event rest inductionHypothesis =>
      obtain ⟨here, others⟩ := List.forall_mem_cons.mp none
      rw [closings, here]
      cases Assembly.hear source options state event with
      | none => rfl
      | some next => exact inductionHypothesis others next

/-- The parts of a start tag close nothing. -/
theorem closings_attributes (name : Lexeme) (written : List AttributeToken) {last : List Event}
    (none : ∀ event ∈ last, ∀ tree, event.closes? options tree = none) (state : Assembly) :
    closings source options state (.startTag name :: written.flatMap (·.events) ++ last) = [] := by
  apply closings_eq_nil
  intro event member tree
  rcases List.mem_append.mp member with inTag | isLast
  · rcases List.mem_cons.mp inTag with rfl | inAttributes
    · rfl
    · exact Event.closes?_of_not_begins (not_begins_of_mem inAttributes)
  · exact none event isLast tree

end

/-- The faults that report a missing end tag. -/
def reportedMissing (faults : List Diagnostic) : List Diagnostic :=
  faults.filter fun fault => fault.code == .missingEndTag

/-- The faults of missing end tags are all of that code. -/
theorem reportedMissing_missingEnds (elements : List OpenElement) :
    reportedMissing (missingEnds elements).reverse = (missingEnds elements).reverse := by
  apply List.filter_eq_self.mpr
  intro fault member
  rw [code_of_mem_missingEnds (List.mem_reverse.mp member)]
  rfl

namespace Construction

/-- Every element is closed by an end tag, lapses without one, or stays open. -/
def Accounts (opened closed : List OpenElement) (first second : Construction) : Prop :=
  ∃ lapsed, first.frames ++ opened ~ closed ++ lapsed ++ second.frames ∧
    reportedMissing second.diagnostics ~ missingEnds lapsed ++ reportedMissing first.diagnostics

namespace Accounts

/-- A step that changes neither stack nor faults needs no account. -/
theorem of_same {first second : Construction} (frames : second.frames = first.frames)
    (missing : reportedMissing second.diagnostics = reportedMissing first.diagnostics) :
    Accounts [] [] first second := by
  refine ⟨[], ?_, ?_⟩
  · rw [frames, List.append_nil]
    exact .refl _
  · rw [missing]
    exact .refl _

theorem of_withSiblings {first second : Construction}
    (gathered : ∃ nodes, second = first.withSiblings nodes) : Accounts [] [] first second := by
  obtain ⟨nodes, rfl⟩ := gathered
  exact .of_same (frames_withSiblings first nodes)
    (congrArg reportedMissing (diagnostics_withSiblings first nodes))

/-- Accounts in a row are one account. -/
theorem trans {opened moreOpened closed moreClosed : List OpenElement}
    {first second third : Construction} (account : Accounts opened closed first second)
    (later : Accounts moreOpened moreClosed second third) :
    Accounts (opened ++ moreOpened) (closed ++ moreClosed) first third := by
  obtain ⟨lapsed, frames, missing⟩ := account
  obtain ⟨moreLapsed, moreFrames, moreMissing⟩ := later
  refine ⟨lapsed ++ moreLapsed, ?_, ?_⟩
  -- Only what lapsed on the first way and what is closed on the second change places.
  · calc first.frames ++ (opened ++ moreOpened)
      _ = first.frames ++ opened ++ moreOpened := (List.append_assoc _ _ _).symm
      _ ~ closed ++ lapsed ++ second.frames ++ moreOpened := frames.append_right _
      _ = closed ++ lapsed ++ (second.frames ++ moreOpened) := List.append_assoc _ _ _
      _ ~ closed ++ lapsed ++ (moreClosed ++ moreLapsed ++ third.frames) :=
          moreFrames.append_left _
      _ = closed ++ (lapsed ++ moreClosed) ++ (moreLapsed ++ third.frames) := by
          simp only [List.append_assoc]
      _ ~ closed ++ (moreClosed ++ lapsed) ++ (moreLapsed ++ third.frames) :=
          (List.perm_append_comm.append_left _).append_right _
      _ = closed ++ moreClosed ++ (lapsed ++ moreLapsed) ++ third.frames := by
          simp only [List.append_assoc]
  · calc reportedMissing third.diagnostics
      _ ~ missingEnds moreLapsed ++ reportedMissing second.diagnostics := moreMissing
      _ ~ missingEnds moreLapsed ++ (missingEnds lapsed ++ reportedMissing first.diagnostics) :=
          missing.append_left _
      _ = missingEnds moreLapsed ++ missingEnds lapsed ++ reportedMissing first.diagnostics :=
          (List.append_assoc _ _ _).symm
      _ ~ missingEnds lapsed ++ missingEnds moreLapsed ++ reportedMissing first.diagnostics :=
          List.perm_append_comm.append_right _
      _ = missingEnds (lapsed ++ moreLapsed) ++ reportedMissing first.diagnostics := by
          rw [missingEnds_append]

end Accounts

/-- The effect of an end tag accounts for what it closes. -/
theorem EndTagEffect.accounts {source : Source} {options : ReadOptions} {name : Lexeme}
    {closed : Option OpenElement} {first second : Construction}
    (effect : EndTagEffect source options name closed first second) :
    Accounts [] closed.toList first second := by
  cases effect with
  | ignored => exact .of_same rfl rfl
  | rejected => exact .of_same rfl rfl
  | closed state inner element children content apart same =>
      refine ⟨inner.map OpenElement.bare, ?_, ?_⟩
      · rw [frames_add, List.append_nil, frames, List.map_append, List.map_cons]
        exact List.perm_middle
      · rw [diagnostics_add, reportedMissing, List.filter_append, ← reportedMissing,
          reportedMissing_missingEnds, missingEnds_map_bare]
        exact (List.reverse_perm _).append_right _

section

variable (source : Source) (options : ReadOptions)

/-- A text changes only the newest siblings. -/
theorem exists_withSiblings_addText (content : Lexeme) (state : Construction) :
    ∃ nodes, state.addText source content = state.withSiblings nodes := by
  unfold addText
  split
  · split
    · exact ⟨_, rfl⟩
    · exact ⟨_, rfl⟩
  · exact ⟨_, rfl⟩

theorem exists_withSiblings_addComment (content : Lexeme) (state : Construction) :
    ∃ nodes, state.addComment source options content = state.withSiblings nodes := by
  unfold addComment
  split
  · exact ⟨_, rfl⟩
  · exact ⟨_, state.withSiblings_siblings.symm⟩

theorem exists_withSiblings_addDeclaration (content : Lexeme) (state : Construction) :
    ∃ nodes, state.addDeclaration source options content = state.withSiblings nodes := by
  unfold addDeclaration
  split
  · exact ⟨_, rfl⟩
  · exact exists_withSiblings_addComment source options content state

/-- The elements that a start tag ends may all leave out their end tags. -/
theorem accounts_startTag (name : Lexeme) (written : List AttributeToken) (selfClosing : Bool)
    (stop : Nat) (state : Construction) :
    Accounts ((Token.startTag name written selfClosing stop).opens? source options).toList [] state
      (state.startTag source options name written selfClosing stop) := by
  let count := state.impliedEnds (String.ofList (Text.lower name.chars))
  let opened := ((Token.startTag name written selfClosing stop).opens? source options).toList
  refine ⟨state.frames.take count, ?_, ?_⟩
  · rw [frames_startTag, List.nil_append]
    calc state.frames ++ opened
      _ = state.frames.take count ++ (state.frames.drop count ++ opened) := by
          rw [← List.append_assoc, List.take_append_drop]
      _ ~ state.frames.take count ++ (opened ++ state.frames.drop count) :=
          List.perm_append_comm.append_left _
  · rw [diagnostics_startTag, missingEnds_impliedEnds]
    exact .refl _

/-- Every token keeps account of the elements. -/
theorem accounts_take (state : Assembly) (token : Token) :
    Accounts (token.opens? source options).toList (closings source options state token.events)
      state.tree (state.tree.take source options token) := by
  cases token with
  | text content => exact .of_withSiblings (exists_withSiblings_addText source content state.tree)
  | comment content =>
      exact .of_withSiblings (exists_withSiblings_addComment source options content state.tree)
  | declaration content =>
      exact .of_withSiblings (exists_withSiblings_addDeclaration source options content state.tree)
  | startTag name written selfClosing stop =>
      rw [Token.events, closings_attributes source options name written
        (by cases selfClosing <;> simp [Event.closes?])]
      exact accounts_startTag source options name written selfClosing stop state.tree
  | endTag name =>
      exact (endTag_effect source options name state.tree).accounts.trans (.of_same rfl rfl)
  | namelessEndTag stop => exact .of_same rfl rfl
  | unfinished construct stop =>
      cases construct with
      | startTag name written cut =>
          rw [Token.events, Unfinished.events, List.append_assoc,
            closings_attributes source options name written
              (by cases cut <;> simp [Event.closes?, Unfinished.code])]
          exact .of_same rfl rfl
      | endTag name =>
          exact (endTag_effect source options name state.tree).accounts.trans (.of_same rfl rfl)
      | tag => exact .of_same rfl rfl
      | comment => exact .of_same rfl rfl
      | declaration => exact .of_same rfl rfl

/-- All tokens account for what they open and close. -/
theorem accounts_takeAll (state : Assembly) (tokens : List Token) :
    Accounts (openings source options tokens)
      (closings source options state (tokens.flatMap Token.events)) state.tree
      (tokens.foldl (take source options) state.tree) := by
  induction tokens generalizing state with
  | nil => exact .of_same rfl rfl
  | cons token later inductionHypothesis =>
      obtain ⟨tag, pending, heard⟩ := Assembly.hearAll_token source options state token
      rw [openings_cons, List.flatMap_cons, closings_append source options heard]
      exact (accounts_take source options state token).trans (inductionHypothesis ⟨_, tag, pending⟩)

/-- At the end of the source all open elements lapse. -/
theorem accounts_finish (state : Construction) : Accounts [] [] state (state.finish source) := by
  refine ⟨state.frames, ?_, ?_⟩
  · rw [frames, frames, openElements_finish, List.append_nil, List.nil_append, List.map_nil,
      List.append_nil]
  · have all : state.frames.take state.openElements.length = state.frames :=
      List.take_of_length_le (List.length_map _).le
    rw [finish, diagnostics_repeated_closeUnterminated, all, reportedMissing, List.filter_append,
      ← reportedMissing, reportedMissing_missingEnds]
    exact (List.reverse_perm _).append_right _

end

end Construction

section

variable (source : Source) (options : ReadOptions)

/-- All events of a source are heard, up to any of them. -/
theorem Assembly.exists_hearAll {earlier later : List Event}
    (split : events source.chars = earlier ++ later) :
    ∃ state, Assembly.hearAll source options {} earlier = some state := by
  obtain ⟨tag, pending, heard⟩ := Assembly.hearAll_tokens source options {} (tokens source.chars)
  have whole : Assembly.hearAll source options {} (events source.chars) =
      some ⟨(tokens source.chars).foldl (Construction.take source options) {}, tag, pending⟩ := by
    rw [events, Assembly.hearAll_append, heard]
    rfl
  rw [split, Assembly.hearAll_append] at whole
  obtain ⟨state, before, _⟩ := Option.bind_eq_some_iff.mp whole
  exact ⟨state, before⟩

/-- The elements of a source are closed or lapse, and lapses are reported. -/
theorem exists_lapsed :
    ∃ lapsed, openings source options (tokens source.chars) ~
        closings source options {} (events source.chars) ++ lapsed ∧
      reportedMissing (Document.ofSource source options).diagnostics ~ missingEnds lapsed := by
  obtain ⟨tag, pending, heard⟩ := Assembly.hearAll_tokens source options {} (tokens source.chars)
  obtain ⟨lapsed, whole, missing⟩ :=
    (Construction.accounts_takeAll source options {} (tokens source.chars)).trans
      (Construction.accounts_finish source _)
  refine ⟨lapsed, ?_, ?_⟩
  · rw [Construction.frames, Construction.frames, Construction.openElements_finish, List.map_nil,
      List.append_nil, List.append_nil, List.append_nil] at whole
    rw [events, closings_append source options heard]
    simpa [closings, Event.closes?, Assembly.hear] using whole
  · have none : missingEnds lapsed ++ reportedMissing [] = missingEnds lapsed := List.append_nil _
    rw [← none]
    exact ((List.reverse_perm _).filter _).trans missing

end

/-- An element starts with its start tag. -/
theorem Token.start_of_opens? (source : Source) (options : ReadOptions) {token : Token}
    {first last : Cursor} (placed : token.Placed first last) :
    ∀ element ∈ token.opens? source options, element.start = first.offset := by
  intro element opens
  cases token with
  | startTag name written selfClosing stop =>
      obtain ⟨opening, _, bracket, start, _⟩ := placed
      have offset : name.start = first.offset + 1 := start.symm.trans bracket.offset
      simp only [Token.opens?, Option.mem_def, Option.ite_none_left_eq_some,
        Option.some.injEq] at opens
      obtain ⟨_, rfl⟩ := opens
      exact Nat.sub_eq_of_eq_add offset
  | _ => contradiction

/-- An element that is opened is located from its start tag on. -/
theorem Token.location_of_opens? (source : Source) (options : ReadOptions) {token : Token}
    {first last : Cursor} (placed : token.Placed first last) (within : last.offset ≤ source.size) :
    ∀ element ∈ token.opens? source options,
      element.location.start = Position.ofOffset source.breaks element.start := by
  intro element opens
  cases token with
  | startTag name written selfClosing stop =>
      obtain ⟨opening, closing, bracket, start, inner, place, closes, _⟩ := placed
      have stops : last.offset = stop + 1 := by
        rw [closes.offset, place]
        rfl
      have ordered : name.start - 1 ≤ stop + 1 := by
        have onward := inner.offset_le
        omega
      simp only [Token.opens?, Option.mem_def, Option.ite_none_left_eq_some,
        Option.some.injEq] at opens
      obtain ⟨_, rfl⟩ := opens
      simp only [source.location_of_le ordered (stops ▸ within)]
  | _ => contradiction

/-- The elements of a source start one after another. -/
theorem openings_increasing (source : Source) (options : ReadOptions) {cursor : Cursor}
    {segments : List Segment} (lays : cursor.Lays segments) :
    (∀ element ∈ openings source options (segments.map (·.token)),
      cursor.offset ≤ element.start) ∧
      (openings source options (segments.map (·.token))).Pairwise
        fun first second => first.start < second.start := by
  induction lays with
  | done => exact ⟨fun _ absent => absurd absent List.not_mem_nil, .nil⟩
  | @token cursor after word token later passes filled placed lays inductionHypothesis =>
      obtain ⟨above, increasing⟩ := inductionHypothesis
      have onward : cursor.offset < after.offset := passes.offset_lt filled
      have here := Token.start_of_opens? source options placed
      rw [List.map_cons, openings_cons]
      refine ⟨?_, List.pairwise_append.mpr ⟨?_, increasing, ?_⟩⟩
      · intro element member
        rcases List.mem_append.mp member with opens | isLater
        · exact (here element (Option.mem_toList.mp opens)).ge
        · exact Nat.le_trans (Nat.le_of_lt onward) (above element isLater)
      · cases token.opens? source options <;> simp
      · intro element opens other isLater
        rw [here element (Option.mem_toList.mp opens)]
        exact Nat.lt_of_lt_of_le onward (above other isLater)

/-- The elements that lapse are those that are not closed. -/
theorem perm_filter_of_perm {opened closed lapsed : List OpenElement}
    (apart : (opened.map (·.start)).Nodup) (whole : opened ~ closed ++ lapsed) :
    lapsed ~ opened.filter fun element => !(closed.map (·.start)).contains element.start := by
  -- Starts tell elements apart, so that nothing that lapses has the start of something closed.
  have distinct := (whole.map (·.start)).nodup apart
  rw [List.map_append, List.nodup_append] at distinct
  obtain ⟨_, _, disjoint⟩ := distinct
  have gone : closed.filter (fun element => !(closed.map (·.start)).contains element.start) = [] := by
    rw [List.filter_eq_nil_iff]
    intro element member
    simpa using ⟨element, member, rfl⟩
  have kept : lapsed.filter (fun element => !(closed.map (·.start)).contains element.start) =
      lapsed := by
    rw [List.filter_eq_self]
    intro element member
    simpa using fun other isClosed same =>
      disjoint _ (List.mem_map_of_mem isClosed) _ (List.mem_map_of_mem member) same
  have filtered := whole.filter fun element => !(closed.map (·.start)).contains element.start
  rw [List.filter_append, gone, kept, List.nil_append] at filtered
  exact filtered.symm

/-- Every element that is opened is in the tree, in order. -/
theorem exists_lineages_takeAll (source : Source) (options : ReadOptions) (tokens : List Token)
    (state : Construction) :
    ∃ added, (tokens.foldl (Construction.take source options) state).lineages =
        state.lineages ++ added ∧
      ((openings source options tokens).map fun element => (element.tag, element.attributes)) <+
        added.map fun lineage => (lineage.tag, lineage.attributes) := by
  induction tokens generalizing state with
  | nil => exact ⟨[], (List.append_nil _).symm, .refl _⟩
  | cons token later inductionHypothesis =>
      obtain ⟨added, whole, inAdded⟩ := inductionHypothesis (state.take source options token)
      refine ⟨(token.lineage? source state).toList ++ added, ?_, ?_⟩
      · rw [List.foldl_cons, whole, Construction.lineages_take, List.append_assoc]
      · rw [openings_cons, List.map_append, List.map_append]
        refine List.Sublist.append ?_ inAdded
        cases token with
        | startTag name written selfClosing stop =>
            unfold Token.opens?
            dsimp only
            split
            · exact List.nil_sublist _
            · exact .refl _
        | _ => exact List.nil_sublist _

/-- Every end tag closes one element or is reported, and no element is closed twice. -/
theorem endTags_accounted (source : Source) (options : ReadOptions) :
    let opened := openings source options (tokens source.chars)
    let closed := closings source options {} (events source.chars)
    let document := Document.ofSource source options
    (∀ earlier name later, events source.chars = earlier ++ .endTag name :: later →
      ∃ before after, Assembly.hearAll source options {} earlier = some before ∧
        Assembly.hear source options before (.endTag name) = some after ∧
        Construction.EndTagEffect source options name
          (Event.closes? options before.tree (.endTag name)) before.tree after.tree) ∧
    (opened.Pairwise fun first second => first.start < second.start) ∧
    (∀ element ∈ closed, element ∈ opened) ∧ (closed.map (·.start)).Nodup ∧
    (document.diagnostics.filter fun fault => fault.code == .missingEndTag) ~
      (opened.filter fun element => !Tag.hasOptionalEnd element.tag &&
        !(closed.map (·.start)).contains element.start).map OpenElement.missingEnd ∧
    (opened.map fun element => (element.tag, element.attributes)) <+
      (lineagesAll [] document.nodes).map fun lineage => (lineage.tag, lineage.attributes) := by
  intro opened closed document
  have increasing : opened.Pairwise fun first second => first.start < second.start :=
    (openings_increasing source options (lays_segmentsFrom ⟨0, source.chars⟩)).2
  have distinct : (opened.map (·.start)).Nodup :=
    List.pairwise_map.mpr (increasing.imp fun less => Nat.ne_of_lt less)
  obtain ⟨lapsed, whole, missing⟩ := exists_lapsed source options
  refine ⟨?_, increasing, ?_, ?_, ?_, ?_⟩
  · intro earlier name later split
    obtain ⟨before, heard⟩ := Assembly.exists_hearAll source options split
    exact ⟨before, _, heard, rfl, Construction.endTag_effect source options name before.tree⟩
  · intro element isClosed
    exact whole.mem_iff.mpr (List.mem_append_left _ isClosed)
  · have apart := (whole.map (·.start)).nodup distinct
    rw [List.map_append] at apart
    exact (List.nodup_append.mp apart).1
  · rw [← List.filter_filter]
    exact missing.trans (((perm_filter_of_perm distinct whole).filter _).map _)
  · obtain ⟨added, lineages, inAdded⟩ :=
      exists_lineages_takeAll source options (tokens source.chars) {}
    have nodes : lineagesAll [] document.nodes = added :=
      (Construction.lineages_finish source _).trans lineages
    rw [nodes]
    exact inAdded

end HtmlTemplate.Markup
