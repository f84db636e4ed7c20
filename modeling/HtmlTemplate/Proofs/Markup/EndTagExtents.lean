/-
This file says how far the locations reach that end tags give. An end tag is located by its name, as if its
marks stood right around the name. So a location leaves out the blanks before the name, and whatever
stands between the name and the closing angle bracket.
-/

import HtmlTemplate.Proofs.Compile.FaultOrder
import HtmlTemplate.Proofs.Markup.ElementStarts
import HtmlTemplate.Proofs.Markup.EndTagSpelling

namespace HtmlTemplate

/-- A position that is the one meant exactly if nothing stands between. -/
structure Position.StandsFor (source : Source) (actual meant : Nat) (between : List Char)
    (position : Position) : Prop where
  place : position = Position.ofOffset source.breaks actual
  meets : actual = meant ↔ between = []
  exact : source.size < Position.wordSize → (position.offset = meant ↔ between = [])

/-- The offset of a position in the source is kept. -/
theorem Position.offset_ofOffset {source : Source} {place : Nat} (within : place ≤ source.size)
    (small : source.size < Position.wordSize) : (Position.ofOffset source.breaks place).offset = place :=
  Nat.mod_eq_of_lt (Nat.lt_of_le_of_lt within small)

/-- Places that meet without characters between stand for each other. -/
theorem Position.StandsFor.of_meets {source : Source} {actual meant : Nat} {between : List Char}
    (meets : actual = meant ↔ between = []) (within : actual ≤ source.size) :
    (Position.ofOffset source.breaks actual).StandsFor source actual meant between := by
  refine ⟨rfl, meets, fun small => ?_⟩
  rw [Position.offset_ofOffset within small]
  exact meets

namespace Markup

namespace Construction

variable {source : Source} {options : ReadOptions}

/-- A fault is reported by a token or at the end of the source. -/
theorem mem_reports_iff {fault : Diagnostic} {tokens : List Token} {state : Construction} :
    fault ∈ (reports source options state tokens).map (·.fault) ↔
      (∃ before token after, tokens = before ++ token :: after ∧
        fault ∈ ((before.foldl (take source options) state).tokenReports source options token).map
          (·.fault)) ∨
      fault ∈ missingEnds (tokens.foldl (take source options) state).frames := by
  induction tokens generalizing state with
  | nil => simp [reports, map_fault_reportsAt]
  | cons token later inductionHypothesis =>
      rw [reports, List.map_append, List.mem_append, inductionHypothesis, ← or_assoc, List.foldl_cons]
      refine or_congr_left ⟨?_, ?_⟩
      · rintro (here | ⟨before, other, after, rfl, found⟩)
        · exact ⟨[], token, later, rfl, here⟩
        · exact ⟨token :: before, other, after, rfl, found⟩
      · rintro ⟨before, other, after, same, found⟩
        cases before with
        | nil =>
            obtain ⟨rfl, rfl⟩ := List.cons.inj same
            exact .inl found
        | cons first others =>
            obtain ⟨rfl, rfl⟩ := List.cons.inj same
            exact .inr ⟨others, other, after, rfl, found⟩

/-- An end tag is invalid exactly if it closes nothing and is not void. -/
theorem invalid_endTagReports_iff {fault : Diagnostic} {name : Lexeme} {state : Construction} :
    (fault ∈ (state.endTagReports source options name).map (·.fault) ∧
        fault.code = .invalidEndTag) ↔
      options.isVoid name.text = false ∧ Event.closes? options state (.endTag name) = none ∧
        fault = faultAt .invalidEndTag (source.location (name.start - 2) (name.stop + 1)) := by
  rw [Event.closes?_endTag, endTagReports]
  cases options.isVoid name.text with
  | true => simp
  | false =>
      cases found : state.openElements.findIdx? fun element =>
          Text.agree element.tag.toList name.chars with
      | none =>
          have absent : (state.openElements.find? fun element =>
              Text.agree element.tag.toList name.chars) = none := by
            rw [List.find?_eq_none]
            simpa using List.findIdx?_eq_none_iff.mp found
          simp +contextual [absent, reportsAt, faultAt]
      | some inner =>
          have present : (state.openElements.find? fun element =>
              Text.agree element.tag.toList name.chars) ≠ none := by
            intro absent
            rw [List.findIdx?_eq_none_iff.mpr (by simpa using absent)] at found
            contradiction
          simp only [map_fault_reportsAt, Bool.false_eq_true, if_false, Option.map_eq_none_iff, present,
            false_and, and_false, iff_false, not_and]
          intro member
          simp [code_of_mem_missingEnds member]

/-- Only an end tag is reported as invalid, complete or not. -/
theorem invalid_tokenReports_iff {fault : Diagnostic} {token : Token} {state : Construction} :
    (fault ∈ (state.tokenReports source options token).map (·.fault) ∧
        fault.code = .invalidEndTag) ↔
      ∃ name, (token = .endTag name ∨ ∃ stop, token = .unfinished (.endTag name) stop) ∧
        options.isVoid name.text = false ∧ Event.closes? options state (.endTag name) = none ∧
        fault = faultAt .invalidEndTag (source.location (name.start - 2) (name.stop + 1)) := by
  have cut (construct : Unfinished) (location : Location) :
      ¬(fault = faultAt construct.code location ∧ fault.code = .invalidEndTag) := by
    rintro ⟨rfl, invalid⟩
    cases construct <;> contradiction
  cases token with
  | endTag name =>
      rw [tokenReports, invalid_endTagReports_iff]
      simp
  | namelessEndTag stop => simp +contextual [tokenReports, reportsAt, faultAt]
  | unfinished construct stop =>
      have here := cut construct (source.location stop (stop + 1))
      cases construct with
      | endTag name =>
          simp only [tokenReports, List.map_append, List.mem_append, map_fault_reportsAt,
            List.mem_singleton, or_and_right, here, or_false, invalid_endTagReports_iff]
          simp
      | _ => simpa [tokenReports, map_fault_reportsAt] using here
  | _ => simp [tokenReports]

end Construction

/-- An end tag is taken that closes the given element, or none. -/
def TakesEndTag (source : Source) (options : ReadOptions) (name : Lexeme)
    (closed : Option OpenElement) : Prop :=
  ∃ before after, tokens source.chars = before ++ .endTag name :: after ∧
    options.isVoid name.text = false ∧
    Event.closes? options (before.foldl (Construction.take source options) {}) (.endTag name) = closed

/-- The segments of a source are cut where its tokens are. -/
theorem exists_segments_of_tokens {chars : List Char} {before after : List Token} {token : Token}
    (split : tokens chars = before ++ token :: after) :
    ∃ earlier piece later, segments chars = earlier ++ piece :: later ∧
      earlier.map (·.token) = before ∧ piece.token = token := by
  obtain ⟨earlier, rest, whole, isBefore, isRest⟩ := List.map_eq_append_iff.mp split
  obtain ⟨piece, later, rfl, isToken, _⟩ := List.map_eq_cons_iff.mp isRest
  exact ⟨earlier, piece, later, whole, isBefore, isToken⟩

/-- The elements that are opened before a token start before it. -/
theorem start_lt_of_mem_openings (source : Source) (options : ReadOptions) {cursor : Cursor}
    {before after : List Segment} {piece : Segment} (lays : cursor.Lays (before ++ piece :: after)) :
    ∃ first last : Cursor, piece.token.Placed first last ∧ cursor.offset ≤ first.offset ∧
      ∀ element ∈ openings source options (before.map (·.token)), element.start < first.offset := by
  induction before generalizing cursor with
  | nil =>
      cases lays with
      | token passes filled placed later =>
          exact ⟨_, _, placed, Nat.le_refl _, List.forall_mem_nil _⟩
  | cons segment others inductionHypothesis =>
      cases lays with
      | token passes filled placed later =>
          obtain ⟨first, last, isPlaced, onward, below⟩ := inductionHypothesis later
          have less := Nat.lt_of_lt_of_le (passes.offset_lt filled) onward
          refine ⟨first, last, isPlaced, Nat.le_of_lt less, ?_⟩
          rw [List.map_cons, openings_cons]
          refine List.forall_mem_append.mpr ⟨fun element opens => ?_, below⟩
          rw [Token.start_of_opens? source options placed element (Option.mem_toList.mp opens)]
          exact less

/-- The elements that are opened are located from their start tags on. -/
theorem location_of_mem_openings (source : Source) (options : ReadOptions) {cursor : Cursor}
    {segments : List Segment} (lays : cursor.Lays segments)
    (within : cursor.finish.offset ≤ source.size) :
    ∀ element ∈ openings source options (segments.map (·.token)),
      element.location.start = Position.ofOffset source.breaks element.start := by
  induction lays with
  | done => exact List.forall_mem_nil _
  | @token cursor after word token later passes _ placed _ inductionHypothesis =>
      rw [← passes.finish_eq] at within
      have onward : after.offset ≤ after.finish.offset := after.passes_finish.reaches.offset_le
      rw [List.map_cons, openings_cons]
      refine List.forall_mem_append.mpr ⟨fun element opens => ?_, inductionHypothesis within⟩
      exact Token.location_of_opens? source options placed (Nat.le_trans onward within) element
        (Option.mem_toList.mp opens)

namespace TakesEndTag

variable {source : Source} {options : ReadOptions} {name : Lexeme} {closed : Option OpenElement}
  {element : OpenElement}

/-- An end tag that is taken is written in the source. -/
theorem exists_written (takes : TakesEndTag source options name closed) :
    Nonempty (WrittenEndTag source.chars name) := by
  obtain ⟨before, after, split, _⟩ := takes
  obtain ⟨earlier, piece, later, whole, _, isEndTag⟩ := exists_segments_of_tokens split
  exact exists_writtenEndTag whole isEndTag

/-- The element that an end tag closes starts before it. -/
theorem start_le (takes : TakesEndTag source options name (some element)) :
    element.start ≤ name.stop + 1 ∧
      element.location.start.offset = element.start % Position.wordSize := by
  obtain ⟨before, after, split, content, closes⟩ := takes
  obtain ⟨earlier, piece, later, whole, rfl, isEndTag⟩ := exists_segments_of_tokens split
  rw [Event.closes?, if_neg (by simp [content])] at closes
  have isOpen := List.mem_of_find?_eq_some closes
  obtain ⟨lapsed, account, _⟩ :=
    Construction.accounts_takeAll source options {} (earlier.map (·.token))
  have isOpened : element ∈ openings source options (earlier.map (·.token)) :=
    account.mem_iff.mpr (List.mem_append_right _ isOpen)
  have lays : Cursor.Lays ⟨0, source.chars⟩ (segments source.chars) := lays_segmentsFrom _
  have located : element.location.start = Position.ofOffset source.breaks element.start := by
    have end_eq : Cursor.finish ⟨0, source.chars⟩ = ⟨source.size, []⟩ := by
      simp [Cursor.finish, Cursor.past, source.size_eq]
    refine location_of_mem_openings source options lays (by rw [end_eq]) element ?_
    rw [whole, List.map_append, openings, List.filterMap_append]
    exact List.mem_append_left _ isOpened
  rw [whole] at lays
  obtain ⟨first, last, placed, _, below⟩ := start_lt_of_mem_openings source options lays
  rw [isEndTag] at placed
  obtain ⟨opening, start, stop, closing, ahead, opens, _, between, _⟩ := placed
  have onward := (ahead.trans opens).offset_le
  have less := below element isOpened
  rw [← between.1] at onward
  refine ⟨?_, congrArg Position.offset located⟩
  rw [Lexeme.stop]
  omega

/-- The element that an end tag closes is in the document. -/
theorem exists_node (takes : TakesEndTag source options name (some element)) :
    ∃ children, { element with children }.node
        (source.location (element.start % Position.wordSize) (name.stop + 1)) ∈
      preorderAll (Document.ofSource source options).nodes := by
  rw [← takes.start_le.2]
  obtain ⟨before, after, split, _, closes⟩ := takes
  obtain ⟨children, holds⟩ := (Construction.endTag_effect source options name
    (before.foldl (Construction.take source options) {})).holds closes
  let state := (before.foldl (Construction.take source options) {}).endTag source options name
  have steps : Construction.Steps options state
      ((after.foldl (Construction.take source options) state).finish source) :=
    (Construction.steps_takeAll source after state).trans (Construction.steps_finish source _)
  have nodes : (Document.ofSource source options).nodes =
      (((tokens source.chars).foldl (Construction.take source options) {}).finish source).roots.reverse :=
    rfl
  refine ⟨children, ?_⟩
  rw [nodes, mem_preorderAll_reverse, split, List.foldl_append, List.foldl_cons]
  rcases holds.steps steps (by simp [OpenElement.node]) with inRoots | ⟨found, isOpen, _⟩
  · exact inRoots
  · rw [Construction.openElements_finish] at isOpen
    contradiction

end TakesEndTag

section

variable {source : Source} {options : ReadOptions}
  (finished : ∀ fault ∈ (Document.ofSource source options).diagnostics, fault.code ≠ .eofInTag)

include finished

/-- If no tag is cut off, every end tag is complete. -/
theorem ne_unfinished_of_mem_tokens {before after : List Token} {token : Token}
    (split : tokens source.chars = before ++ token :: after) (name : Lexeme) (stop : Nat) :
    token ≠ .unfinished (.endTag name) stop := by
  rintro rfl
  refine finished (faultAt .eofInTag (source.location stop (stop + 1))) ?_ rfl
  rw [Document.diagnostics_eq_reports, Construction.mem_reports_iff]
  refine .inl ⟨before, _, after, split, ?_⟩
  rw [Construction.tokenReports, List.map_append, map_fault_reportsAt]
  exact List.mem_append_right _ (List.mem_singleton.mpr rfl)

/-- The end tags that are reported as invalid are those that close nothing. -/
theorem mem_invalid_iff {fault : Diagnostic} :
    (fault ∈ (Document.ofSource source options).diagnostics ∧ fault.code = .invalidEndTag) ↔
      ∃ name, TakesEndTag source options name none ∧
        fault = faultAt .invalidEndTag (source.location (name.start - 2) (name.stop + 1)) := by
  rw [Document.diagnostics_eq_reports, Construction.mem_reports_iff]
  constructor
  · rintro ⟨⟨before, token, after, split, member⟩ | missing, invalid⟩
    · obtain ⟨name, isEndTag | ⟨stop, isCut⟩, content, closes, isFault⟩ :=
        Construction.invalid_tokenReports_iff.mp ⟨member, invalid⟩
      · exact ⟨name, ⟨before, after, isEndTag ▸ split, content, closes⟩, isFault⟩
      · exact absurd isCut (ne_unfinished_of_mem_tokens finished split name stop)
    · rw [code_of_mem_missingEnds missing] at invalid
      contradiction
  · rintro ⟨name, ⟨before, after, split, content, closes⟩, isFault⟩
    obtain ⟨member, invalid⟩ :=
      Construction.invalid_tokenReports_iff.mpr ⟨name, .inl rfl, content, closes, isFault⟩
    exact ⟨.inl ⟨before, _, after, split, member⟩, invalid⟩

end

/-- Elements that end tags close, and invalid end tags, are located by the name. -/
theorem endTag_locations (source : Source) (options : ReadOptions)
    (finished : ∀ fault ∈ (Document.ofSource source options).diagnostics, fault.code ≠ .eofInTag) :
    let document := Document.ofSource source options
    (∀ name element, TakesEndTag source options name (some element) →
      ∃ (tag : WrittenEndTag source.chars name) (children : List Node),
        let location := source.location (element.start % Position.wordSize) (name.stop + 1)
        let node := { element with children }.node location
        node ∈ preorderAll document.nodes ∧
        location.stop.StandsFor source (name.stop + 1) tag.stop tag.extra ∧
        (source.size < Position.wordSize → node.elementStart? = some element.start ∧
          ∀ other ∈ preorderAll document.nodes, other.elementStart? = some element.start →
            other = node)) ∧
    (∀ fault, (fault ∈ document.diagnostics ∧ fault.code = .invalidEndTag) ↔
      ∃ name, TakesEndTag source options name none ∧
        fault = faultAt .invalidEndTag (source.location (name.start - 2) (name.stop + 1))) ∧
    (∀ name, TakesEndTag source options name none →
      ∃ tag : WrittenEndTag source.chars name,
        let location := source.location (name.start - 2) (name.stop + 1)
        location.start.StandsFor source (name.start - 2) tag.start tag.blanks ∧
        location.stop.StandsFor source (name.stop + 1) tag.stop tag.extra) := by
  intro document
  refine ⟨?_, fun fault => mem_invalid_iff finished, ?_⟩
  · intro name element takes
    obtain ⟨tag⟩ := takes.exists_written
    obtain ⟨children, member⟩ := takes.exists_node
    have within : name.stop + 1 ≤ source.size := source.size_eq ▸ tag.nameStop_le
    have starts := takes.start_le.1
    have ends := source.location_of_le (Nat.le_trans (Nat.mod_le _ Position.wordSize) starts) within
    refine ⟨tag, children, member, ?_, fun small => ?_⟩
    · rw [ends]
      exact .of_meets tag.stop_meets within
    · have start : Node.elementStart? ({ element with children }.node
          (source.location (element.start % Position.wordSize) (name.stop + 1))) =
            some element.start := by
        rw [OpenElement.node, Node.elementStart?, ends, Nat.mod_eq_of_lt (by omega),
          Position.offset_ofOffset (starts.trans within) small]
      exact ⟨start, fun other inDocument same =>
        eq_of_elementStart? (Document.starts_increasing small options) inDocument member same start⟩
  · intro name takes
    obtain ⟨tag⟩ := takes.exists_written
    have ordered : name.start - 2 ≤ name.stop + 1 := by
      rw [Lexeme.stop]
      omega
    have within : name.stop + 1 ≤ source.size := source.size_eq ▸ tag.nameStop_le
    rw [source.location_of_le ordered within]
    exact ⟨tag, .of_meets tag.start_meets (ordered.trans within), .of_meets tag.stop_meets within⟩

/-- Both end tags are spelled without blanks, and the second closes nothing. -/
theorem endTag_locations_adjacent :
    let source := Source.ofString "<p>x</p></b>"
    let document := Document.ofSource source {}
    (∀ fault ∈ document.diagnostics, fault.code ≠ .eofInTag) ∧
      (∃ node ∈ preorderAll document.nodes, node.elementStart? = some 0 ∧
        node.location.stop.offset = 8) ∧
      faultAt .invalidEndTag (source.location 8 12) ∈ document.diagnostics := by
  intro source document
  have finished : ∀ fault ∈ document.diagnostics, fault.code ≠ .eofInTag := by decide +kernel
  obtain ⟨elements, faults, _⟩ := endTag_locations source {} finished
  let before : List Token := [.startTag ⟨1, ['p']⟩ [] false 2, .text ⟨3, ['x']⟩]
  have split : tokens source.chars = before ++ [.endTag ⟨6, ['p']⟩, .endTag ⟨10, ['b']⟩] := by
    decide +kernel
  have closes : (Event.closes? {} (before.foldl (Construction.take source {}) {})
      (.endTag ⟨6, ['p']⟩)).map (·.start) = some 0 := by decide +kernel
  obtain ⟨element, closesElement, start⟩ := Option.map_eq_some_iff.mp closes
  obtain ⟨tag, children, member, stands, exact⟩ :=
    elements _ element ⟨before, _, split, by decide +kernel, closesElement⟩
  have small : source.size < Position.wordSize := by decide +kernel
  refine ⟨finished, ⟨_, member, start ▸ (exact small).1, ?_⟩, ?_⟩
  · exact congrArg Position.offset stands.place
  · refine ((faults _).mpr ⟨⟨10, ['b']⟩, ⟨before ++ [.endTag ⟨6, ['p']⟩], [], ?_, ?_, ?_⟩, rfl⟩).1
    · exact split
    · decide +kernel
    · decide +kernel

/-- Blanks around the names shift the ends of both locations. -/
theorem endTag_locations_cut_short :
    let source := Source.ofString "<p>x</p ></ b >"
    let document := Document.ofSource source {}
    (∀ fault ∈ document.diagnostics, fault.code ≠ .eofInTag) ∧
      source.slice 4 9 = "</p >" ∧ source.slice 9 15 = "</ b >" ∧
      (preorderAll document.nodes).map
        (fun node => (node.elementStart?, node.location.stop.offset)) = [(some 0, 8), (none, 4)] ∧
      document.diagnostics.map (fun fault => (fault.code, fault.location)) =
        [(.invalidEndTag, some (source.location 10 14))] := by
  decide +kernel

end Markup

end HtmlTemplate
