/-
This file says what the events of a source promise of its tree: the nodes in the order of the document,
without their places. Texts that touch are one node, and so is a start tag with all its attributes.
-/

import HtmlTemplate.Markup.Tree.Construction
import HtmlTemplate.Proofs.Markup.Guarantees
import HtmlTemplate.Proofs.Markup.Tiling
import Mathlib.Data.List.SplitBy

namespace HtmlTemplate.Markup

/-- A node without its place and its content. -/
inductive Outline where
  | doctype (declared : Doctype)
  | comment (content : String)
  | text (content : String)
  | element (tag : String) (attributes : List (String × String))
  deriving DecidableEq, Repr

def Node.outline : Node → Outline
  | .doctype declared _ => .doctype declared
  | .comment content _ => .comment content
  | .text content _ => .text content
  | .element tag attributes _ _ _ =>
      .element tag (attributes.map fun read => (read.name, read.value))

/-- The nodes of a forest in the order of the document. -/
def outlineAll (nodes : List Node) : List Outline := (preorderAll nodes).map Node.outline

/-- Whether an event goes on with what the event before it reports. -/
def Event.continues (touches : Nat → Nat → Bool) : Event → Event → Bool
  | .text before, .text after => touches before.stop after.start
  | _, .attributeName _ => true
  | _, .value _ => true
  | _, .attributeEnd _ _ => true
  | _, .startTagEnd _ => true
  | _, .selfClosing _ => true
  | _, _ => false

def Event.endsTag : Event → Bool
  | .startTagEnd _ => true
  | .selfClosing _ => true
  | _ => false

/-- The characters of a source that a lexeme spans. -/
def Lexeme.spanned (source : Source) (content : Lexeme) : List Char :=
  Text.sliceBytes source.chars content.start content.stop

namespace Outline

variable (source : Source) (options : ReadOptions)

/-- The name of a tag or an attribute in lower case. -/
def loweredName (name : Lexeme) : String := String.ofList (Text.lower (name.spanned source))

/-- The attributes among the events of a start tag. -/
def ofAttributes : List Event → List (String × String)
  | .attributeName name :: .value content :: .attributeEnd _ _ :: later =>
      (loweredName source name, String.ofList (Reference.decode (content.spanned source))) ::
        ofAttributes later
  | .attributeName name :: .attributeEnd _ _ :: later =>
      (loweredName source name, "") :: ofAttributes later
  | _ => []

/-- Where the last of some texts stops. -/
def lastStop (stop : Nat) : List Event → Nat
  | [] => stop
  | .text content :: later => lastStop content.stop later
  | _ :: _ => stop

def ofComment (content : Lexeme) : List Outline :=
  if options.comments then [.comment (String.ofList (content.spanned source))] else []

/-- The node that a group of events reports, if any. -/
def ofGroup : List Event → List Outline
  | .text first :: later => [.text (source.slice first.start (lastStop first.stop later))]
  | .startTag name :: parts =>
      if parts.any Event.endsTag then
        [.element (loweredName source name) (ofAttributes source parts)]
      else []
  | .comment content :: _ => ofComment source options content
  | .declaration content :: _ =>
      match Doctype.ofDeclaration? (content.spanned source) with
      | some declared => [.doctype declared]
      | none => ofComment source options content
  | _ => []

/-- The nodes that events report, one for each group. -/
def ofEvents (touches : Nat → Nat → Bool) (events : List Event) : List Outline :=
  (events.splitBy (Event.continues touches)).flatMap (ofGroup source options)

end Outline

section

variable (touches : Nat → Nat → Bool)

theorem Event.continues_of_not_begins (first : Event) {second : Event}
    (inside : second.begins = false) : first.continues touches second = true := by
  cases first <;> cases second <;> simp_all [begins, continues]

/-- Only a text continues a text. -/
theorem Event.not_continues_of_begins {first second : Event} (begins : second.begins = true)
    (apart : (∀ content, first ≠ .text content) ∨ ∀ content, second ≠ .text content) :
    first.continues touches second = false := by
  cases first <;> cases second <;> simp_all [Event.begins, continues]

/-- The parts of a start tag continue one another. -/
theorem isChain_of_not_begins (first : Event) {parts : List Event}
    (inside : ∀ event ∈ parts, event.begins = false) :
    (first :: parts).IsChain fun before after => before.continues touches after = true := by
  induction parts generalizing first with
  | nil => exact .singleton first
  | cons part later inductionHypothesis =>
      refine .cons_cons (first.continues_of_not_begins touches (inside part List.mem_cons_self)) ?_
      exact inductionHypothesis part fun event member =>
        inside event (List.mem_cons_of_mem part member)

/-- The events after an event are those that go on, and others. -/
theorem exists_run (first : Event) (later : List Event) :
    ∃ run rest, later = run ++ rest ∧
      (first :: run).IsChain (fun before after => before.continues touches after = true) ∧
      ∀ last ∈ (first :: run).getLast?, ∀ next ∈ rest.head?, last.continues touches next = false := by
  induction later generalizing first with
  | nil => exact ⟨[], [], rfl, .singleton first, fun _ _ _ absent => absurd absent (by simp)⟩
  | cons second later inductionHypothesis =>
      cases goes : first.continues touches second with
      | false =>
          refine ⟨[], second :: later, rfl, .singleton first, ?_⟩
          intro last isLast next isNext
          obtain rfl : first = last := Option.some.inj isLast
          obtain rfl : second = next := Option.some.inj isNext
          exact goes
      | true =>
          obtain ⟨run, rest, rfl, chain, ended⟩ := inductionHypothesis second
          exact ⟨second :: run, rest, rfl, .cons_cons goes chain, ended⟩

namespace Outline

variable (source : Source) (options : ReadOptions) {touches}

/-- A group stands for itself where no event goes on with it. -/
theorem ofEvents_group {group later : List Event} (filled : group ≠ [])
    (chain : group.IsChain fun before after => before.continues touches after = true)
    (ended : ∀ last ∈ group.getLast?, ∀ next ∈ later.head?, last.continues touches next = false) :
    ofEvents source options touches (group ++ later) =
      ofGroup source options group ++ ofEvents source options touches later := by
  rw [ofEvents, List.splitBy_append ended, List.splitBy_of_isChain filled chain]
  rfl

/-- An event that nothing goes on with stands for itself. -/
theorem ofEvents_cons {event : Event} {later : List Event}
    (ended : ∀ next ∈ later.head?, event.continues touches next = false) :
    ofEvents source options touches (event :: later) =
      ofGroup source options [event] ++ ofEvents source options touches later := by
  apply ofEvents_group source options (List.cons_ne_nil event []) (.singleton event)
  intro last isLast
  obtain rfl : event = last := Option.some.inj isLast
  exact ended

/-- Texts that touch report what one text in their place reports. -/
theorem ofEvents_join {first second whole : Lexeme} (later : List Event)
    (touch : touches first.stop second.start = true) (start : whole.start = first.start)
    (stop : whole.stop = second.stop) :
    ofEvents source options touches (.text first :: .text second :: later) =
      ofEvents source options touches (.text whole :: later) := by
  obtain ⟨run, rest, rfl, chain, ended⟩ := exists_run touches (.text second) later
  have goes : Event.continues touches (.text first) (.text second) = true := touch
  have same (next : Event) :
      Event.continues touches (.text whole) next = Event.continues touches (.text second) next := by
    cases next <;> simp [Event.continues, stop]
  have wholeChain : (Event.text whole :: run).IsChain
      fun before after => before.continues touches after = true := by
    obtain ⟨next, chained⟩ := List.isChain_cons.mp chain
    exact List.isChain_cons.mpr ⟨fun event isNext => (same event).trans (next event isNext), chained⟩
  have wholeEnded : ∀ last ∈ (Event.text whole :: run).getLast?, ∀ next ∈ rest.head?,
      last.continues touches next = false := by
    cases run with
    | nil =>
        intro last isLast next isNext
        obtain rfl : Event.text whole = last := Option.some.inj isLast
        exact (same next).trans (ended _ rfl next isNext)
    | cons event others => exact ended
  calc ofEvents source options touches (.text first :: .text second :: (run ++ rest))
      = ofGroup source options (.text first :: .text second :: run) ++
          ofEvents source options touches rest :=
        ofEvents_group source options (List.cons_ne_nil _ _) (.cons_cons goes chain) ended
    _ = ofGroup source options (.text whole :: run) ++ ofEvents source options touches rest := by
        simp only [ofGroup, lastStop, start, stop]
    _ = ofEvents source options touches (.text whole :: (run ++ rest)) :=
        (ofEvents_group source options (List.cons_ne_nil _ _) wholeChain wholeEnded).symm

end Outline

end

/-- All that a token reports stands in the source where it says. -/
def Token.IsSpelled (source : Source) (token : Token) : Prop :=
  ∀ event ∈ token.events, ∀ stretch ∈ event.stretch?, stretch.spanned source = stretch.chars

/-- A stretch of the source has the characters that it spans. -/
theorem Lexeme.Between.spanned_eq {source : Source} {content : Lexeme} {first second : Cursor}
    (reached : Cursor.Reaches ⟨0, source.chars⟩ first) (between : content.Between first second) :
    content.spanned source = content.chars := by
  obtain ⟨before, passes⟩ := reached
  have whole : source.chars = before ++ (content.chars ++ second.rest) := by
    rw [← between.2.rest, ← passes.rest]
  have start : content.start = Text.byteLength before := by
    rw [between.1, passes.offset, Nat.zero_add]
  rw [Lexeme.spanned, Lexeme.stop, whole, start, Text.sliceBytes_append]

/-- What is read is spelled in the source. -/
theorem Reading.isSpelled {source : Source} {cursor : Cursor} {result : Token × Cursor}
    (reading : Reading cursor result) (reached : Cursor.Reaches ⟨0, source.chars⟩ cursor) :
    result.1.IsSpelled source := by
  intro event member stretch named
  obtain ⟨start, stop, reaches, ⟨content, same, between, _⟩, _⟩ := reading.reports.between member
  obtain rfl : content = stretch := Option.some.inj (same.symm.trans named)
  exact between.spanned_eq (reached.trans reaches)

/-- The attribute as a name and a value. -/
def AttributeToken.pair (written : AttributeToken) : String × String :=
  (String.ofList (Text.lower written.name.chars), String.ofList (Reference.decode written.value.chars))

/-- The node that a token stands for, if it stands for one. -/
def Token.outlines (options : ReadOptions) : Token → List Outline
  | .text content => [.text content.text]
  | .startTag name attributes _ _ =>
      [.element (String.ofList (Text.lower name.chars)) (attributes.map AttributeToken.pair)]
  | .comment content => if options.comments then [.comment content.text] else []
  | .declaration content =>
      match Doctype.ofDeclaration? content.chars with
      | some declared => [.doctype declared]
      | none => if options.comments then [.comment content.text] else []
  | _ => []

namespace Outline

section

variable (source : Source) (options : ReadOptions)

/-- The attributes of a start tag are read back from its events. -/
theorem ofAttributes_flatMap {attributes : List AttributeToken} {ending : List Event}
    (ended : ofAttributes source ending = [])
    (spelled : ∀ event ∈ attributes.flatMap (·.events), ∀ stretch ∈ event.stretch?,
      stretch.spanned source = stretch.chars) :
    ofAttributes source (attributes.flatMap (·.events) ++ ending) =
      attributes.map AttributeToken.pair := by
  induction attributes with
  | nil => exact ended
  | cons written later inductionHypothesis =>
      rw [List.flatMap_cons, List.forall_mem_append] at spelled
      have name : written.name.spanned source = written.name.chars :=
        spelled.1 _ List.mem_cons_self _ rfl
      rw [List.flatMap_cons, List.append_assoc, List.map_cons, ← inductionHypothesis spelled.2]
      cases empty : written.value.chars.isEmpty with
      | true =>
          have bare : written.value.chars = [] := List.isEmpty_iff.mp empty
          have nothing : Reference.decode [] = [] := rfl
          simp [AttributeToken.events, AttributeToken.pair, ofAttributes, loweredName, bare, name,
            nothing]
      | false =>
          have value : written.value.spanned source = written.value.chars :=
            spelled.1 (.value written.value) (by simp [AttributeToken.events, empty]) _ rfl
          simp [AttributeToken.events, AttributeToken.pair, ofAttributes, loweredName, empty, name,
            value]

variable {touches : Nat → Nat → Bool}

/-- An event without a node changes nothing at the end. -/
theorem ofEvents_concat (events : List Event) (event : Event) (begins : event.begins = true)
    (apart : ∀ content, event ≠ .text content) (silent : ofGroup source options [event] = []) :
    ofEvents source options touches (events ++ [event]) =
      ofEvents source options touches events := by
  have ended : ∀ last ∈ events.getLast?, last.continues touches event = false :=
    fun _ _ => Event.not_continues_of_begins touches begins (.inr apart)
  have alone : [event].splitBy (Event.continues touches) = [[event]] :=
    List.splitBy_of_isChain (List.cons_ne_nil event []) (.singleton event)
  rw [ofEvents, List.splitBy_append_cons [] ended, List.flatMap_append, alone, List.flatMap_singleton,
    silent, List.append_nil, ofEvents]

/-- The events of attributes do not end their tag. -/
theorem not_endsTag_of_mem {attributes : List AttributeToken} {event : Event}
    (member : event ∈ attributes.flatMap (·.events)) : event.endsTag = false := by
  obtain ⟨written, _, reported⟩ := List.mem_flatMap.mp member
  cases event <;> simp_all [AttributeToken.events, Event.endsTag]

/-- A start tag is one group with all its parts. -/
theorem ofEvents_startTag (name : Lexeme) {parts : List Event}
    (inside : ∀ event ∈ parts, event.begins = false) (later : List Event)
    (begins : ∀ next ∈ later.head?, next.begins = true) :
    ofEvents source options touches (.startTag name :: parts ++ later) =
      ofGroup source options (.startTag name :: parts) ++ ofEvents source options touches later := by
  apply ofEvents_group source options (List.cons_ne_nil _ _)
    (isChain_of_not_begins touches (.startTag name) inside)
  intro last isLast next isNext
  refine Event.not_continues_of_begins touches (begins next isNext) (.inl ?_)
  rintro content rfl
  rcases List.mem_cons.mp (List.mem_of_getLast? isLast) with isName | isPart
  · contradiction
  · exact Bool.noConfusion (inside _ isPart)

/-- A construct that is cut off reports no node. -/
theorem ofEvents_unfinished (construct : Unfinished) :
    ofEvents source options touches construct.events = [] := by
  cases construct with
  | startTag name attributes pending =>
      have inside : ∀ event ∈ attributes.flatMap (·.events) ++ pending.toList.map Event.attributeName,
          event.begins = false ∧ event.endsTag = false := by
        intro event member
        rcases List.mem_append.mp member with isPart | isPending
        · exact ⟨not_begins_of_mem isPart, not_endsTag_of_mem isPart⟩
        · obtain ⟨written, _, rfl⟩ := List.mem_map.mp isPending
          exact ⟨rfl, rfl⟩
      have noEnd : (attributes.flatMap (·.events) ++ pending.toList.map Event.attributeName).any
          Event.endsTag = false :=
        List.any_eq_false.mpr fun event member => Bool.eq_false_iff.mp (inside event member).2
      have tag : ofEvents source options touches _ = _ := ofEvents_startTag source options name
        (fun event member => (inside event member).1) [] (by simp)
      rw [List.append_nil, ofGroup, noEnd] at tag
      exact tag
  | endTag name => rfl
  | _ => rfl

/-- A start tag whose end is reported reports its element. -/
theorem ofEvents_complete {name : Lexeme} {attributes : List AttributeToken} {last : Event}
    {later : List Event} (inside : last.begins = false) (ends : last.endsTag = true)
    (bare : ofAttributes source [last] = [])
    (spelled : ∀ event ∈ Event.startTag name :: attributes.flatMap (·.events) ++ [last],
      ∀ stretch ∈ event.stretch?, stretch.spanned source = stretch.chars)
    (begins : ∀ next ∈ later.head?, next.begins = true) :
    ofEvents source options touches
        (.startTag name :: attributes.flatMap (·.events) ++ [last] ++ later) =
      .element (String.ofList (Text.lower name.chars)) (attributes.map AttributeToken.pair) ::
        ofEvents source options touches later := by
  have parts : ∀ event ∈ attributes.flatMap (·.events) ++ [last], event.begins = false := by
    intro event member
    rcases List.mem_append.mp member with isPart | isLast
    · exact not_begins_of_mem isPart
    · rw [List.mem_singleton.mp isLast]
      exact inside
  have ended : (attributes.flatMap (·.events) ++ [last]).any Event.endsTag = true :=
    List.any_eq_true.mpr ⟨last, List.mem_append_right _ List.mem_cons_self, ends⟩
  have sameName : name.spanned source = name.chars := spelled _ List.mem_cons_self _ rfl
  have sameAttributes : ofAttributes source (attributes.flatMap (·.events) ++ [last]) =
      attributes.map AttributeToken.pair :=
    ofAttributes_flatMap source bare fun event member =>
      spelled event (List.mem_cons_of_mem _ (List.mem_append_left _ member))
  rw [List.cons_append, ofEvents_startTag source options name parts later begins, ofGroup,
    if_pos ended, loweredName, sameName, sameAttributes]
  rfl

/-- A complete construct reports the node that it stands for. -/
theorem ofEvents_closed {token : Token} {later : List Event} (closed : token.isClosed = true)
    (spelled : token.IsSpelled source) (begins : ∀ next ∈ later.head?, next.begins = true) :
    ofEvents source options touches (token.events ++ later) =
      token.outlines options ++ ofEvents source options touches later := by
  have single (event : Event) (isText : ∀ content, event ≠ .text content) :
      ofEvents source options touches (event :: later) =
        ofGroup source options [event] ++ ofEvents source options touches later :=
    ofEvents_cons source options fun next isNext =>
      Event.not_continues_of_begins touches (begins next isNext) (.inl isText)
  cases token with
  | startTag name attributes selfClosing stop =>
      cases selfClosing with
      | false => exact ofEvents_complete source options rfl rfl rfl spelled begins
      | true => exact ofEvents_complete source options rfl rfl rfl spelled begins
  | endTag name => exact single _ (by simp)
  | namelessEndTag stop => exact single _ (by simp)
  | comment content =>
      have same : content.spanned source = content.chars := spelled _ List.mem_cons_self _ rfl
      rw [Token.events, List.singleton_append, single (.comment content) (by simp), ofGroup, ofComment,
        same]
      rfl
  | declaration content =>
      have same : content.spanned source = content.chars := spelled _ List.mem_cons_self _ rfl
      rw [Token.events, List.singleton_append, single (.declaration content) (by simp)]
      simp only [ofGroup, ofComment, same]
      rfl
  | text content => contradiction
  | unfinished construct stop => contradiction

end

end Outline

/-- The first event of a token begins something new. -/
theorem Token.begins_of_head {token : Token} {later : List Event} :
    ∀ next ∈ (token.events ++ later).head?, next ∈ token.events ∧ next.begins = true := by
  intro next isNext
  cases token with
  | unfinished construct stop =>
      cases construct <;> (obtain rfl := Option.some.inj isNext; exact ⟨List.mem_cons_self, rfl⟩)
  | _ =>
      obtain rfl := Option.some.inj isNext
      exact ⟨List.mem_cons_self, rfl⟩

/-- The first event of segments begins something new. -/
theorem begins_of_head {segments : List Segment} :
    ∀ next ∈ (segments.flatMap (·.token.events)).head?, next.begins = true := by
  cases segments with
  | nil => simp
  | cons segment later => exact fun next isNext => (Token.begins_of_head next isNext).2

/-- The events of a construct report the node that it stands for. -/
theorem Reading.ofEvents_eq {source : Source} {cursor after : Cursor} {token : Token}
    {later : List Segment} (reading : Reading cursor (token, after)) (tiles : after.Tiles later)
    (reached : Cursor.Reaches ⟨0, source.chars⟩ cursor) (options : ReadOptions)
    (touches : Nat → Nat → Bool) :
    Outline.ofEvents source options touches (token.events ++ later.flatMap (·.token.events)) =
      token.outlines options ++
        Outline.ofEvents source options touches (later.flatMap (·.token.events)) := by
  rcases reading.ends with ⟨closed, _⟩ | ⟨unfinished, _, ended⟩
  · exact Outline.ofEvents_closed source options closed (reading.isSpelled reached) begins_of_head
  · obtain rfl := tiles.eq_nil ended
    cases token with
    | unfinished construct stop =>
        rw [List.flatMap_nil, List.append_nil, Token.events,
          Outline.ofEvents_concat source options _ (.error construct.code stop) rfl (by simp) rfl,
          Outline.ofEvents_unfinished]
        rfl
    | _ => contradiction

end HtmlTemplate.Markup
