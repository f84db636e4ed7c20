/-
This file describes how a tokenizer moves through a source, and which stretches of it the events name that
it reports on the way.
-/

import HtmlTemplate.Markup.Token.Cursor
import HtmlTemplate.Proofs.Text.Slices

namespace HtmlTemplate.Markup

namespace Cursor

/-- The given characters lead from one cursor to another. -/
structure Passes (first : Cursor) (word : List Char) (second : Cursor) : Prop where
  rest : first.rest = word ++ second.rest
  offset : second.offset = first.offset + Text.byteLength word

theorem Passes.refl (cursor : Cursor) : cursor.Passes [] cursor := ⟨rfl, rfl⟩

/-- Words that are passed one after another are passed together. -/
theorem Passes.trans {first second third : Cursor} {word more : List Char}
    (passes : first.Passes word second) (later : second.Passes more third) :
    first.Passes (word ++ more) third := by
  refine ⟨by rw [passes.rest, later.rest, List.append_assoc], ?_⟩
  rw [later.offset, passes.offset, Text.byteLength_append, Nat.add_assoc]

/-- Skipping passes what is read. -/
theorem passes_skip (cursor : Cursor) (keep : Char → Bool) :
    cursor.Passes (cursor.read keep).chars (cursor.skip keep) :=
  ⟨List.takeWhile_append_dropWhile.symm, rfl⟩

theorem passes_next {cursor : Cursor} {c : Char} {rest : List Char} (same : cursor.rest = c :: rest) :
    cursor.Passes [c] cursor.next := by
  rcases cursor with ⟨offset, chars⟩
  subst same
  exact ⟨rfl, rfl⟩

theorem next_rest {cursor : Cursor} {c : Char} {rest : List Char} (same : cursor.rest = c :: rest) :
    cursor.next.rest = rest :=
  (List.append_cancel_left ((passes_next same).rest.symm.trans same))

theorem passes_next_next {cursor : Cursor} {c d : Char} {rest : List Char}
    (same : cursor.rest = c :: d :: rest) : cursor.Passes [c, d] cursor.next.next :=
  (passes_next same).trans (passes_next (next_rest same))

/-- A name is passed when it is skipped. -/
theorem passes_skipName {cursor : Cursor} (more : cursor.rest ≠ []) (keep : Char → Bool) :
    cursor.Passes (cursor.readName keep).chars (cursor.skipName keep) := by
  rcases cursor with ⟨offset, chars⟩
  cases chars with
  | nil => contradiction
  | cons c rest => exact (passes_next rfl).trans (passes_skip _ keep)

/-- Skipping up to a mark passes what is read. -/
theorem passes_skipUntil (cursor : Cursor) (found : List Char → Bool) :
    cursor.Passes (cursor.readUntil found).chars (cursor.skipUntil found) :=
  ⟨(Text.takeUntil_append_dropUntil found cursor.rest).symm, rfl⟩

/-- The rest of the source is passed at the end. -/
theorem passes_finish (cursor : Cursor) : cursor.Passes cursor.rest cursor.finish :=
  ⟨(List.append_nil _).symm, rfl⟩

/-- The end of the source is the same from everywhere. -/
theorem Passes.finish_eq {first second : Cursor} {word : List Char}
    (passes : first.Passes word second) : second.finish = first.finish := by
  simp only [finish, past, passes.rest, passes.offset, Text.byteLength_append, Nat.add_assoc]

/-- What is not kept ends what is skipped. -/
theorem keep_of_skip_eq_cons {cursor : Cursor} {keep : Char → Bool} {c : Char} {rest : List Char}
    (same : (cursor.skip keep).rest = c :: rest) : keep c = false := by
  have first : (cursor.rest.dropWhile keep).head? = some c := by
    rw [show cursor.rest.dropWhile keep = c :: rest from same]
    rfl
  have stops := List.head?_dropWhile_not keep cursor.rest
  rw [first] at stops
  simpa using stops

/-- One cursor is not behind another in the same source. -/
def Reaches (first second : Cursor) : Prop := ∃ word, first.Passes word second

theorem Reaches.refl (cursor : Cursor) : cursor.Reaches cursor := ⟨[], .refl cursor⟩

theorem Reaches.trans {first second third : Cursor} (reaches : first.Reaches second)
    (later : second.Reaches third) : first.Reaches third := by
  obtain ⟨word, passes⟩ := reaches
  obtain ⟨more, passesMore⟩ := later
  exact ⟨word ++ more, passes.trans passesMore⟩

theorem Passes.reaches {first second : Cursor} {word : List Char}
    (passes : first.Passes word second) : first.Reaches second := ⟨word, passes⟩

/-- Every cursor on the way has the same end. -/
theorem Reaches.finish_eq {first second : Cursor} (reaches : first.Reaches second) :
    second.finish = first.finish := by
  obtain ⟨word, passes⟩ := reaches
  exact passes.finish_eq

end Cursor

/-- A lexeme is what stands between two cursors. -/
def Lexeme.Between (content : Lexeme) (first second : Cursor) : Prop :=
  content.start = first.offset ∧ first.Passes content.chars second

/-- The stretch of the source that an event names. -/
def Event.stretch? : Event → Option Lexeme
  | .text content => some content
  | .startTag name => some name
  | .attributeName name => some name
  | .value content => some content
  | .attributeEnd _ stop => some ⟨stop, []⟩
  | .startTagEnd stop => some ⟨stop, []⟩
  | .selfClosing stop => some ⟨stop, []⟩
  | .endTag name => some name
  | .comment content => some content
  | .declaration content => some content
  | .error _ offset => some ⟨offset, []⟩
  | .finish => none

/-- The events of texts, names and values name at least one character. -/
def Event.isFilled : Event → Bool
  | .text _ => true
  | .startTag _ => true
  | .attributeName _ => true
  | .value _ => true
  | .endTag _ => true
  | .attributeEnd _ _ => false
  | .startTagEnd _ => false
  | .selfClosing _ => false
  | .comment _ => false
  | .declaration _ => false
  | .error _ _ => false
  | .finish => false

/-- An event names the stretch between two cursors. -/
def Event.Between (event : Event) (first second : Cursor) : Prop :=
  ∃ stretch, event.stretch? = some stretch ∧ stretch.Between first second ∧
    (event.isFilled = true → stretch.chars ≠ [])

theorem Event.Between.reaches {first second : Cursor} {event : Event}
    (between : event.Between first second) : first.Reaches second := by
  obtain ⟨stretch, _, place, _⟩ := between
  exact place.2.reaches

theorem Lexeme.Between.of_filled {content : Lexeme} {first second : Cursor} {event : Event}
    (between : content.Between first second) (named : event.stretch? = some content)
    (filled : content.chars ≠ []) : event.Between first second :=
  ⟨content, named, between, fun _ => filled⟩

theorem Lexeme.Between.of_any {content : Lexeme} {first second : Cursor} {event : Event}
    (between : content.Between first second) (named : event.stretch? = some content)
    (any : event.isFilled = false) : event.Between first second :=
  ⟨content, named, between, fun filled => by simp [any] at filled⟩

/-- The events name stretches between two cursors, one after another. -/
inductive Cursor.Reports : Cursor → List Event → Cursor → Prop where
  | nothing {first last : Cursor} (reaches : first.Reaches last) : Reports first [] last
  | event {first start stop last : Cursor} {event : Event} {later : List Event}
      (reaches : first.Reaches start) (between : event.Between start stop)
      (reports : Reports stop later last) : Reports first (event :: later) last

namespace Cursor

/-- What is reported from a place on is reported from before it. -/
theorem Reports.after {earlier first last : Cursor} {events : List Event}
    (reaches : earlier.Reaches first) (reports : first.Reports events last) :
    earlier.Reports events last := by
  cases reports with
  | nothing onward => exact .nothing (reaches.trans onward)
  | event onward between later => exact .event (reaches.trans onward) between later

/-- Reports in a row are reports of all their events. -/
theorem Reports.append {first middle last : Cursor} {events more : List Event}
    (reports : first.Reports events middle) (later : middle.Reports more last) :
    first.Reports (events ++ more) last := by
  induction reports with
  | nothing reaches => exact later.after reaches
  | event reaches between _ inductionHypothesis =>
      exact .event reaches between (inductionHypothesis later)

/-- What is reported up to a place is reported further on. -/
theorem Reports.until {first last final : Cursor} {events : List Event}
    (reports : first.Reports events last) (reaches : last.Reaches final) :
    first.Reports events final := by
  have joined := reports.append (.nothing reaches)
  rwa [List.append_nil] at joined

theorem reports_single {first last : Cursor} {event : Event} (between : event.Between first last) :
    first.Reports [event] last :=
  .event (.refl first) between (.nothing (.refl last))

theorem Reports.reaches {first last : Cursor} {events : List Event}
    (reports : first.Reports events last) : first.Reaches last := by
  induction reports with
  | nothing reaches => exact reaches
  | event reaches between _ inductionHypothesis =>
      exact reaches.trans (between.reaches.trans inductionHypothesis)

theorem between_here (cursor : Cursor) : Lexeme.Between ⟨cursor.offset, []⟩ cursor cursor :=
  ⟨rfl, .refl cursor⟩

/-- A name stands where it is read. -/
theorem between_readName {cursor : Cursor} (more : cursor.rest ≠ []) (keep : Char → Bool) :
    (cursor.readName keep).Between cursor (cursor.skipName keep) := by
  refine ⟨?_, passes_skipName more keep⟩
  unfold readName
  split <;> rfl

/-- A name is not empty. -/
theorem readName_ne_nil {cursor : Cursor} (more : cursor.rest ≠ []) (keep : Char → Bool) :
    (cursor.readName keep).chars ≠ [] := by
  unfold readName
  split
  · contradiction
  · exact List.cons_ne_nil _ _

end Cursor

end HtmlTemplate.Markup
