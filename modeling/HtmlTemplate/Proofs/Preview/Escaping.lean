/-
This file compares previews of one template that differ in their escaping only. They fail with the same
error or show texts that differ only in what the two escapings make of the same values. Because escaped
values hold no marks, a value cannot add markup to a preview.
-/

import HtmlTemplate.Preview.Render
import HtmlTemplate.Proofs.Escape.Plain
import HtmlTemplate.Proofs.Result

namespace HtmlTemplate.Preview

open Data Template

/-- Two results with the same error, or with texts that are related. -/
inductive Agree (related : String → String → Prop) :
    Except RenderError String → Except RenderError String → Prop where
  | error (reason : RenderError) : Agree related (.error reason) (.error reason)
  | ok {first second : String} (same : related first second) :
      Agree related (.ok first) (.ok second)

/-- A relation of texts that texts put together inherit from their parts. -/
structure IsTextCongruence (related : String → String → Prop) : Prop where
  refl : ∀ text, related text text
  append : ∀ {first second third fourth : String}, related first second → related third fourth →
    related (first ++ third) (second ++ fourth)

namespace Agree

variable {related : String → String → Prop}

/-- Every result agrees with itself. -/
theorem refl (congruence : IsTextCongruence related) (result : Except RenderError String) :
    Agree related result result := by
  cases result with
  | error reason => exact .error reason
  | ok text => exact .ok (congruence.refl text)

/-- Results that agree fail alike or show related texts. -/
theorem outcome {first second : Except RenderError String} (agree : Agree related first second) :
    (∃ reason, first = .error reason ∧ second = .error reason) ∨
    ∃ shown other, first = .ok shown ∧ second = .ok other ∧ related shown other := by
  cases agree with
  | error reason => exact .inl ⟨reason, rfl, rfl⟩
  | ok same => exact .inr ⟨_, _, rfl, rfl, same⟩

/-- Results that go on from one value agree if they agree for each. -/
theorem bind {α : Type} {first second : α → Except RenderError String}
    (start : Except RenderError α) (each : ∀ value, Agree related (first value) (second value)) :
    Agree related (start >>= first) (start >>= second) := by
  cases start with
  | error reason => exact .error reason
  | ok value => exact each value

/-- Results that agree are joined to results that agree. -/
theorem append (congruence : IsTextCongruence related)
    {first second third fourth : Except RenderError String} (before : Agree related first second)
    (after : Agree related third fourth) :
    Agree related (do return (← first) ++ (← third)) (do return (← second) ++ (← fourth)) := by
  cases before with
  | error reason => exact .error reason
  | ok same =>
      cases after with
      | error reason => exact .error reason
      | ok sameAfter => exact .ok (congruence.append same sameAfter)

/-- Equal texts around results that agree keep them so. -/
theorem between (congruence : IsTextCongruence related)
    {first second : Except RenderError String} (before after : String)
    (inside : Agree related first second) :
    Agree related (do return before ++ (← first) ++ after)
      (do return before ++ (← second) ++ after) := by
  cases inside with
  | error reason => exact .error reason
  | ok same =>
      have opened := congruence.append (congruence.refl before) same
      exact .ok (congruence.append opened (congruence.refl after))

end Agree

/-- The same context with another escaping. -/
def Context.withEscaping (context : Context) (escaping : Escaping) : Context :=
  { context with escaping := escaping }

/-- The value of an expression does not depend on the escaping. -/
@[simp] theorem Expression.evaluate_withEscaping (context : Context) (escaping : Escaping)
    (expression : Expression) :
    expression.evaluate (context.withEscaping escaping) = expression.evaluate context := by
  induction expression with
  | blank => rfl
  | literal value => rfl
  | path text head members => rfl
  | negation operand inductionHypothesis => rw [evaluate, evaluate, inductionHypothesis]
  | unsupported text => rfl

@[simp] theorem evaluate_withEscaping (context : Context) (escaping : Escaping) (text : String) :
    evaluate (context.withEscaping escaping) text = evaluate context text :=
  Expression.evaluate_withEscaping context escaping _

@[simp] theorem loopItems_withEscaping (context : Context) (escaping : Escaping)
    (source : String) :
    loopItems (context.withEscaping escaping) source = loopItems context source := by
  rw [loopItems, loopItems, evaluate_withEscaping]

@[simp] theorem isTaken_withEscaping (context : Context) (escaping : Escaping)
    (condition : Option String) :
    isTaken (context.withEscaping escaping) condition = isTaken context condition := by
  cases condition with
  | none => rfl
  | some text => rw [isTaken, isTaken, evaluate_withEscaping]

section

variable {related : String → String → Prop} {first second : Escaping}

/-- Texts with expressions agree under both escapings. -/
theorem renderParts_agree (congruence : IsTextCongruence related)
    (values : ∀ value, related (first.apply value) (second.apply value)) (context : Context)
    (parts : List TextPart) :
    Agree related (renderParts (context.withEscaping first) parts)
      (renderParts (context.withEscaping second) parts) := by
  induction parts with
  | nil => exact Agree.refl congruence _
  | cons part rest inductionHypothesis =>
      refine Agree.append congruence ?_ inductionHypothesis
      match part with
      | .text content => exact Agree.refl congruence _
      | .variable expression =>
          rw [renderPart, renderPart, evaluate_withEscaping, evaluate_withEscaping]
          exact Agree.bind _ fun value => .ok (values value)

/-- Loops agree if each of their rounds does. -/
theorem renderItems_agree (congruence : IsTextCongruence related)
    {renderFirst renderSecond : Value → Except RenderError String}
    (each : ∀ item, Agree related (renderFirst item) (renderSecond item)) (items : List Value) :
    Agree related (renderItems renderFirst items) (renderItems renderSecond items) := by
  induction items with
  | nil => exact Agree.refl congruence _
  | cons item rest inductionHypothesis =>
      exact Agree.append congruence (each item) inductionHypothesis

mutual

/-- Escapings with related texts give the same error or related markup. -/
theorem render_agree (congruence : IsTextCongruence related)
    (values : ∀ value, related (first.apply value) (second.apply value)) :
    ∀ (node : Node) (context : Context),
      Agree related (render (context.withEscaping first) node)
        (render (context.withEscaping second) node)
  | .root children location, context => by
      simp only [render]
      exact renderAll_agree congruence values children context
  | .doctype doctype location, context => by
      simp only [render]
      exact Agree.refl congruence _
  | .text content location, context => by
      simp only [render]
      exact Agree.refl congruence _
  | .interpolated parts location, context => by
      simp only [render]
      exact renderParts_agree congruence values context parts
  | .element tag attributes children location, context => by
      simp only [render]
      exact Agree.between congruence _ _ (renderAll_agree congruence values children context)
  | .loop iterator source body location, context => by
      simp only [render, loopItems_withEscaping]
      refine Agree.bind _ fun items => renderItems_agree congruence ?_ items
      intro item
      exact renderAll_agree congruence values body (context.bind iterator item)
  | .branch branch, context => by
      simp only [render]
      exact Agree.refl congruence _
  | .chain branches location, context => by
      simp only [render]
      exact renderBranches_agree congruence values branches context
  | .staticBlock children html, context => by
      simp only [render]
      exact Agree.refl congruence _

/-- Siblings agree under both escapings. -/
theorem renderAll_agree (congruence : IsTextCongruence related)
    (values : ∀ value, related (first.apply value) (second.apply value)) :
    ∀ (nodes : List Node) (context : Context),
      Agree related (renderAll (context.withEscaping first) nodes)
        (renderAll (context.withEscaping second) nodes)
  | [], context => Agree.refl congruence _
  | node :: rest, context => by
      simp only [renderAll]
      exact Agree.append congruence (render_agree congruence values node context)
        (renderAll_agree congruence values rest context)

/-- Branches agree under both escapings. -/
theorem renderBranches_agree (congruence : IsTextCongruence related)
    (values : ∀ value, related (first.apply value) (second.apply value)) :
    ∀ (branches : List (Branch Node)) (context : Context),
      Agree related (renderBranches (context.withEscaping first) branches)
        (renderBranches (context.withEscaping second) branches)
  | [], context => Agree.refl congruence _
  | branch :: rest, context => by
      simp only [renderBranches, isTaken_withEscaping]
      refine Agree.bind _ fun taken => ?_
      -- Both previews take the same branch, because conditions are not escaped.
      cases taken with
      | true => exact renderAll_agree congruence values branch.body context
      | false => exact renderBranches_agree congruence values rest context

end

end

/-- Two texts with the same number of each mark. -/
def SameMarks (first second : String) : Prop :=
  ∀ mark ∈ Escape.marks, first.toList.count mark = second.toList.count mark

/-- Having the same marks is kept by joining texts. -/
theorem sameMarks_isTextCongruence : IsTextCongruence SameMarks where
  refl text mark _ := rfl
  append before after := by
    intro mark isMark
    simp only [String.toList_append, List.count_append, before mark isMark, after mark isMark]

/-- Escaped values add no marks, as if they were left out. -/
theorem sameMarks_standard (value : Value) :
    SameMarks (Escaping.standard.apply value) ((Escaping.custom fun _ => "").apply value) := by
  intro mark isMark
  have absent := Escape.notMem_escapeValue isMark value
  rw [Escaping.apply, List.count_eq_zero_of_not_mem absent]
  rfl

/-- Values cannot add markup to a preview with the standard escaping. -/
theorem preview_standard_marks (options : Options) (data : Value) (template : Node) :
    (∃ reason, preview options .standard data template = .error reason ∧
      preview options (.custom fun _ => "") data template = .error reason) ∨
    ∃ shown bare, preview options .standard data template = .ok shown ∧
      preview options (.custom fun _ => "") data template = .ok bare ∧
      ∀ mark ∈ ['<', '>', '"', '\''], shown.toList.count mark = bare.toList.count mark := by
  have agree := render_agree sameMarks_isTextCongruence sameMarks_standard template
    ⟨data, .standard, options.preserveDoctype, []⟩
  exact agree.outcome

end HtmlTemplate.Preview
