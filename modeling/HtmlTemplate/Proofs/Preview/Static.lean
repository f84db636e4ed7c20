/-
This file shows that merging static runs does not change what a template renders to.
-/

import HtmlTemplate.Preview.Render
import HtmlTemplate.Proofs.Result
import HtmlTemplate.Proofs.Template.Merging

namespace HtmlTemplate.Preview

open Data Template

/-- Siblings render one after another, up to the first error. -/
theorem renderAll_append (context : Context) (first second : List Node) :
    renderAll context (first ++ second) =
      (do return (← renderAll context first) ++ (← renderAll context second)) := by
  induction first with
  | nil => simp [renderAll]
  | cons node rest inductionHypothesis =>
      simp [renderAll, inductionHypothesis, String.append_assoc]

mutual

/-- A static node renders to its static markup in every context. -/
theorem render_isStatic (context : Context) :
    ∀ node : Node, isStatic node = true → render context node = .ok (staticHtml node)
  | .text content location, _ => by simp [render, staticHtml]
  | .element tag attributes children location, static => by
      have content := renderAll_allStatic context children (by simpa [isStatic] using static)
      simp [render, staticHtml, content]

/-- Static siblings render to their markup in every context. -/
theorem renderAll_allStatic (context : Context) :
    ∀ nodes : List Node, allStatic nodes = true →
      renderAll context nodes = .ok (allStaticHtml nodes)
  | [], _ => by simp [renderAll, allStaticHtml]
  | node :: rest, static => by
      simp only [allStatic, Bool.and_eq_true] at static
      have first := render_isStatic context node static.1
      have others := renderAll_allStatic context rest static.2
      simp [renderAll, allStaticHtml, first, others]

end

/-- The block of a run renders as the run itself. -/
theorem renderAll_staticBlockOf (context : Context) (run : List Node)
    (static : allStatic run = true) :
    renderAll context (staticBlockOf run) = renderAll context run.reverse := by
  rw [renderAll_allStatic context run.reverse (by simpa using static)]
  cases run with
  | nil => simp [staticBlockOf, renderAll, allStaticHtml]
  | cons node rest => simp [staticBlockOf, renderAll, render]

mutual

/-- A merged node renders as before in every context. -/
theorem render_mergeStatic (context : Context) :
    ∀ node : Node, render context (mergeStatic node) = render context node
  | .root children location => by
      have content : renderAll context (mergeSiblings [] children) = renderAll context children :=
        renderAll_mergeSiblings context [] children rfl
      simp only [mergeStatic, render, content]
  | .doctype doctype location => by simp only [mergeStatic]
  | .text content location => by simp only [mergeStatic]
  | .interpolated parts location => by simp only [mergeStatic]
  | .element tag attributes children location => by
      have content : renderAll context (mergeSiblings [] children) = renderAll context children :=
        renderAll_mergeSiblings context [] children rfl
      simp only [mergeStatic, render, closeTag_mergeSiblings, content]
  | .loop iterator source body location => by
      have content (item : Value) : renderAll (context.bind iterator item) (mergeSiblings [] body) =
          renderAll (context.bind iterator item) body :=
        renderAll_mergeSiblings (context.bind iterator item) [] body rfl
      simp only [mergeStatic, render, content]
  | .branch branch => by simp only [mergeStatic, render]
  | .chain branches location => by
      simp only [mergeStatic, render, renderBranches_mergeBranches context branches]
  | .staticBlock children html => by simp only [mergeStatic]

/-- The siblings after a run render as if the run stood before them. -/
theorem renderAll_mergeSiblings (context : Context) :
    ∀ run nodes : List Node, allStatic run = true →
      renderAll context (mergeSiblings run nodes) = renderAll context (run.reverse ++ nodes)
  | run, [], static => by
      simpa only [mergeSiblings, List.append_nil] using renderAll_staticBlockOf context run static
  | run, node :: rest, static => by
      rw [mergeSiblings]
      split
      · rename_i isStaticNode
        have longer : allStatic (node :: run) = true := by simp [allStatic, isStaticNode, static]
        rw [renderAll_mergeSiblings context (node :: run) rest longer]
        simp
      · have others : renderAll context (mergeSiblings [] rest) = renderAll context rest :=
          renderAll_mergeSiblings context [] rest rfl
        rw [renderAll_append, renderAll_append, renderAll_staticBlockOf context run static]
        simp only [renderAll, render_mergeStatic context node, others]

/-- Merging the bodies of branches changes no rendering. -/
theorem renderBranches_mergeBranches (context : Context) :
    ∀ branches : List (Branch Node),
      renderBranches context (mergeBranches branches) = renderBranches context branches
  | [] => by simp only [mergeBranches]
  | branch :: rest => by
      have content : renderAll context (mergeSiblings [] branch.body) =
          renderAll context branch.body :=
        renderAll_mergeSiblings context [] branch.body rfl
      simp only [mergeBranches, renderBranches, content, renderBranches_mergeBranches context rest]

end

/-- Merging static runs is invisible in previews. -/
theorem preview_mergeStatic (options : Options) (escaping : Escaping) (data : Value)
    (template : Node) :
    preview options escaping data (mergeStatic template) =
      preview options escaping data template :=
  render_mergeStatic _ template

end HtmlTemplate.Preview
