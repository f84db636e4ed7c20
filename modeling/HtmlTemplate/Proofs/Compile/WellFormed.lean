/-
This file shows that every template that is found in a source is well formed.
-/

import HtmlTemplate.Proofs.Compile.Outcome
import HtmlTemplate.Proofs.Template.WellFormed

namespace HtmlTemplate

open Template

/-- Below the root of a template every node is well formed. -/
theorem parseTemplate_wellFormed (options : Options) (source : String) (template : Node)
    (success : parseTemplate options source = .ok template) :
    ∃ children location, template = .root children location ∧
      ∀ node ∈ preorderAll children, node.IsWellFormed options.strict := by
  obtain ⟨_, found⟩ := parseTemplate_ok success
  obtain ⟨content, children, foundContent, foundChildren, rfl⟩ := templateOf_ok found
  have void : ∀ node ∈ Markup.preorderAll (readMarkup source).nodes, node.KeepsVoid readOptions :=
    Markup.Document.keepsVoid _ readOptions
  have built := ofMarkups_isBuilt rfl (readMarkup source).nodes content void foundContent
  exact ⟨children, .stub, rfl,
    foldSiblings_isWellFormed [] content children isUnfinished_nil built foundChildren⟩

def listSource : String :=
  "<ul><template for=\"row in data.rows\"><li>\x7b\x7brow.name\x7d\x7d<br></template></ul>" ++
  "<template if=\"data.more\">x</template><template else>-</template>"

/-- The template of a list with a loop and a conditional is well formed. -/
theorem parseTemplate_wellFormed_list :
    ∃ template, parseTemplate {} listSource = .ok template ∧
      template.preorder.map Node.nodeType =
        [.root, .element, .forLoop, .element, .textWithVars, .element, .conditionalGroup, .text,
         .text] ∧
      ∃ children location, template = .root children location ∧
        ∀ node ∈ preorderAll children, node.IsWellFormed ({} : Options).strict := by
  have evaluated : ((parseTemplate {} listSource).toOption.map fun template =>
      template.preorder.map Node.nodeType) =
        some [.root, .element, .forLoop, .element, .textWithVars, .element, .conditionalGroup,
          .text, .text] := by
    decide +kernel
  obtain ⟨template, parsed, types⟩ := Option.map_eq_some_iff.mp evaluated
  have success := Result.eq_ok_of_toOption parsed
  exact ⟨template, success, types, parseTemplate_wellFormed {} listSource template success⟩

end HtmlTemplate
