/-
This file shows that literal markup passes through the compiler unchanged: a canonical forest compiles,
and its template renders to its written form.
-/

import HtmlTemplate.Preview.Render
import HtmlTemplate.Proofs.Canonical.Reading
import HtmlTemplate.Proofs.Preview.Static
import HtmlTemplate.Proofs.Script.Static
import HtmlTemplate.Proofs.Template.Literal

namespace HtmlTemplate.Canonical

open Markup Template

mutual

/-- Whether a node stays as it is in templates. -/
def isKept : Node → Bool
  | .doctype _ => true
  | .text content => !Text.isBlankText content && !hasPair '\x7b' '\x7b' content.toList
  | .element tag attributes children =>
      !Tag.isTemplate tag && attributes.all isAttribute &&
        (!Tag.isVoid tag || children.isEmpty) && areKept children

def areKept : List Node → Bool
  | [] => true
  | node :: rest => isKept node && areKept rest

end

/-- Only the template tag makes a template element. -/
theorem not_isTemplate {tag : String} (named : isTagName tag = true) (other : tag ≠ "template") :
    Tag.isTemplate tag = false := by
  have isLower : Text.lower "template".toList = "template".toList := by decide
  rw [Tag.isTemplate, Text.agree, lower_tagName named, isLower, beq_eq_false_iff_ne]
  intro same
  exact other (String.toList_injective same)

/-- The content of a raw text element is kept. -/
theorem areKept_rawContent {children : List Node} (content : isRawContent children = true) :
    areKept children = true := by
  unfold isRawContent at content
  split at content
  · rfl
  · simp only [isRawText, Bool.and_eq_true] at content
    simp [areKept, isKept, content.1.1, content.2]
  · contradiction

mutual

/-- Building keeps every canonical node. -/
theorem isKept_of_isCanonical :
    ∀ (node : Node) (ancestors : List String), isCanonical ancestors node = true →
      isKept node = true
  | .doctype _, _, _ => rfl
  | .text content, ancestors, canonical => by
      simp only [isCanonical, isPlainText, Bool.and_eq_true] at canonical
      simp [isKept, canonical.1.1, canonical.2]
  | .element tag attributes children, ancestors, canonical => by
      simp only [isCanonical, Bool.and_eq_true, bne_iff_ne] at canonical
      obtain ⟨⟨⟨⟨named, other⟩, canonicalAttributes⟩, _⟩, content⟩ := canonical
      rw [isKept, not_isTemplate named other, canonicalAttributes]
      split at content
      · rename_i void
        rw [List.isEmpty_iff] at content
        simp [content, areKept]
      · rename_i notVoid
        have children : areKept children = true := by
          split at content
          · exact areKept_rawContent content
          · exact areKept_of_areCanonical children (tag :: ancestors) false content
        simp [notVoid, children]

/-- Building keeps every canonical forest. -/
theorem areKept_of_areCanonical :
    ∀ (nodes : List Node) (ancestors : List String) (afterText : Bool),
      areCanonical ancestors afterText nodes = true → areKept nodes = true
  | [], _, _, _ => rfl
  | node :: rest, ancestors, afterText, canonical => by
      simp only [areCanonical, Bool.and_eq_true] at canonical
      rw [areKept, isKept_of_isCanonical node ancestors canonical.1.2,
        areKept_of_areCanonical rest ancestors node.isText canonical.2]
      rfl

end

/-- A text without opening braces is one literal part. -/
theorem splitFrom_plain (literal chars : List Char) (plain : hasPair '\x7b' '\x7b' chars = false) :
    splitFrom 0 literal chars = literalPart (chars.reverse ++ literal) := by
  induction chars generalizing literal with
  | nil => rfl
  | cons c rest inductionHypothesis =>
      simp only [hasPair, Bool.or_eq_false_iff] at plain
      have noInterpolation : interpolation? (c :: rest) = none := by
        unfold interpolation?
        split <;> simp_all
      rw [splitFrom, noInterpolation]
      simp [inductionHypothesis (c :: literal) plain.2, List.append_assoc]

/-- A filled text without braces is built to itself. -/
theorem ofText_kept {content : String} (filled : Text.isBlankText content = false)
    (plain : hasPair '\x7b' '\x7b' content.toList = false) (location : Location) :
    ofText content location = some (.text content location) := by
  have parts : splitInterpolations content = [.text content] := by
    rw [splitInterpolations, splitFrom_plain [] content.toList plain, literalPart]
    simp [toList_ne_nil_of_not_blank filled]
  rw [ofText, filled, if_neg Bool.false_ne_true, parts]

/-- Writing an attribute gives its canonical characters. -/
theorem write_kept {written : Template.Attribute} (canonical : isAttribute written = true) :
    written.write = String.ofList (attributeChars written) := by
  rw [isAttribute, Bool.and_eq_true] at canonical
  apply String.toList_injective
  rw [Template.Attribute.write, Escape.escapeAttribute_plain _ canonical.2]
  simp [attributeChars]

/-- Writing a start tag gives its canonical characters. -/
theorem openTag_kept (tag : String) {attributes : List Template.Attribute}
    (canonical : attributes.all isAttribute = true) :
    openTag tag attributes =
      String.ofList ('<' :: (tag.toList ++ (attributes.flatMap attributeChars ++ ['>']))) := by
  have written : String.join (attributes.map Template.Attribute.write) =
      String.ofList (attributes.flatMap attributeChars) := by
    induction attributes with
    | nil => rfl
    | cons first rest inductionHypothesis =>
        rw [List.all_cons, Bool.and_eq_true] at canonical
        rw [List.map_cons, String.join_cons, write_kept canonical.1,
          inductionHypothesis canonical.2, List.flatMap_cons, String.ofList_append]
  apply String.toList_injective
  rw [openTag, written]
  simp

/-- Writing an end tag gives its canonical characters. -/
theorem closeTag_kept (tag : String) (children : List Template.Node)
    (content : Tag.isVoid tag = true → children = []) :
    closeTag tag children = String.ofList (endTagChars tag) := by
  apply String.toList_injective
  by_cases void : Tag.isVoid tag = true
  · simp [closeTag, closeTag?, endTagChars, void, content void]
  · simp [closeTag, closeTag?, endTagChars, void]

theorem reads_doctype {name : String} {read : Markup.Node} (reads : Reads (.doctype name) read) :
    ∃ location, read = .doctype ⟨name, none, none⟩ location := by
  cases read <;> simp_all [Reads]

theorem reads_text {content : String} {read : Markup.Node} (reads : Reads (.text content) read) :
    ∃ location, read = .text content location := by
  cases read <;> simp_all [Reads]

/-- What reads as an element is one, with its attributes and children. -/
theorem reads_element_inv {tag : String} {attributes : List Template.Attribute}
    {children : List Node} {read : Markup.Node}
    (reads : Reads (.element tag attributes children) read) :
    ∃ readAttributes readChildren detached location,
      read = .element tag readAttributes readChildren detached location ∧
      readAttributes.map withoutLocation = attributes ∧ ReadsAll children readChildren := by
  cases read with
  | doctype _ _ => simp [Reads] at reads
  | comment _ _ => simp [Reads] at reads
  | text _ _ => simp [Reads] at reads
  | element readTag readAttributes readChildren detached location =>
      obtain ⟨rfl, sameAttributes, readsChildren⟩ := reads
      exact ⟨_, _, _, _, rfl, sameAttributes, readsChildren⟩

/-- A literal template that renders to the given characters, whatever the data. -/
structure Shows (templates : List Template.Node) (chars : List Char) : Prop where
  literal : allLiteral templates = true
  rendered : ∀ context : Preview.Context, context.preserveDoctype = true →
    Preview.renderAll context templates = .ok (String.ofList chars)

theorem Shows.nil : Shows [] [] := ⟨rfl, fun _ _ => rfl⟩

/-- Forests that show texts show them side by side. -/
theorem Shows.cons {template : Template.Node} {templates : List Template.Node}
    {first rest : List Char} (here : Shows [template] first) (later : Shows templates rest) :
    Shows (template :: templates) (first ++ rest) := by
  constructor
  · have literal := here.literal
    simp only [allLiteral, Bool.and_true] at literal
    rw [allLiteral, literal, later.literal]
    rfl
  · intro context preserve
    rw [← List.singleton_append, Preview.renderAll_append, here.rendered context preserve,
      later.rendered context preserve, String.ofList_append]
    rfl

/-- An element shows its tags around what its children show. -/
theorem Shows.element {children : List Template.Node} {inner : List Char} (tag : String)
    {attributes : List Template.Attribute} (canonical : attributes.all isAttribute = true)
    (content : Tag.isVoid tag = true → children = []) (shown : Shows children inner)
    (location : Location) :
    Shows [.element tag attributes children location]
      ('<' :: (tag.toList ++ (attributes.flatMap attributeChars ++
        '>' :: (inner ++ endTagChars tag)))) := by
  constructor
  · simp [allLiteral, isLiteral, shown.literal]
  · intro context preserve
    rw [Preview.renderAll, Preview.renderAll, Preview.render, shown.rendered context preserve,
      openTag_kept tag canonical, closeTag_kept tag children content]
    simp only [Result.pure_eq_ok, Result.ok_bind, String.append_empty, Except.ok.injEq]
    apply String.toList_injective
    simp

mutual

/-- A node that is kept becomes a literal template that shows it. -/
theorem ofMarkup_kept (strict : Bool) :
    ∀ (node : Node) (read : Markup.Node), isKept node = true → Reads node read →
      ∃ template, ofMarkup strict read = .ok (some template) ∧ Shows [template] node.chars
  | .doctype name, read, _, reads => by
      obtain ⟨location, rfl⟩ := reads_doctype reads
      refine ⟨_, rfl, rfl, ?_⟩
      intro context preserve
      rw [Preview.renderAll, Preview.renderAll, Preview.render, Doctype.render, preserve, Node.chars,
        if_pos rfl, write_doctype]
      simp
  | .text content, read, kept, reads => by
      obtain ⟨location, rfl⟩ := reads_text reads
      simp only [isKept, Bool.and_eq_true, Bool.not_eq_true'] at kept
      refine ⟨.text content location, ?_, rfl, ?_⟩
      · rw [ofMarkup, ofText_kept kept.1 kept.2]
        rfl
      · intro context _
        simp [Preview.renderAll, Preview.render, Node.chars]
  | .element tag attributes children, read, kept, reads => by
      obtain ⟨readAttributes, readChildren, detached, location, rfl, rfl, readsChildren⟩ :=
        reads_element_inv reads
      simp only [isKept, Bool.and_eq_true, Bool.not_eq_true', Bool.or_eq_true, List.isEmpty_iff]
        at kept
      obtain ⟨⟨⟨noTemplate, canonical⟩, content⟩, keptChildren⟩ := kept
      obtain ⟨templates, built, shown, empty⟩ :=
        ofMarkups_kept strict children readChildren keptChildren readsChildren
      have noDirective : directiveOf strict tag readAttributes location = .ok none := by
        rw [directiveOf, noTemplate]
        rfl
      refine ⟨.element tag (readAttributes.map withoutLocation) templates location, ?_, ?_⟩
      · rw [ofMarkup, noDirective, built]
        rfl
      · rw [Node.chars]
        refine shown.element tag canonical ?_ location
        intro void
        rcases content with notVoid | none
        · rw [notVoid] at void
          contradiction
        · exact empty none

/-- Kept nodes are built to templates that show them. -/
theorem ofMarkups_kept (strict : Bool) :
    ∀ (nodes : List Node) (read : List Markup.Node), areKept nodes = true → ReadsAll nodes read →
      ∃ templates, ofMarkups strict read = .ok templates ∧ Shows templates (allChars nodes) ∧
        (nodes = [] → templates = [])
  | [], [], _, _ => ⟨[], rfl, Shows.nil, fun _ => rfl⟩
  | [], _ :: _, _, reads => by simp [ReadsAll] at reads
  | _ :: _, [], _, reads => by simp [ReadsAll] at reads
  | node :: rest, read :: others, kept, reads => by
      rw [areKept, Bool.and_eq_true] at kept
      obtain ⟨template, built, shown⟩ := ofMarkup_kept strict node read kept.1 reads.1
      obtain ⟨templates, builtRest, shownRest, _⟩ :=
        ofMarkups_kept strict rest others kept.2 reads.2
      refine ⟨template :: templates, ?_, ?_, by simp⟩
      · rw [ofMarkups, built, builtRest]
        rfl
      · rw [allChars]
        exact shown.cons shownRest

end

/-- A written canonical forest parses to a literal template that shows it. -/
theorem parseTemplate_serialize (options : Options) (forest : List Node)
    (canonical : isCanonicalForest forest = true) :
    ∃ templates, parseTemplate options (serialize forest) = .ok (.root templates .stub) ∧
      Shows templates (allChars forest) := by
  obtain ⟨read, reads, document⟩ := readMarkup_serialize forest canonical
  have kept := areKept_of_areCanonical forest [] false canonical
  obtain ⟨templates, built, shown, _⟩ := ofMarkups_kept options.strict forest read kept reads
  refine ⟨templates, ?_, shown⟩
  rw [parseTemplate, document]
  simp [ofDocument, built, failing, fold, foldSiblings_literal options.strict templates shown.literal]

/-- Canonical markup passes through the compiler unchanged. -/
theorem compile_serialize (options : Options) (name : String) (forest : List Node)
    (preserve : options.preserveDoctype = true) (canonical : isCanonicalForest forest = true) :
    ∃ compiled, compile options name (serialize forest) = .ok compiled ∧
      compiled.isValid = true ∧
      ∀ (escaping : Preview.Escaping) (data : Data.Value),
        Preview.preview options escaping data compiled.template = .ok (serialize forest) := by
  obtain ⟨templates, parsed, shown⟩ := parseTemplate_serialize options forest canonical
  obtain ⟨statements, lowered⟩ := lowerAll_literal options templates shown.literal
  have generated : Script.generate options name (mergeStatic (.root templates .stub)) =
      .ok ⟨Script.writeModule options name (Script.joinLiterals "" statements), []⟩ := by
    rw [Script.generate_eq_writeModule, Script.blockOf_mergeStatic, Script.blockOf, Script.lower,
      lowered]
    rfl
  rw [compile, parsed]
  simp only [Result.ok_bind, generated, failing, Result.pure_eq_ok]
  refine ⟨_, rfl, rfl, ?_⟩
  intro escaping data
  rw [Preview.preview, Preview.render_mergeStatic, Preview.render, serialize]
  exact shown.rendered _ preserve

/-- A page with a doctype, nested and void elements, and a script. -/
def listPage : List Node :=
  [.doctype "html",
   .element "ul" [⟨"class", "a b"⟩, ⟨"data-x", ""⟩]
     [.element "li" [] [.text "one", .element "br" [] [], .text "two"],
      .element "li" [] []],
   .element "script" [] [.text "if (a < b) run()"]]

example : serialize listPage =
    "<!DOCTYPE html><ul class=\"a b\" data-x=\"\"><li>one<br>two</li><li></li></ul>" ++
      "<script>if (a < b) run()</script>" := by decide

/-- A page with a list is shown unchanged. -/
theorem listPage_unchanged :
    isCanonicalForest listPage = true ∧ ∃ compiled,
      compile {} "page" (serialize listPage) = .ok compiled ∧ compiled.isValid = true ∧
      ∀ (escaping : Preview.Escaping) (data : Data.Value),
        Preview.preview {} escaping data compiled.template = .ok (serialize listPage) := by
  have canonical : isCanonicalForest listPage = true := by decide
  exact ⟨canonical, compile_serialize {} "page" listPage rfl canonical⟩

end HtmlTemplate.Canonical
