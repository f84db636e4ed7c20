/-
This file relates strict and lenient templates of markup. Building leniently never fails. Building
strictly fails for its directives only, and where it succeeds, the same template is built leniently as
long as the values of loops are read alike.
-/

import HtmlTemplate.Proofs.Result
import HtmlTemplate.Template.OfMarkup

namespace HtmlTemplate.Template

/-- A result that is a success or fails with one of the given codes. -/
def FailsOnlyWith {α : Type} (codes : List Diagnostic.Code) (result : Except Diagnostic α) : Prop :=
  ∀ fault, result = .error fault → fault.code ∈ codes

namespace FailsOnlyWith

variable {α β : Type} {codes : List Diagnostic.Code}

theorem ok (value : α) : FailsOnlyWith codes (.ok value : Except Diagnostic α) := by
  intro fault failed
  contradiction

/-- A failure with a listed code is one of them. -/
theorem error {fault : Diagnostic} (listed : fault.code ∈ codes) :
    FailsOnlyWith codes (.error fault : Except Diagnostic α) := by
  intro other failed
  obtain rfl := Except.error.inj failed
  exact listed

/-- Steps that fail only with the codes do so in a row. -/
theorem bind {result : Except Diagnostic α} {next : α → Except Diagnostic β}
    (first : FailsOnlyWith codes result) (later : ∀ value, FailsOnlyWith codes (next value)) :
    FailsOnlyWith codes (result >>= next) := by
  cases result with
  | error fault => exact error (first fault rfl)
  | ok value => exact later value

/-- What fails with no code does not fail. -/
theorem exists_ok {result : Except Diagnostic α} (never : FailsOnlyWith [] result) :
    ∃ value, result = .ok value := by
  cases result with
  | error fault => exact absurd (never fault rfl) List.not_mem_nil
  | ok value => exact ⟨value, rfl⟩

end FailsOnlyWith

/-- The codes for which building fails. A lenient building has none. -/
def directiveCodes (strict : Bool) : List Diagnostic.Code :=
  if strict then [.multipleDirectives, .emptyDirectiveExpression, .malformedForExpression] else []

/-- Checking directives fails only with their codes. -/
theorem Directive.check_failsOnlyWith (attributes : List Markup.Attribute) (location : Location) :
    FailsOnlyWith (directiveCodes true) (check attributes location) := by
  unfold check
  split
  · exact .error (by simp [directiveCodes])
  · split
    · exact .error (by simp [directiveCodes])
    · exact .ok ()

/-- Looking for a directive fails only with the codes of directives. -/
theorem directiveOf_failsOnlyWith (strict : Bool) (tag : String)
    (attributes : List Markup.Attribute) (location : Location) :
    FailsOnlyWith (directiveCodes strict) (directiveOf strict tag attributes location) := by
  unfold directiveOf
  split
  · split
    · rename_i isStrict
      have checked := Directive.check_failsOnlyWith attributes location
      split
      · rename_i fault found
        rw [isStrict]
        exact .error (checked fault found)
      · exact .ok _
    · exact .ok _
  · exact .ok none

/-- Reading a loop fails only with the codes of directives. -/
theorem ForClause.read_failsOnlyWith (strict : Bool) (value : String) (location : Location) :
    FailsOnlyWith (directiveCodes strict) (ForClause.read strict value location) := by
  unfold ForClause.read
  split
  · rename_i isStrict
    split
    · exact .ok _
    · exact .error (by simp [directiveCodes, isStrict])
  · exact .ok _

/-- Building an element fails only with the codes of directives. -/
theorem ofElement_failsOnlyWith (strict : Bool) (tag : String) (attributes : List Markup.Attribute)
    (location : Location) (content : List Node) (directive : Option Directive) :
    FailsOnlyWith (directiveCodes strict)
      (ofElement strict tag attributes location content directive) := by
  match directive with
  | some (.loop value) =>
      exact (ForClause.read_failsOnlyWith strict value location).bind fun _ => .ok _
  | some (.branch _ _) => exact .ok _
  | none => exact .ok _

mutual

/-- Building fails for its directives only, and leniently not at all. -/
theorem ofMarkup_failsOnlyWith (strict : Bool) :
    ∀ node : Markup.Node, FailsOnlyWith (directiveCodes strict) (ofMarkup strict node)
  | .doctype _ _ => .ok _
  | .comment _ _ => .ok none
  | .text _ _ => .ok _
  | .element tag attributes children _ location =>
      (directiveOf_failsOnlyWith strict tag attributes location).bind fun directive =>
        (ofMarkups_failsOnlyWith strict children).bind fun content =>
          (ofElement_failsOnlyWith strict tag attributes location content directive).bind fun _ =>
            .ok _

/-- Building siblings fails only with the codes of directives. -/
theorem ofMarkups_failsOnlyWith (strict : Bool) :
    ∀ nodes : List Markup.Node, FailsOnlyWith (directiveCodes strict) (ofMarkups strict nodes)
  | [] => .ok []
  | node :: rest =>
      (ofMarkup_failsOnlyWith strict node).bind fun _ =>
        (ofMarkups_failsOnlyWith strict rest).bind fun _ => .ok _

end

/-- Building a document fails only with the codes of directives. -/
theorem ofDocument_failsOnlyWith (strict : Bool) (nodes : List Markup.Node) :
    FailsOnlyWith (directiveCodes strict) (ofDocument strict nodes) :=
  (ofMarkups_failsOnlyWith strict nodes).bind fun _ => .ok _

mutual

/-- The values of the loop directives on the template elements in a node. -/
def forValues : Markup.Node → List String
  | .doctype _ _ => []
  | .comment _ _ => []
  | .text _ _ => []
  | .element tag attributes children _ _ =>
      (if Markup.Tag.isTemplate tag then (Directive.value? attributes "for").toList else []) ++
        allForValues children

def allForValues : List Markup.Node → List String
  | [] => []
  | node :: rest => forValues node ++ allForValues rest

end

/-- The value of a loop is read strictly as it is read leniently. -/
def ReadsAlike (value : String) : Prop :=
  ∀ location, ForClause.read true value location = ForClause.read false value location

/-- Only template elements have a directive, and strictly it is checked. -/
theorem directiveOf_ok {strict : Bool} {tag : String} {attributes : List Markup.Attribute}
    {location : Location} {directive : Option Directive}
    (success : directiveOf strict tag attributes location = .ok directive) :
    directive = (if Markup.Tag.isTemplate tag then Directive.find? attributes else none) ∧
      (strict = true → Markup.Tag.isTemplate tag = true →
        Directive.check attributes location = .ok ()) := by
  unfold directiveOf at success
  split at success
  · rename_i isTemplate
    rw [if_pos isTemplate]
    split at success
    · split at success
      · contradiction
      · rename_i checked
        exact ⟨(Except.ok.inj success).symm, fun _ _ => checked⟩
    · rename_i isLenient
      exact ⟨(Except.ok.inj success).symm, fun isStrict => absurd isStrict isLenient⟩
  · rename_i other
    rw [if_neg other]
    exact ⟨(Except.ok.inj success).symm, fun _ isTemplate => absurd isTemplate other⟩

/-- Leniently, a template element has the first directive it names. -/
theorem directiveOf_lenient (tag : String) (attributes : List Markup.Attribute)
    (location : Location) :
    directiveOf false tag attributes location =
      .ok (if Markup.Tag.isTemplate tag then Directive.find? attributes else none) := by
  unfold directiveOf
  split <;> rfl

/-- A loop comes from the value of its directive, which is not empty. -/
theorem Directive.find?_loop {attributes : List Markup.Attribute} {value : String}
    (found : find? attributes = some (.loop value)) :
    value? attributes "for" = some value ∧ value.isEmpty = false := by
  unfold find? at found
  dsimp only at found
  split at found
  · rename_i text isFor
    obtain rfl : text = value := by simpa using found
    simpa [Option.filter_eq_some_iff] using isFor
  · simp at found
  · simp at found
  · simp at found
  · simp at found

/-- A branch with a condition takes it from its directive, never empty. -/
theorem Directive.find?_branch {attributes : List Markup.Attribute} {kind : BranchKind}
    {condition : Option String} (found : find? attributes = some (.branch kind condition)) :
    (kind = .elseCase ∧ condition = none) ∨
    kind ≠ .elseCase ∧ ∃ text, condition = some text ∧
      value? attributes kind.directive = some text ∧ text.isEmpty = false := by
  unfold find? at found
  dsimp only at found
  split at found
  · simp at found
  · rename_i text _ isIf
    simp only [Option.some.injEq, Directive.branch.injEq] at found
    obtain ⟨rfl, rfl⟩ := found
    simp only [Option.filter_eq_some_iff] at isIf
    exact .inr ⟨by decide, text, rfl, isIf.1, by simpa using isIf.2⟩
  · rename_i text _ _ isElseIf
    simp only [Option.some.injEq, Directive.branch.injEq] at found
    obtain ⟨rfl, rfl⟩ := found
    simp only [Option.filter_eq_some_iff] at isElseIf
    exact .inr ⟨by decide, text, rfl, isElseIf.1, by simpa using isElseIf.2⟩
  · simp only [Option.some.injEq, Directive.branch.injEq] at found
    exact .inl ⟨found.1.symm, found.2.symm⟩
  · simp at found

/-- A built element has its directive and its built content. -/
theorem ofMarkup_element_ok {strict : Bool} {tag : String} {attributes : List Markup.Attribute}
    {children : List Markup.Node} {detached : Bool} {location : Location} {template : Option Node}
    (success : ofMarkup strict (.element tag attributes children detached location) =
      .ok template) :
    ∃ directive content node, directiveOf strict tag attributes location = .ok directive ∧
      ofMarkups strict children = .ok content ∧
      ofElement strict tag attributes location content directive = .ok node ∧
      template = some node := by
  rw [ofMarkup] at success
  obtain ⟨directive, foundDirective, afterDirective⟩ := Result.bind_eq_ok success
  obtain ⟨content, foundContent, afterContent⟩ := Result.bind_eq_ok afterDirective
  obtain ⟨node, foundNode, built⟩ := Result.bind_eq_ok afterContent
  exact ⟨directive, content, node, foundDirective, foundContent, foundNode,
    (Except.ok.inj built).symm⟩

/-- Built siblings are built one by one. -/
theorem ofMarkups_cons_ok {strict : Bool} {node : Markup.Node} {rest : List Markup.Node}
    {templates : List Node} (success : ofMarkups strict (node :: rest) = .ok templates) :
    ∃ first others, ofMarkup strict node = .ok first ∧ ofMarkups strict rest = .ok others ∧
      templates = first.toList ++ others := by
  rw [ofMarkups] at success
  obtain ⟨first, foundFirst, afterFirst⟩ := Result.bind_eq_ok success
  obtain ⟨others, foundOthers, built⟩ := Result.bind_eq_ok afterFirst
  exact ⟨first, others, foundFirst, foundOthers, (Except.ok.inj built).symm⟩

/-- An element whose loop is read alike is built leniently as it is strictly. -/
theorem ofElement_lenient {tag : String} {attributes : List Markup.Attribute} {location : Location}
    {content : List Node} {directive : Option Directive} {node : Node}
    (alike : ∀ value, directive = some (.loop value) → ReadsAlike value)
    (success : ofElement true tag attributes location content directive = .ok node) :
    ofElement false tag attributes location content directive = .ok node := by
  match directive with
  | some (.loop value) =>
      rw [ofElement, alike value rfl location] at success
      rw [ofElement, success]
  | some (.branch _ _) => exact success
  | none => exact success

mutual

/-- What is built strictly is built leniently if loops are read alike. -/
theorem ofMarkup_lenient :
    ∀ (node : Markup.Node) (template : Option Node), (∀ value ∈ forValues node, ReadsAlike value) →
      ofMarkup true node = .ok template → ofMarkup false node = .ok template
  | .doctype _ _, _, _, success => success
  | .comment _ _, _, _, success => success
  | .text _ _, _, _, success => success
  | .element tag attributes children detached location, template, alike, success => by
      obtain ⟨directive, content, node, foundDirective, foundContent, foundNode, rfl⟩ :=
        ofMarkup_element_ok success
      obtain ⟨rfl, _⟩ := directiveOf_ok foundDirective
      have sameContent := ofMarkups_lenient children content
        (fun value member => alike value (List.mem_append_right _ member)) foundContent
      have sameNode := ofElement_lenient ?_ foundNode
      · rw [ofMarkup, directiveOf_lenient, Result.ok_bind, sameContent, Result.ok_bind, sameNode]
        rfl
      · intro value isLoop
        apply alike
        split at isLoop
        · rename_i isTemplate
          simp [forValues, isTemplate, (Directive.find?_loop isLoop).1]
        · contradiction

/-- Siblings that are built strictly are built leniently. -/
theorem ofMarkups_lenient :
    ∀ (nodes : List Markup.Node) (templates : List Node),
      (∀ value ∈ allForValues nodes, ReadsAlike value) →
      ofMarkups true nodes = .ok templates → ofMarkups false nodes = .ok templates
  | [], _, _, success => success
  | node :: rest, templates, alike, success => by
      obtain ⟨first, others, foundFirst, foundOthers, rfl⟩ := ofMarkups_cons_ok success
      have sameFirst := ofMarkup_lenient node first
        (fun value member => alike value (List.mem_append_left _ member)) foundFirst
      have sameOthers := ofMarkups_lenient rest others
        (fun value member => alike value (List.mem_append_right _ member)) foundOthers
      rw [ofMarkups, sameFirst, Result.ok_bind, sameOthers]
      rfl

end

end HtmlTemplate.Template
