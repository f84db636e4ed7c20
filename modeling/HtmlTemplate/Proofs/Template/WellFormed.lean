/-
This file says which templates are well formed, and shows that building and folding give no others. A
built template still has its branches side by side, and folding gathers them into whole conditionals.
-/

import HtmlTemplate.Proofs.Markup.Guarantees
import HtmlTemplate.Proofs.Template.Building
import HtmlTemplate.Proofs.Template.Chain
import HtmlTemplate.Proofs.Template.Directive
import HtmlTemplate.Proofs.Template.Folding
import HtmlTemplate.Proofs.Template.Interpolation
import HtmlTemplate.Proofs.Template.Traversal

namespace HtmlTemplate.Template

/-- Every branch but an else branch has a condition, strictly not blank. -/
def Branch.StatesCondition (strict : Bool) (branch : Branch Node) : Prop :=
  match branch.kind, branch.condition with
  | .elseCase, none => True
  | .elseCase, some _ => False
  | _, none => False
  | _, some condition =>
      condition ≠ "" ∧ (strict = true → Text.isBlankText condition = false)

/-- What holds of each node below the root of a template. -/
def Node.IsWellFormed (strict : Bool) : Node → Prop
  | .root _ _ => False
  | .doctype _ _ => True
  | .text content _ => Text.isBlankText content = false ∧ ¬HasInterpolation content.toList
  | .interpolated parts _ => (∃ expression, .variable expression ∈ parts) ∧ TextsApart parts
  | .element tag _ children _ => Markup.Tag.isVoid tag = true → children = []
  | .loop iterator source _ _ => strict = true → ForClause.IsStrict ⟨iterator, source⟩
  | .branch marked =>
      strict = false ∧ marked.kind ≠ .ifCase ∧ marked.StatesCondition strict
  | .chain branches _ =>
      isConditional branches = true ∧ ∀ branch ∈ branches, branch.StatesCondition strict
  | .staticBlock _ _ => False

/-- What holds of each node before branches are folded. -/
def Node.IsBuilt (strict : Bool) : Node → Prop
  | .branch marked => marked.StatesCondition strict
  | .chain _ _ => False
  | other => other.IsWellFormed strict

section Building

variable {strict : Bool} {location : Location}

/-- A text is dropped, literal without interpolation, or has an expression. -/
theorem ofText_isBuilt (strict : Bool) {content : String} {node : Node}
    (built : ofText content location = some node) : node.preorder = [node] ∧ node.IsBuilt strict := by
  unfold ofText at built
  split at built
  · contradiction
  · rename_i notBlank
    have filled : content ≠ "" := by
      rintro rfl
      exact notBlank rfl
    have apart : TextsApart (splitInterpolations content) := textsApart_splitFrom 0 [] content.toList
    split at built
    · rename_i literal onlyText
      obtain rfl := Option.some.inj built
      have plain : ∀ expression, .variable expression ∉ splitInterpolations content := by
        simp [onlyText]
      obtain ⟨whole, markerFree⟩ := splitInterpolations_without_variable content filled plain
      obtain rfl : literal = content := by simpa [onlyText] using whole
      exact ⟨by simp [Node.preorder], by simpa using notBlank, markerFree⟩
    · rename_i parts severalParts
      obtain rfl := Option.some.inj built
      refine ⟨by simp [Node.preorder], ?_, apart⟩
      by_contra plain
      obtain ⟨whole, _⟩ := splitInterpolations_without_variable content filled
        (fun expression member => plain ⟨expression, member⟩)
      exact severalParts content whole

/-- The condition of a branch that a directive asks for. -/
theorem statesCondition_of_directiveOf {tag : String} {attributes : List Markup.Attribute}
    {kind : BranchKind} {condition : Option String} {content : List Node}
    (found : directiveOf strict tag attributes location = .ok (some (.branch kind condition))) :
    Branch.StatesCondition strict ⟨kind, condition, content, location⟩ := by
  obtain ⟨isFind, checked⟩ := directiveOf_ok found
  split at isFind
  · rename_i isTemplate
    rcases Directive.find?_branch isFind.symm with ⟨rfl, rfl⟩ | ⟨notElse, text, rfl, value, filled⟩
    · trivial
    · have needed : kind.directive ∈ Directive.expressionNames := by
        cases kind with
        | ifCase => decide
        | elseIfCase => decide
        | elseCase => contradiction
      have states : text ≠ "" ∧ (strict = true → Text.isBlankText text = false) :=
        ⟨by simpa using filled, fun isStrict =>
          Directive.isBlankText_of_check (checked isStrict isTemplate) needed value⟩
      cases kind with
      | ifCase => exact states
      | elseIfCase => exact states
      | elseCase => contradiction
  · contradiction

/-- An element is built with its content below it. -/
theorem ofElement_isBuilt {tag : String} {attributes : List Markup.Attribute} {content : List Node}
    {directive : Option Directive} {node : Node}
    (found : directiveOf strict tag attributes location = .ok directive)
    (void : Markup.Tag.isVoid tag = true → content = [])
    (built : ofElement strict tag attributes location content directive = .ok node) :
    node.preorder = node :: preorderAll content ∧ node.IsBuilt strict := by
  match directive with
  | some (.loop value) =>
      obtain ⟨clause, read, made⟩ := Result.bind_eq_ok built
      obtain rfl := Except.ok.inj made
      refine ⟨by simp [Node.preorder], ?_⟩
      intro isStrict
      rw [isStrict] at read
      exact ForClause.isStrict_of_read read
  | some (.branch kind condition) =>
      obtain rfl := Except.ok.inj built
      exact ⟨by simp [Node.preorder], statesCondition_of_directiveOf found⟩
  | none =>
      obtain rfl := Except.ok.inj built
      exact ⟨by simp [Node.preorder], void⟩

variable {options : Markup.ReadOptions}

mutual

/-- Markup whose void elements are empty is built to well-formed nodes. -/
theorem ofMarkup_isBuilt (standard : options.isVoid = Markup.Tag.isVoid) :
    ∀ (node : Markup.Node) (template : Option Node),
      (∀ found ∈ node.preorder, found.KeepsVoid options) → ofMarkup strict node = .ok template →
      ∀ built ∈ template, ∀ found ∈ built.preorder, found.IsBuilt strict
  | .doctype doctype location, template, _, success, built, isBuilt => by
      obtain rfl := Except.ok.inj success
      obtain rfl := Option.some.inj isBuilt
      exact List.forall_mem_cons.mpr ⟨trivial, by simp⟩
  | .comment _ _, template, _, success, built, isBuilt => by
      obtain rfl := Except.ok.inj success
      contradiction
  | .text content location, template, _, success, built, isBuilt => by
      obtain rfl := Except.ok.inj success
      obtain ⟨single, ready⟩ := ofText_isBuilt strict isBuilt
      rw [single]
      exact List.forall_mem_cons.mpr ⟨ready, by simp⟩
  | .element tag attributes children detached location, template, void, success, built, isBuilt => by
      obtain ⟨directive, content, node, foundDirective, foundContent, foundNode, rfl⟩ :=
        ofMarkup_element_ok success
      obtain rfl := Option.some.inj isBuilt
      obtain ⟨keepsVoid, below⟩ := List.forall_mem_cons.mp void
      have inside := ofMarkups_isBuilt standard children content below foundContent
      have empty : Markup.Tag.isVoid tag = true → content = [] := by
        intro isVoid
        rw [← standard] at isVoid
        obtain rfl : children = [] := keepsVoid isVoid
        exact (Except.ok.inj foundContent).symm
      obtain ⟨shape, ready⟩ := ofElement_isBuilt foundDirective empty foundNode
      rw [shape]
      exact List.forall_mem_cons.mpr ⟨ready, inside⟩

/-- Siblings are built to well-formed nodes. -/
theorem ofMarkups_isBuilt (standard : options.isVoid = Markup.Tag.isVoid) :
    ∀ (nodes : List Markup.Node) (templates : List Node),
      (∀ found ∈ Markup.preorderAll nodes, found.KeepsVoid options) →
      ofMarkups strict nodes = .ok templates →
      ∀ found ∈ preorderAll templates, found.IsBuilt strict
  | [], templates, _, success => by
      obtain rfl := Except.ok.inj success
      exact fun _ absent => absurd absent List.not_mem_nil
  | node :: rest, templates, void, success => by
      obtain ⟨first, others, foundFirst, foundOthers, rfl⟩ := ofMarkups_cons_ok success
      obtain ⟨inNode, inRest⟩ := List.forall_mem_append.mp void
      have builtFirst := ofMarkup_isBuilt standard node first inNode foundFirst
      have builtOthers := ofMarkups_isBuilt standard rest others inRest foundOthers
      rw [preorderAll_append]
      refine List.forall_mem_append.mpr ⟨?_, builtOthers⟩
      cases first with
      | none => exact fun _ absent => absurd absent List.not_mem_nil
      | some built => simpa [preorderAll] using builtFirst built rfl

end

end Building

section Folding

variable {strict : Bool}

/-- A branch with its condition and a folded body. -/
structure Branch.IsWellFormed (strict : Bool) (branch : Branch Node) : Prop where
  condition : branch.StatesCondition strict
  body : ∀ node ∈ preorderAll branch.body, node.IsWellFormed strict

/-- A node whose children are folded, whether or not it has a chain. -/
def Node.IsFolded (strict : Bool) : Node → Prop
  | .branch marked => marked.IsWellFormed strict
  | other => ∀ node ∈ other.preorder, node.IsWellFormed strict

/-- An open chain: an if branch and else-if branches, or nothing. -/
structure IsUnfinished (strict : Bool) (branches : List (Branch Node)) : Prop where
  first : ∀ branch ∈ branches.head?, branch.kind = .ifCase
  others : ∀ branch ∈ branches.tail, branch.kind = .elseIfCase
  whole : ∀ branch ∈ branches, branch.IsWellFormed strict

theorem isUnfinished_nil : IsUnfinished strict [] :=
  ⟨by simp, by simp, by simp⟩

theorem isUnfinished_singleton {branch : Branch Node} (isIf : branch.kind = .ifCase)
    (whole : branch.IsWellFormed strict) : IsUnfinished strict [branch] :=
  ⟨by simpa using isIf, by simp, by simpa using whole⟩

/-- An else-if branch leaves a chain unfinished. -/
theorem IsUnfinished.append {first branch : Branch Node} {more : List (Branch Node)}
    (unfinished : IsUnfinished strict (first :: more)) (isElseIf : branch.kind = .elseIfCase)
    (whole : branch.IsWellFormed strict) : IsUnfinished strict (first :: more ++ [branch]) := by
  refine ⟨unfinished.first, ?_, ?_⟩
  · exact List.forall_mem_append.mpr ⟨unfinished.others, by simpa using isElseIf⟩
  · exact List.forall_mem_append.mpr ⟨unfinished.whole, by simpa using whole⟩

/-- Else-if branches put off the question how a conditional goes on. -/
theorem continuesConditional_append (strict : Bool) {branches : List (Branch Node)}
    (elseIf : ∀ branch ∈ branches, branch.kind = .elseIfCase ∧ branch.StatesCondition strict)
    (last : List (Branch Node)) :
    continuesConditional (branches ++ last) = continuesConditional last := by
  induction branches with
  | nil => rfl
  | cons branch rest inductionHypothesis =>
      obtain ⟨isElseIf, states⟩ := elseIf branch List.mem_cons_self
      rcases branch with ⟨kind, condition, body, location⟩
      obtain rfl : kind = .elseIfCase := isElseIf
      cases condition with
      | none => contradiction
      | some condition =>
          rw [List.cons_append, continuesConditional]
          exact inductionHypothesis fun other member =>
            elseIf other (List.mem_cons_of_mem _ member)

/-- An open chain becomes a conditional with whatever may come last in one. -/
theorem IsUnfinished.isConditional {first : Branch Node} {more : List (Branch Node)}
    (unfinished : IsUnfinished strict (first :: more)) (last : List (Branch Node))
    (ends : continuesConditional last = true) :
    isConditional (first :: more ++ last) = true := by
  have isIf := unfinished.first first rfl
  have states := (unfinished.whole first List.mem_cons_self).condition
  have tail : continuesConditional (more ++ last) = true := by
    rw [continuesConditional_append strict ?_ last, ends]
    intro branch member
    exact ⟨unfinished.others branch member,
      (unfinished.whole branch (List.mem_cons_of_mem _ member)).condition⟩
  rcases first with ⟨kind, condition, body, location⟩
  obtain rfl : kind = .ifCase := isIf
  cases condition with
  | none => contradiction
  | some condition => simp [Template.isConditional, tail]

/-- The node of a whole conditional. -/
theorem isWellFormed_chainOf {branches : List (Branch Node)}
    (conditional : branches ≠ [] → isConditional branches = true)
    (whole : ∀ branch ∈ branches, branch.IsWellFormed strict) :
    ∀ node ∈ preorderAll (chainOf branches), node.IsWellFormed strict := by
  cases branches with
  | nil => simp [chainOf, preorderAll]
  | cons first more =>
      intro node member
      rw [chainOf, preorderAll, preorderAll, List.append_nil, Node.preorder, List.mem_cons,
        mem_preorderBodies] at member
      rcases member with rfl | ⟨branch, isBranch, inBody⟩
      · exact ⟨conditional (List.cons_ne_nil first more),
          fun branch isBranch => (whole branch isBranch).condition⟩
      · exact (whole branch isBranch).body node inBody

/-- An unfinished chain is well formed as it is. -/
theorem IsUnfinished.chainOf {branches : List (Branch Node)}
    (unfinished : IsUnfinished strict branches) :
    ∀ node ∈ preorderAll (chainOf branches), node.IsWellFormed strict := by
  refine isWellFormed_chainOf ?_ unfinished.whole
  intro filled
  obtain ⟨first, more, rfl⟩ := List.exists_cons_of_ne_nil filled
  have conditional := unfinished.isConditional [] rfl
  rwa [List.append_nil] at conditional

/-- An else branch closes an open chain. -/
theorem IsUnfinished.close {first branch : Branch Node} {more : List (Branch Node)}
    (unfinished : IsUnfinished strict (first :: more)) (isElse : branch.kind = .elseCase)
    (whole : branch.IsWellFormed strict) :
    ∀ node ∈ preorderAll (Template.chainOf (first :: more ++ [branch])),
      node.IsWellFormed strict := by
  have states := whole.condition
  have ends : continuesConditional [branch] = true := by
    rcases branch with ⟨kind, condition, body, location⟩
    obtain rfl : kind = .elseCase := isElse
    cases condition with
    | none => rfl
    | some condition => contradiction
  refine isWellFormed_chainOf (fun _ => unfinished.isConditional [branch] ends) ?_
  exact List.forall_mem_append.mpr ⟨unfinished.whole, by simpa using whole⟩

/-- A branch that continues no chain stays where it is. -/
theorem isWellFormed_orphan {branch : Branch Node} (whole : branch.IsWellFormed strict)
    (notIf : branch.kind ≠ .ifCase) (lenient : strict = false) :
    ∀ node ∈ preorderAll [.branch branch], node.IsWellFormed strict := by
  intro node member
  rw [preorderAll, preorderAll, List.append_nil, Node.preorder, List.mem_cons] at member
  rcases member with rfl | inBody
  · exact ⟨lenient, notIf, whole.condition⟩
  · exact whole.body node inBody

/-- Placing a sibling keeps complete nodes well formed and the chain open. -/
theorem place_isWellFormed {unfinished : List (Branch Node)} {folded : Node}
    (before : IsUnfinished strict unfinished) (ready : folded.IsFolded strict)
    (admitted : strict = true → orphanOf unfinished folded = []) :
    (∀ node ∈ preorderAll (place unfinished folded).1, node.IsWellFormed strict) ∧
      IsUnfinished strict (place unfinished folded).2 := by
  cases folded with
  | branch branch =>
      have whole : branch.IsWellFormed strict := ready
      rcases branch with ⟨kind, condition, body, location⟩
      match kind, unfinished with
      | .ifCase, _ => exact ⟨before.chainOf, isUnfinished_singleton rfl whole⟩
      | .elseIfCase, first :: more =>
          exact ⟨fun _ absent => absurd absent List.not_mem_nil, before.append rfl whole⟩
      | .elseCase, first :: more => exact ⟨before.close rfl whole, isUnfinished_nil⟩
      -- Strictly, a branch without an open chain has been refused.
      | .elseIfCase, [] =>
          have lenient : strict = false := by simpa [orphanOf] using admitted
          exact ⟨isWellFormed_orphan whole (by simp) lenient, isUnfinished_nil⟩
      | .elseCase, [] =>
          have lenient : strict = false := by simpa [orphanOf] using admitted
          exact ⟨isWellFormed_orphan whole (by simp) lenient, isUnfinished_nil⟩
  | _ =>
      refine ⟨?_, isUnfinished_nil⟩
      intro node member
      simp only [place, preorderAll_append, List.mem_append, preorderAll, List.append_nil] at member
      rcases member with inChain | inOther
      · exact before.chainOf node inChain
      · exact ready node inOther

mutual

/-- Folding a node folds all that is inside it. -/
theorem fold_isFolded : ∀ node folded : Node, (∀ found ∈ node.preorder, found.IsBuilt strict) →
    fold strict node = .ok folded → folded.IsFolded strict
  | .root children location, _, built, _ => (built _ List.mem_cons_self).elim
  | .doctype doctype location, folded, built, success => by
      obtain rfl := Except.ok.inj success
      exact List.forall_mem_cons.mpr ⟨built _ List.mem_cons_self, by simp⟩
  | .text content location, folded, built, success => by
      obtain rfl := Except.ok.inj success
      exact List.forall_mem_cons.mpr ⟨built _ List.mem_cons_self, by simp⟩
  | .interpolated parts location, folded, built, success => by
      obtain rfl := Except.ok.inj success
      exact List.forall_mem_cons.mpr ⟨built _ List.mem_cons_self, by simp⟩
  | .element tag attributes children location, folded, built, success => by
      obtain ⟨shape, below⟩ := List.forall_mem_cons.mp built
      obtain ⟨siblings, foundSiblings, made⟩ := Result.bind_eq_ok success
      obtain rfl := Except.ok.inj made
      refine List.forall_mem_cons.mpr
        ⟨?_, foldSiblings_isWellFormed [] children siblings isUnfinished_nil below foundSiblings⟩
      intro isVoid
      obtain rfl : children = [] := shape isVoid
      exact (Except.ok.inj foundSiblings).symm
  | .loop iterator source body location, folded, built, success => by
      obtain ⟨shape, below⟩ := List.forall_mem_cons.mp built
      obtain ⟨siblings, foundSiblings, made⟩ := Result.bind_eq_ok success
      obtain rfl := Except.ok.inj made
      exact List.forall_mem_cons.mpr
        ⟨shape, foldSiblings_isWellFormed [] body siblings isUnfinished_nil below foundSiblings⟩
  | .branch branch, folded, built, success => by
      obtain ⟨shape, below⟩ := List.forall_mem_cons.mp built
      obtain ⟨siblings, foundSiblings, made⟩ := Result.bind_eq_ok success
      obtain rfl := Except.ok.inj made
      exact ⟨shape,
        foldSiblings_isWellFormed [] branch.body siblings isUnfinished_nil below foundSiblings⟩
  | .chain branches location, _, built, _ => (built _ List.mem_cons_self).elim
  | .staticBlock children html, _, built, _ => (built _ List.mem_cons_self).elim

/-- After an open chain, siblings fold to well-formed nodes. -/
theorem foldSiblings_isWellFormed : ∀ (unfinished : List (Branch Node)) (nodes siblings : List Node),
    IsUnfinished strict unfinished → (∀ found ∈ preorderAll nodes, found.IsBuilt strict) →
    foldSiblings strict unfinished nodes = .ok siblings →
    ∀ found ∈ preorderAll siblings, found.IsWellFormed strict
  | unfinished, [], siblings, before, _, success => by
      obtain rfl := Except.ok.inj success
      exact before.chainOf
  | unfinished, node :: rest, siblings, before, built, success => by
      rw [foldSiblings_cons] at success
      obtain ⟨folded, foundFolded, afterFolded⟩ := Result.bind_eq_ok success
      obtain ⟨placed, foundPlaced, afterPlaced⟩ := Result.bind_eq_ok afterFolded
      obtain ⟨others, foundOthers, made⟩ := Result.bind_eq_ok afterPlaced
      obtain rfl := Except.ok.inj made
      obtain ⟨rfl, admitted⟩ := unlessLoose_eq_ok foundPlaced
      obtain ⟨inNode, inRest⟩ := List.forall_mem_append.mp built
      have ready := fold_isFolded node folded inNode foundFolded
      obtain ⟨complete, after⟩ := place_isWellFormed before ready admitted
      have later := foldSiblings_isWellFormed _ rest others after inRest foundOthers
      rw [preorderAll_append]
      exact List.forall_mem_append.mpr ⟨complete, later⟩

end

end Folding

end HtmlTemplate.Template
