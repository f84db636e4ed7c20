/-
This file says when compiling fails. Faults of the markup are all reported and nothing else is. Without
them, compiling leniently never fails, and compiling strictly fails with a single fault of a directive
or of a branch without a chain.
-/

import HtmlTemplate.Compile.Basic
import HtmlTemplate.Proofs.Markup.Guarantees
import HtmlTemplate.Proofs.Script.Strictness
import HtmlTemplate.Proofs.Template.Building
import HtmlTemplate.Proofs.Template.Folding

namespace HtmlTemplate

open Template

/-- A stage succeeds exactly if its result does. -/
theorem failing_eq_ok {α : Type} {result : Except Diagnostic α} {value : α} :
    failing result = .ok value ↔ result = .ok value := by
  cases result <;> simp [failing]

/-- Builds and folds the template of markup without faults. -/
def templateOf (strict : Bool) (nodes : List Markup.Node) : Except Diagnostic Node := do
  fold strict (← ofDocument strict nodes)

/-- Faults of the markup are fatal. -/
theorem parseTemplate_faulty (options : Options) {source : String}
    (faulty : (readMarkup source).diagnostics ≠ []) :
    parseTemplate options source = .error ⟨(readMarkup source).diagnostics⟩ := by
  have reported : (!(readMarkup source).diagnostics.isEmpty) = true := by simpa using faulty
  rw [parseTemplate, if_pos reported]
  rfl

/-- Without faults of the markup the template decides. -/
theorem parseTemplate_clean (options : Options) {source : String}
    (clean : (readMarkup source).diagnostics = []) :
    parseTemplate options source =
      failing (templateOf options.strict (readMarkup source).nodes) := by
  rw [parseTemplate, clean, templateOf]
  cases ofDocument options.strict (readMarkup source).nodes <;> rfl

/-- A template is found in markup without faults only. -/
theorem parseTemplate_ok {options : Options} {source : String} {template : Node}
    (parsed : parseTemplate options source = .ok template) :
    (readMarkup source).diagnostics = [] ∧
      templateOf options.strict (readMarkup source).nodes = .ok template := by
  by_cases clean : (readMarkup source).diagnostics = []
  · rw [parseTemplate_clean options clean, failing_eq_ok] at parsed
    exact ⟨clean, parsed⟩
  · rw [parseTemplate_faulty options clean] at parsed
    contradiction

/-- A template is a root over the folded content of the document. -/
theorem templateOf_ok {strict : Bool} {nodes : List Markup.Node} {template : Node}
    (success : templateOf strict nodes = .ok template) :
    ∃ content children, ofMarkups strict nodes = .ok content ∧
      foldSiblings strict [] content = .ok children ∧ template = .root children .stub := by
  obtain ⟨document, foundDocument, folded⟩ := Result.bind_eq_ok success
  obtain ⟨content, foundContent, madeDocument⟩ := Result.bind_eq_ok foundDocument
  obtain rfl := Except.ok.inj madeDocument
  obtain ⟨children, foundChildren, madeTemplate⟩ := Result.bind_eq_ok folded
  exact ⟨content, children, foundContent, foundChildren, (Except.ok.inj madeTemplate).symm⟩

/-- A lenient template is always made. -/
theorem templateOf_lenient (nodes : List Markup.Node) :
    ∃ template, templateOf false nodes = .ok template := by
  obtain ⟨built, foundBuilt⟩ := (ofDocument_failsOnlyWith false nodes).exists_ok
  obtain ⟨folded, foundFolded⟩ := fold_lenient built
  exact ⟨folded, by rw [templateOf, foundBuilt, Result.ok_bind, foundFolded]⟩

/-- A strict template leaves no branch without a chain. -/
theorem looseBranches_templateOf {nodes : List Markup.Node} {template : Node}
    (success : templateOf true nodes = .ok template) : looseBranches template = [] := by
  obtain ⟨built, _, folded⟩ := Result.bind_eq_ok success
  exact (fold_strict_ok folded).2

/-- The faults for which a template without faults of the markup is refused. -/
def templateCodes : List Diagnostic.Code :=
  [.multipleDirectives, .emptyDirectiveExpression, .malformedForExpression, .orphanElseIf,
   .orphanElse]

theorem directiveCodes_subset : directiveCodes true ⊆ templateCodes := by
  simp [directiveCodes, templateCodes]

theorem orphanCode_mem_templateCodes (kind : BranchKind) : kind.orphanCode ∈ templateCodes := by
  cases kind <;> simp [BranchKind.orphanCode, templateCodes]

/-- A strict template fails only with the codes of templates. -/
theorem templateOf_strict_failsOnlyWith (nodes : List Markup.Node) :
    FailsOnlyWith templateCodes (templateOf true nodes) := by
  have building : FailsOnlyWith templateCodes (ofDocument true nodes) := by
    intro fault failed
    exact directiveCodes_subset (ofDocument_failsOnlyWith true nodes fault failed)
  refine building.bind fun built => ?_
  intro fault failed
  obtain ⟨branch, rfl⟩ := fold_strict_error failed
  exact orphanCode_mem_templateCodes branch.kind

/-- Parsing fails with all faults of the markup, or with one listed fault. -/
theorem parseTemplate_failure {options : Options} {source : String} {failure : Failure}
    (failed : parseTemplate options source = .error failure) :
    (failure = ⟨(readMarkup source).diagnostics⟩ ∧ (readMarkup source).diagnostics ≠ []) ∨
    ∃ fault, failure = ⟨[fault]⟩ ∧ fault.code ∈ templateCodes ∧
      (readMarkup source).diagnostics = [] := by
  by_cases clean : (readMarkup source).diagnostics = []
  · rw [parseTemplate_clean options clean] at failed
    cases strictness : options.strict with
    | false =>
        obtain ⟨template, found⟩ := templateOf_lenient (readMarkup source).nodes
        rw [strictness, found] at failed
        contradiction
    | true =>
        cases found : templateOf true (readMarkup source).nodes with
        | ok template =>
            rw [strictness, found] at failed
            contradiction
        | error fault =>
            rw [strictness, found] at failed
            have listed := templateOf_strict_failsOnlyWith _ fault found
            exact .inr ⟨fault, (Except.error.inj failed).symm, listed, clean⟩
  · rw [parseTemplate_faulty options clean] at failed
    exact .inl ⟨(Except.error.inj failed).symm, clean⟩

/-- What stops parsing stops compiling. -/
theorem compile_error {options : Options} {source : String} {failure : Failure} (name : String)
    (failed : parseTemplate options source = .error failure) :
    compile options name source = .error failure := by
  rw [compile, failed]
  rfl

/-- The merged template generates the module of the template itself. -/
theorem compile_ok {options : Options} {name source : String} {template : Node}
    {generated : Script.Generated} (parsed : parseTemplate options source = .ok template)
    (found : Script.generate options name template = .ok generated) :
    compile options name source = .ok
      ⟨mergeStatic template, generated.code, Digest.contentName generated.code,
        generated.diagnostics⟩ := by
  have merged : Script.generate options name (mergeStatic template) = .ok generated := by
    rw [← found, Script.generate_eq_writeModule, Script.generate_eq_writeModule,
      Script.blockOf_mergeStatic]
  simp only [compile, parsed, Result.ok_bind, merged, failing, Result.pure_eq_ok]

/-- Once there is a template, compiling succeeds, and strictly without diagnostics. -/
theorem compile_of_parseTemplate {options : Options} {source : String} {template : Node}
    (name : String) (parsed : parseTemplate options source = .ok template) :
    ∃ compiled, compile options name source = .ok compiled ∧
      (options.strict = true → compiled.diagnostics = []) := by
  obtain ⟨_, found⟩ := parseTemplate_ok parsed
  cases strictness : options.strict with
  | false =>
      obtain ⟨code, success⟩ := Script.generate_lenient options strictness name template
      exact ⟨_, compile_ok parsed success, fun strict => absurd strict Bool.false_ne_true⟩
  | true =>
      rw [strictness] at found
      obtain ⟨_, children, _, _, rfl⟩ := templateOf_ok found
      obtain ⟨code, success⟩ := Script.generate_without_strays options name _
        (Script.strayBranches_root (looseBranches_templateOf found))
      have here := success options.strict
      exact ⟨_, compile_ok parsed here, fun _ => rfl⟩

/-- Compiling fails only where the template does: the module is always generated. -/
theorem parseTemplate_error_of_compile {options : Options} {name source : String}
    {failure : Failure} (failed : compile options name source = .error failure) :
    parseTemplate options source = .error failure := by
  cases parsed : parseTemplate options source with
  | error other =>
      rw [compile_error name parsed] at failed
      rw [Except.error.inj failed]
  | ok template =>
      obtain ⟨compiled, success, _⟩ := compile_of_parseTemplate name parsed
      rw [success] at failed
      contradiction

/-- Faults of templates are not faults of markup. -/
theorem isMarkup_templateCodes : ∀ code ∈ templateCodes, code.isMarkup = false := by decide

/-- A failure is one of the markup exactly if the markup is at fault. -/
theorem isMarkup_parseTemplate_failure {options : Options} {source : String} {failure : Failure}
    (failed : parseTemplate options source = .error failure) :
    Diagnostic.Code.strayBranch ∉ failure.codes ∧
    (failure.isMarkup = true ↔ (readMarkup source).diagnostics ≠ []) := by
  rcases parseTemplate_failure failed with ⟨rfl, faulty⟩ | ⟨fault, rfl, listed, clean⟩
  · have markup : ∀ code ∈ Failure.codes ⟨(readMarkup source).diagnostics⟩,
        code.isMarkup = true := by
      intro code member
      obtain ⟨fault, reported, rfl⟩ := List.mem_map.mp member
      exact Markup.Document.isMarkup_of_mem _ _ fault reported
    refine ⟨fun stray => absurd (markup _ stray) (by decide), fun _ => faulty, fun _ => ?_⟩
    obtain ⟨fault, reported⟩ := List.exists_mem_of_ne_nil _ faulty
    have listed : fault.code ∈ Failure.codes ⟨(readMarkup source).diagnostics⟩ :=
      List.mem_map_of_mem reported
    exact List.any_eq_true.mpr ⟨fault.code, listed, markup _ listed⟩
  · have other : Diagnostic.Code.strayBranch ∉ templateCodes := by decide
    constructor
    · intro stray
      rw [List.mem_singleton.mp stray] at other
      exact other listed
    · simp [Failure.isMarkup, Failure.codes, isMarkup_templateCodes _ listed, clean]

/-- Compiling fails with the faults of the markup, or strictly with one fault. -/
theorem compile_outcome (options : Options) (name source : String) :
    ((readMarkup source).diagnostics ≠ [] →
      compile options name source = .error ⟨(readMarkup source).diagnostics⟩) ∧
    ((readMarkup source).diagnostics = [] → options.strict = false →
      ∃ compiled, compile options name source = .ok compiled) ∧
    ((readMarkup source).diagnostics = [] → options.strict = true →
      (∃ compiled, compile options name source = .ok compiled ∧ compiled.diagnostics = []) ∨
      ∃ fault : Diagnostic, compile options name source = .error ⟨[fault]⟩ ∧
        fault.code ∈ [Diagnostic.Code.multipleDirectives, .emptyDirectiveExpression,
          .malformedForExpression, .orphanElseIf, .orphanElse]) ∧
    ∀ failure, (compile options name source = .error failure ∨
        parseTemplate options source = .error failure) →
      Diagnostic.Code.strayBranch ∉ failure.codes ∧
      (failure.isMarkup = true ↔ (readMarkup source).diagnostics ≠ []) := by
  refine ⟨?_, ?_, ?_, ?_⟩
  · intro faulty
    exact compile_error name (parseTemplate_faulty options faulty)
  · intro clean lenient
    obtain ⟨template, found⟩ := templateOf_lenient (readMarkup source).nodes
    have parsed : parseTemplate options source = .ok template := by
      rw [parseTemplate_clean options clean, lenient, failing_eq_ok, found]
    obtain ⟨compiled, success, _⟩ := compile_of_parseTemplate name parsed
    exact ⟨compiled, success⟩
  · intro clean strict
    cases parsed : parseTemplate options source with
    | error failure =>
        rcases parseTemplate_failure parsed with ⟨_, faulty⟩ | ⟨fault, rfl, listed, _⟩
        · exact absurd clean faulty
        · exact .inr ⟨fault, compile_error name parsed, listed⟩
    | ok template =>
        obtain ⟨compiled, success, tidy⟩ := compile_of_parseTemplate name parsed
        exact .inl ⟨compiled, success, tidy strict⟩
  · intro failure failed
    rcases failed with compiling | parsing
    · exact isMarkup_parseTemplate_failure (parseTemplate_error_of_compile compiling)
    · exact isMarkup_parseTemplate_failure parsing

end HtmlTemplate
