/-
This file shows that compiling leniently extends compiling strictly: what compiles strictly compiles
leniently to the same template and the same module, as long as the values of loops are read alike.
-/

import HtmlTemplate.Proofs.Compile.Outcome

namespace HtmlTemplate

open Template

/-- A template that is made strictly is made leniently. -/
theorem templateOf_lenient_of_strict {nodes : List Markup.Node} {template : Node}
    (alike : ∀ value ∈ allForValues nodes, ReadsAlike value)
    (success : templateOf true nodes = .ok template) : templateOf false nodes = .ok template := by
  obtain ⟨built, foundBuilt, folded⟩ := Result.bind_eq_ok success
  obtain ⟨content, foundContent, made⟩ := Result.bind_eq_ok foundBuilt
  have sameContent := ofMarkups_lenient nodes content alike foundContent
  have sameFolded := (fold_strict_ok folded).1
  rw [templateOf, ofDocument, sameContent, Result.ok_bind, made, Result.ok_bind, sameFolded]

/-- A loop value whose guess is right is read alike. -/
theorem readsAlike_of_guess {value : String}
    (same : ForClause.parse? value.toList = some (ForClause.guess value.toList)) :
    ReadsAlike value := by
  intro location
  simp [ForClause.read, same]

/-- What compiles strictly compiles leniently alike, if loops are read alike. -/
theorem compile_extends_strict (options : Options) (name source : String) (compiled : Compiled)
    (strict : options.strict = true)
    (alike : ∀ value ∈ allForValues (readMarkup source).nodes, ∀ location,
      ForClause.read true value location = ForClause.read false value location)
    (success : compile options name source = .ok compiled) :
    compile { options with strict := false } name source = .ok compiled ∧
      compiled.diagnostics = [] := by
  cases parsed : parseTemplate options source with
  | error failure =>
      rw [compile_error name parsed] at success
      contradiction
  | ok template =>
      obtain ⟨clean, found⟩ := parseTemplate_ok parsed
      rw [strict] at found
      have lenientlyParsed : parseTemplate { options with strict := false } source =
          .ok template := by
        rw [parseTemplate_clean _ clean, failing_eq_ok]
        exact templateOf_lenient_of_strict alike found
      obtain ⟨_, children, _, _, rfl⟩ := templateOf_ok found
      obtain ⟨code, generated⟩ := Script.generate_without_strays options name _
        (Script.strayBranches_root (looseBranches_templateOf found))
      have strictly := compile_ok parsed (generated options.strict)
      have leniently := compile_ok lenientlyParsed (generated false)
      obtain rfl := Except.ok.inj (success.symm.trans strictly)
      exact ⟨leniently, rfl⟩

def rowsSource : String :=
  "<template for=\"row in data.rows\"><template if=\"row.first\">x</template>" ++
  "<template else>-</template></template>"

/-- A loop over a conditional compiles strictly, and its value is read alike. -/
theorem compile_extends_strict_rows :
    "row in data.rows" ∈ allForValues (readMarkup rowsSource).nodes ∧
    (∀ value ∈ allForValues (readMarkup rowsSource).nodes, ∀ location,
      ForClause.read true value location = ForClause.read false value location) ∧
    ∃ compiled, compile {} "rows" rowsSource = .ok compiled ∧
      compile { ({} : Options) with strict := false } "rows" rowsSource = .ok compiled ∧
      compiled.diagnostics = [] := by
  have evaluated : allForValues (readMarkup rowsSource).nodes = ["row in data.rows"] ∧
      (parseTemplate {} rowsSource).toOption.isSome = true := by
    decide +kernel
  obtain ⟨values, isSome⟩ := evaluated
  have alike : ∀ value ∈ allForValues (readMarkup rowsSource).nodes, ReadsAlike value := by
    rw [values]
    intro value member
    obtain rfl := List.mem_singleton.mp member
    exact readsAlike_of_guess (by decide +kernel)
  obtain ⟨template, parsed⟩ := Option.isSome_iff_exists.mp isSome
  obtain ⟨compiled, success, _⟩ :=
    compile_of_parseTemplate "rows" (Result.eq_ok_of_toOption parsed)
  exact ⟨by simp [values], alike, compiled, success,
    compile_extends_strict {} "rows" rowsSource compiled rfl alike success⟩

end HtmlTemplate
