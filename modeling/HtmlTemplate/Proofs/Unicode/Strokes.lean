/-
This file shows which characters composing never brings into a text. Decomposing may bring in an angle bracket,
but only with a stroke behind it, and composing joins the two again.
-/

import HtmlTemplate.Proofs.Unicode.Boundaries
import Mathlib

namespace HtmlTemplate.Unicode

/-- The long stroke that negates the sign before it. -/
def stroke : Char := '\u0338'

/-- Wherever a mark stands, the stroke follows, and the two are composed. -/
def Absorbed (mark : Char) : List Char → Prop
  | [] => True
  | c :: rest =>
      (c = mark → rest.head? = some stroke ∧ (compose? mark stroke).isSome = true) ∧
        Absorbed mark rest

/-- A mark that decomposing brings in only before a stroke it composes with. -/
structure IsGuarded (mark : Char) : Prop where
  filled : mark.toNat ≠ 0
  low : mark.toNat < 0x00C0
  singletons : ∀ entry ∈ Exclusions.singletons, entry.2 ≠ mark.toNat
  firsts : ∀ entry ∈ pairs, entry.2.1 = mark.toNat →
    entry.2.2 = stroke.toNat ∧ (compose? mark stroke).isSome = true

section

variable {mark : Char}

/-- A text without the mark has it absorbed. -/
theorem absorbed_of_notMem {chars : List Char} (absent : mark ∉ chars) : Absorbed mark chars := by
  induction chars with
  | nil => trivial
  | cons c rest inductionHypothesis =>
      simp only [List.mem_cons, not_or] at absent
      exact ⟨fun same => absurd same.symm absent.1, inductionHypothesis absent.2⟩

/-- Texts with the mark absorbed have it so in a row. -/
theorem Absorbed.append {first second : List Char} (here : Absorbed mark first)
    (later : Absorbed mark second) : Absorbed mark (first ++ second) := by
  induction first with
  | nil => exact later
  | cons c rest inductionHypothesis =>
      refine ⟨fun same => ?_, inductionHypothesis here.2⟩
      obtain ⟨follows, composed⟩ := here.1 same
      have stays : (rest ++ second).head? = some stroke := by
        rw [List.head?_append, follows, Option.some_or]
      exact ⟨stays, composed⟩

/-- Only its own code point gives a mark. -/
theorem IsGuarded.eq_of_ofNat (guarded : IsGuarded mark) {code : Nat}
    (same : Char.ofNat code = mark) : code = mark.toNat := by
  have value := Char.toNat_ofNat code
  rw [same] at value
  split at value
  · exact value.symm
  · exact absurd value guarded.filled

end

section

/-- Composites and second components are no ASCII characters. -/
theorem pairs_high : ∀ entry ∈ pairs, 0x00C0 ≤ entry.1 ∧ 0x0300 ≤ entry.2.2 := by decide +kernel

theorem composites_subset : ∀ entry ∈ Composites.all, entry ∈ pairs :=
  fun _ member => List.mem_append_right _ member

theorem ideographs_high :
    ∀ run ∈ Ideographs.runs, ∀ target ∈ run.targets, 0x00C0 ≤ target := by decide +kernel

/-- Unified ideographs are not low. -/
theorem unified?_high {code target : Nat} (found : Ideographs.unified? code = some target) :
    0x00C0 ≤ target := by
  obtain ⟨run, member, inRun⟩ := List.exists_of_findSome?_eq_some found
  split at inRun
  · exact ideographs_high run member target (List.mem_of_getElem? inRun)
  · contradiction

/-- The letters of Hangul are not low. -/
theorem hangulLetters_high {code : Nat} {letters : List Nat}
    (found : Hangul.decompose? code = some letters) : ∀ letter ∈ letters, 0x1100 ≤ letter := by
  unfold Hangul.decompose? at found
  split at found
  · obtain rfl := Option.some.inj found
    have leading : 0x1100 ≤ Hangul.leadingBase := by decide
    have vowel : 0x1100 ≤ Hangul.vowelBase := by decide
    have trailing : 0x1100 ≤ Hangul.trailingBase := by decide
    have above {base : Nat} (high : 0x1100 ≤ base) (index : Nat) : 0x1100 ≤ base + index :=
      Nat.le_trans high (Nat.le_add_right base index)
    intro letter member
    split at member <;> simp only [List.mem_cons, List.not_mem_nil, or_false] at member
    · rcases member with isLeading | isVowel
      · exact isLeading ▸ above leading _
      · exact isVowel ▸ above vowel _
    · rcases member with isLeading | isVowel | isTrailing
      · exact isLeading ▸ above leading _
      · exact isVowel ▸ above vowel _
      · exact isTrailing ▸ above trailing _
  · contradiction

variable {mark : Char} (guarded : IsGuarded mark)

include guarded

/-- No other character is unified to the mark. -/
theorem IsGuarded.unify_ne {code : Nat} (other : code ≠ mark.toNat) : unify code ≠ mark.toNat := by
  unfold unify
  split
  · rename_i target found
    obtain ⟨before, after, whole, _⟩ := List.lookup_eq_some_iff.mp found
    exact guarded.singletons (code, target) (by rw [whole]; simp)
  · cases found : Ideographs.unified? code with
    | none => exact other
    | some target =>
        have high := unified?_high found
        have low := guarded.low
        rw [Option.getD_some]
        omega

omit guarded in
/-- Low code points are not expanded. -/
theorem expand_low {table : List (Nat × Nat × Nat)} (known : ∀ entry ∈ table, entry ∈ pairs)
    {code : Nat} (low : code < 0x00C0) : expand table code = [code] := by
  induction table with
  | nil => rfl
  | cons entry rest inductionHypothesis =>
      obtain ⟨here, later⟩ := List.forall_mem_cons.mp known
      have high := (pairs_high entry here).1
      rw [expand, if_neg (by omega), inductionHypothesis later]

/-- A code point is expanded to a mark only together with the stroke. -/
theorem IsGuarded.absorbed_expand {table : List (Nat × Nat × Nat)}
    (known : ∀ entry ∈ table, entry ∈ pairs) {code : Nat} (other : code ≠ mark.toNat) :
    Absorbed mark ((expand table code).map Char.ofNat) := by
  induction table generalizing code with
  | nil => exact ⟨fun same => absurd (guarded.eq_of_ofNat same) other, trivial⟩
  | cons entry rest inductionHypothesis =>
      obtain ⟨here, later⟩ := List.forall_mem_cons.mp known
      obtain ⟨composite, first, second⟩ := entry
      have apart : Char.ofNat second ≠ mark := by
        intro same
        have value := guarded.eq_of_ofNat same
        have high : 0x0300 ≤ second := (pairs_high _ here).2
        have low := guarded.low
        omega
      have last : Absorbed mark [Char.ofNat second] := absorbed_of_notMem (by simpa using apart.symm)
      rw [expand]
      split
      · rw [List.map_append]
        by_cases isMark : first = mark.toNat
        · obtain ⟨isStroke, composed⟩ := guarded.firsts _ here isMark
          rw [expand_low later (isMark ▸ guarded.low)]
          refine ⟨fun _ => ⟨?_, composed⟩, last⟩
          show some (Char.ofNat second) = some stroke
          rw [show second = stroke.toNat from isStroke, Char.ofNat_toNat]
        · exact (inductionHypothesis later isMark).append last
      · exact inductionHypothesis later other

/-- Decomposing another character leaves the mark absorbed. -/
theorem IsGuarded.absorbed_decompose {c : Char} (other : c ≠ mark) :
    Absorbed mark (decompose c) := by
  have code : c.toNat ≠ mark.toNat := fun same => other (Char.toNat_inj.mp same)
  unfold decompose
  split
  · exact ⟨fun same => absurd same other, trivial⟩
  · split
    · rename_i letters found
      apply absorbed_of_notMem
      intro member
      obtain ⟨letter, inLetters, same⟩ := List.mem_map.mp member
      have value := guarded.eq_of_ofNat same
      have high := hangulLetters_high found letter inLetters
      have low := guarded.low
      omega
    · exact guarded.absorbed_expand (fun _ member => member) (guarded.unify_ne code)

/-- Decomposing a text without the mark leaves it absorbed. -/
theorem IsGuarded.absorbed_flatMap_decompose {chars : List Char} (absent : mark ∉ chars) :
    Absorbed mark (chars.flatMap decompose) := by
  induction chars with
  | nil => trivial
  | cons c rest inductionHypothesis =>
      simp only [List.mem_cons, not_or] at absent
      exact (guarded.absorbed_decompose (Ne.symm absent.1)).append (inductionHypothesis absent.2)

theorem IsGuarded.starter : combiningClass mark = 0 := combiningClass_low guarded.low

/-- Moving a character to its place never parts a mark from its stroke. -/
theorem IsGuarded.absorbed_insertMark {c : Char} (other : c ≠ mark) {chars : List Char}
    (absorbed : Absorbed mark chars) : Absorbed mark (insertMark c chars) := by
  induction chars with
  | nil => exact ⟨fun same => absurd same other, trivial⟩
  | cons next rest inductionHypothesis =>
      rw [insertMark]
      split
      · rename_i passed
        refine ⟨?_, inductionHypothesis absorbed.2⟩
        rintro rfl
        rw [guarded.starter] at passed
        exact absurd passed.1 (Nat.lt_irrefl 0)
      · exact ⟨fun same => absurd same other, absorbed⟩

omit guarded in
/-- No mark goes before a stroke, which has the lowest class. -/
theorem head?_reorder_stroke {chars : List Char} (starts : chars.head? = some stroke) :
    (reorder chars).head? = some stroke := by
  obtain ⟨rest, rfl⟩ := List.head?_eq_some_iff.mp starts
  have lowest : combiningClass stroke = 1 := by decide +kernel
  show (insertMark stroke (reorder rest)).head? = some stroke
  unfold insertMark
  split
  · rfl
  · rw [lowest, if_neg (by omega)]
    rfl

/-- Reordering leaves the mark absorbed. -/
theorem IsGuarded.absorbed_reorder {chars : List Char} (absorbed : Absorbed mark chars) :
    Absorbed mark (reorder chars) := by
  induction chars with
  | nil => trivial
  | cons c rest inductionHypothesis =>
      obtain ⟨here, later⟩ := absorbed
      show Absorbed mark (insertMark c (reorder rest))
      by_cases same : c = mark
      · rw [insertMark_starter (same ▸ guarded.starter)]
        exact ⟨fun _ => ⟨head?_reorder_stroke (here same).1, (here same).2⟩,
          inductionHypothesis later⟩
      · exact guarded.absorbed_insertMark same (inductionHypothesis later)

/-- A composite is no mark. -/
theorem IsGuarded.compose?_ne {first second composite : Char}
    (composed : compose? first second = some composite) : composite ≠ mark := by
  have low := guarded.low
  rintro rfl
  unfold compose? at composed
  split at composed
  · contradiction
  · split at composed
    · rename_i code found
      have value := guarded.eq_of_ofNat (Option.some.inj composed)
      have high : 0xAC00 ≤ code := by
        unfold Hangul.compose? at found
        rw [Hangul.syllableBase] at found
        split at found
        · rw [← Option.some.inj found]
          omega
        · split at found
          · rename_i syllable
            rw [← Option.some.inj found]
            omega
          · contradiction
      omega
    · obtain ⟨entry, found, same⟩ := Option.map_eq_some_iff.mp composed
      have value := guarded.eq_of_ofNat same
      have high := (pairs_high entry (composites_subset entry (List.mem_of_find?_eq_some found))).1
      omega

/-- No composite is the mark. -/
theorem IsGuarded.joined?_ne {starter c composite : Char} {apart : List Char}
    (found : joined? starter apart c = some composite) : composite ≠ mark := by
  cases apart with
  | nil => exact guarded.compose?_ne found
  | cons last older =>
      unfold joined? at found
      dsimp only at found
      split at found
      · exact guarded.compose?_ne found
      · contradiction

/-- The starter so far is no mark, or the stroke follows it directly. -/
theorem IsGuarded.notMem_composeAfter {starter : Char} {apart chars : List Char}
    (first : starter = mark →
      apart = [] ∧ chars.head? = some stroke ∧ (compose? mark stroke).isSome = true)
    (between : mark ∉ apart) (absorbed : Absorbed mark chars) :
    mark ∉ composeAfter starter apart chars := by
  induction chars generalizing starter apart with
  | nil =>
      have other : mark ≠ starter := fun same => by simpa using (first same.symm).2.1
      simpa [composeAfter, not_or] using ⟨other, between⟩
  | cons c rest inductionHypothesis =>
      obtain ⟨here, later⟩ := absorbed
      rw [composeAfter_cons]
      split
      · rename_i composite found
        exact inductionHypothesis (fun same => absurd same (guarded.joined?_ne found)) between later
      · rename_i stays
        have other : mark ≠ starter := by
          rintro rfl
          obtain ⟨rfl, follows, composed⟩ := first rfl
          obtain rfl : c = stroke := by simpa using follows
          rw [show joined? mark [] stroke = compose? mark stroke from rfl] at stays
          rw [stays] at composed
          contradiction
        split
        · have after := @inductionHypothesis c []
            (fun same => ⟨rfl, here same⟩) List.not_mem_nil later
          simp only [List.cons_append, List.mem_cons, List.mem_append, List.mem_reverse, not_or]
          exact ⟨other, between, after⟩
        · rename_i isMark
          have apartFrom : mark ≠ c := by
            rintro rfl
            exact isMark guarded.starter
          refine inductionHypothesis (fun same => absurd same.symm other) ?_ later
          simp only [List.mem_cons, not_or]
          exact ⟨apartFrom, between⟩

/-- Composing removes an absorbed mark. -/
theorem IsGuarded.notMem_compose {chars : List Char} (absorbed : Absorbed mark chars) :
    mark ∉ compose chars := by
  induction chars with
  | nil => exact List.not_mem_nil
  | cons c rest inductionHypothesis =>
      obtain ⟨here, later⟩ := absorbed
      rw [compose]
      split
      · exact guarded.notMem_composeAfter (fun same => ⟨rfl, here same⟩) List.not_mem_nil later
      · rename_i isMark
        have other : mark ≠ c := by
          rintro rfl
          exact isMark guarded.starter
        simp only [List.mem_cons, not_or]
        exact ⟨other, inductionHypothesis later⟩

/-- Composing a text does not bring in a guarded mark. -/
theorem IsGuarded.notMem_normalize {chars : List Char} (absent : mark ∉ chars) :
    mark ∉ normalize chars :=
  guarded.notMem_compose (guarded.absorbed_reorder (guarded.absorbed_flatMap_decompose absent))

end

end HtmlTemplate.Unicode
