/-
This file relates the ways of cutting a text: at byte offsets, and at the first place that satisfies a
condition.
-/

import HtmlTemplate.Text.Basic
import HtmlTemplate.Text.Rewrite

namespace HtmlTemplate.Text

/-- A text is cut where the condition holds, if anything is left of it. -/
theorem found_of_dropUntil {found : List Char → Bool} {chars : List Char}
    (more : dropUntil found chars ≠ []) : found (dropUntil found chars) = true := by
  induction chars with
  | nil => contradiction
  | cons c rest inductionHypothesis =>
      unfold dropUntil at more ⊢
      split
      · assumption
      · rw [if_neg ‹_›] at more
        exact inductionHypothesis more

/-- A search stops no later than at a place where its condition holds. -/
theorem takeUntil_prefix (found : List Char → Bool) (before after : List Char)
    (here : found after = true) : takeUntil found (before ++ after) <+: before := by
  induction before with
  | nil =>
      cases after with
      | nil => exact List.prefix_rfl
      | cons c rest => simp [takeUntil, here]
  | cons c rest inductionHypothesis =>
      rw [List.cons_append, takeUntil]
      split
      · exact List.nil_prefix
      · exact (List.prefix_cons_inj c).mpr inductionHypothesis

/-- A text with characters has bytes. -/
theorem byteLength_pos {chars : List Char} (filled : chars ≠ []) : 0 < byteLength chars := by
  cases chars with
  | nil => contradiction
  | cons c rest => exact Nat.add_pos_left c.utf8Size_pos _

theorem byteLength_eq_zero_iff (chars : List Char) : byteLength chars = 0 ↔ chars = [] := by
  refine ⟨fun none => ?_, fun empty => congrArg byteLength empty⟩
  exact Classical.byContradiction fun filled => Nat.ne_of_gt (byteLength_pos filled) none

/-- Every character takes a byte at least. -/
theorem length_le_byteLength (chars : List Char) : chars.length ≤ byteLength chars := by
  induction chars with
  | nil => exact Nat.le_refl 0
  | cons c rest inductionHypothesis =>
      rw [List.length_cons, byteLength_cons, Nat.add_comm]
      exact Nat.add_le_add c.utf8Size_pos inductionHypothesis

/-- Characters of one byte each are counted by their bytes. -/
theorem byteLength_eq_length {chars : List Char} (single : ∀ c ∈ chars, c.utf8Size = 1) :
    byteLength chars = chars.length := by
  induction chars with
  | nil => rfl
  | cons c rest inductionHypothesis =>
      obtain ⟨first, others⟩ := List.forall_mem_cons.mp single
      rw [byteLength_cons, first, inductionHypothesis others, List.length_cons, Nat.add_comm]

/-- The bytes of a first character leave those of the others. -/
theorem exists_byteLength_cons (c : Char) (rest : List Char) :
    ∃ count, byteLength (c :: rest) = count + 1 ∧ count + 1 - c.utf8Size = byteLength rest := by
  have positive := c.utf8Size_pos
  refine ⟨c.utf8Size + byteLength rest - 1, ?_, ?_⟩
  · rw [byteLength_cons]
    omega
  · omega

/-- As many bytes as a word has are the word. -/
theorem takeBytes_append (word rest : List Char) :
    takeBytes (word ++ rest) (byteLength word) = word := by
  induction word with
  | nil => cases rest <;> rfl
  | cons c more inductionHypothesis =>
      obtain ⟨count, whole, left⟩ := exists_byteLength_cons c more
      rw [whole, List.cons_append, takeBytes, left, inductionHypothesis]

/-- What is behind a word is left without its bytes. -/
theorem dropBytes_append (word rest : List Char) :
    dropBytes (word ++ rest) (byteLength word) = rest := by
  induction word with
  | nil => cases rest <;> rfl
  | cons c more inductionHypothesis =>
      obtain ⟨count, whole, left⟩ := exists_byteLength_cons c more
      rw [whole, List.cons_append, dropBytes, left, inductionHypothesis]

/-- What stands between two texts is what stands between its offsets. -/
theorem sliceBytes_append (before word after : List Char) :
    sliceBytes (before ++ (word ++ after)) (byteLength before)
      (byteLength before + byteLength word) = word := by
  rw [sliceBytes, dropBytes_append, Nat.add_sub_cancel_left, takeBytes_append]

/-- An offset at which a character starts, or the end of the text. -/
def IsBoundary (chars : List Char) (offset : Nat) : Prop :=
  ∃ before after, chars = before ++ after ∧ offset = byteLength before

/-- Of two ways to cut a text, the later cuts what the earlier leaves. -/
theorem exists_middle {before rest first last : List Char} (same : before ++ rest = first ++ last)
    (ordered : byteLength before ≤ byteLength first) :
    ∃ middle, first = before ++ middle ∧ rest = middle ++ last := by
  rcases List.append_eq_append_iff.mp same with ⟨middle, longer, left⟩ | ⟨extra, longer, left⟩
  · exact ⟨middle, longer, left⟩
  · have none : extra = [] := by
      rw [longer, byteLength_append] at ordered
      exact (byteLength_eq_zero_iff extra).mp (by omega)
    subst none
    exact ⟨[], by simpa using longer.symm, left.symm⟩

/-- Two boundaries cut a text into what is before, between and after them. -/
theorem IsBoundary.split {chars : List Char} {start stop : Nat} (first : IsBoundary chars start)
    (last : IsBoundary chars stop) (ordered : start ≤ stop) :
    ∃ before covered after, chars = before ++ (covered ++ after) ∧ start = byteLength before ∧
      stop = byteLength (before ++ covered) := by
  obtain ⟨before, rest, rfl, rfl⟩ := first
  obtain ⟨whole, after, same, rfl⟩ := last
  obtain ⟨covered, rfl, rfl⟩ := exists_middle same ordered
  exact ⟨before, covered, after, rfl, rfl, rfl⟩

end HtmlTemplate.Text
