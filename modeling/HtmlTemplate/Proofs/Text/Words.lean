/-
This file holds the words that texts are read as: what is kept up to the first other character, identifiers, and
texts with white space around them.
-/

import Mathlib.Data.List.DropRight
import Mathlib.Data.List.TakeWhile
import HtmlTemplate.Text.Basic

namespace HtmlTemplate.Text

/-- A text that does not go on with a kept character. -/
def Stops (keep : Char → Bool) (tail : List Char) : Prop := ∀ c ∈ tail.head?, keep c = false

theorem stops_cons {keep : Char → Bool} {c : Char} (tail : List Char) (other : keep c = false) :
    Stops keep (c :: tail) := by
  intro found isHead
  simp only [List.head?_cons, Option.mem_some_iff] at isHead
  rw [← isHead]
  exact other

/-- A word that stops at its first character does so before any tail. -/
theorem Stops.append {keep : Char → Bool} {word : List Char} (stops : Stops keep word)
    (filled : word ≠ []) (tail : List Char) : Stops keep (word ++ tail) := by
  cases word with
  | nil => contradiction
  | cons first others => exact stops_cons _ (stops first rfl)

/-- The characters up to a stop are taken. -/
theorem takeWhile_word {keep : Char → Bool} {word tail : List Char} (kept : word.all keep = true)
    (stops : Stops keep tail) : (word ++ tail).takeWhile keep = word := by
  rw [List.takeWhile_append_of_pos (List.all_eq_true.mp kept)]
  cases tail with
  | nil => simp
  | cons c rest => simp [stops c rfl]

/-- The characters up to a stop are dropped. -/
theorem dropWhile_word {keep : Char → Bool} {word tail : List Char} (kept : word.all keep = true)
    (stops : Stops keep tail) : (word ++ tail).dropWhile keep = tail := by
  rw [List.dropWhile_append_of_pos (List.all_eq_true.mp kept)]
  cases tail with
  | nil => rfl
  | cons c rest => simp [stops c rfl]

/-- What is left after dropping characters does not go on with them. -/
theorem stops_dropWhile (keep : Char → Bool) (chars : List Char) :
    Stops keep (chars.dropWhile keep) := by
  intro c isHead
  have stopped := List.head?_dropWhile_not keep chars
  rw [isHead] at stopped
  simpa using stopped

/-- ASCII letters, digits, underscores and dollar signs, and no digit in front. -/
structure IsIdentifier (word : List Char) : Prop where
  filled : word ≠ []
  chars : ∀ c ∈ word, c.isAlphanum = true ∨ c = '_' ∨ c = '$'
  first : ∀ c ∈ word.head?, c.isDigit = false

/-- The test of identifiers accepts the identifiers. -/
theorem isIdentifier_iff (word : List Char) : isIdentifier word = true ↔ IsIdentifier word := by
  have goesOn (c : Char) :
      isIdentifierChar c = true ↔ c.isAlphanum = true ∨ c = '_' ∨ c = '$' := by
    simp [isIdentifierChar, or_assoc]
  cases word with
  | nil =>
      exact ⟨fun accepted => absurd accepted Bool.false_ne_true,
        fun identifier => absurd rfl identifier.filled⟩
  | cons first rest =>
      rw [isIdentifier, isIdentifierStart, Bool.and_eq_true, Bool.and_eq_true, Bool.not_eq_true',
        List.all_eq_true]
      constructor
      · rintro ⟨⟨opens, noDigit⟩, others⟩
        refine ⟨List.cons_ne_nil first rest, ?_, by simpa using noDigit⟩
        exact List.forall_mem_cons.mpr
          ⟨(goesOn first).mp opens, fun c member => (goesOn c).mp (others c member)⟩
      · intro identifier
        obtain ⟨opens, others⟩ := List.forall_mem_cons.mp identifier.chars
        exact ⟨⟨(goesOn first).mpr opens, identifier.first first rfl⟩,
          fun c member => (goesOn c).mpr (others c member)⟩

/-- Letters and digits stand between two codes. -/
theorem toNat_of_isAlphanum {c : Char} (alphanumeric : c.isAlphanum = true) :
    0x30 ≤ c.toNat ∧ c.toNat ≤ 0x7A := by
  have within {low high : Char} (least : 0x30 ≤ low.toNat) (most : high.toNat ≤ 0x7A)
      (bounds : low.val ≤ c.val ∧ c.val ≤ high.val) : 0x30 ≤ c.toNat ∧ c.toNat ≤ 0x7A :=
    ⟨Nat.le_trans least bounds.1, Nat.le_trans bounds.2 most⟩
  have kinds : ((c.isUpper || c.isLower) || c.isDigit) = true := alphanumeric
  rw [Bool.or_eq_true, Bool.or_eq_true] at kinds
  rcases kinds with (upper | lower) | digit
  · exact @within 'A' 'Z' (by decide) (by decide) (of_decide_eq_true upper)
  · have bounds : (decide ('a'.val ≤ c.val) && decide (c.val ≤ 'z'.val)) = true := lower
    rw [Bool.and_eq_true, decide_eq_true_eq, decide_eq_true_eq] at bounds
    exact @within 'a' 'z' (by decide) (by decide) bounds
  · have bounds : (decide ('0'.val ≤ c.val) && decide (c.val ≤ '9'.val)) = true := digit
    rw [Bool.and_eq_true, decide_eq_true_eq, decide_eq_true_eq] at bounds
    exact @within '0' '9' (by decide) (by decide) bounds

/-- Letters and digits are no white space. -/
theorem isWhiteSpace_of_isAlphanum {c : Char} (alphanumeric : c.isAlphanum = true) :
    isWhiteSpace c = false := by
  obtain ⟨above, below⟩ := toNat_of_isAlphanum alphanumeric
  have visible : ∀ code ≤ 0x7A, 0x30 ≤ code → isWhiteSpace (Char.ofNat code) = false := by decide
  have here := visible c.toNat below above
  rwa [Char.ofNat_toNat] at here

/-- No digit is white space. -/
theorem isWhiteSpace_of_isDigit {c : Char} (digit : c.isDigit = true) : isWhiteSpace c = false := by
  apply isWhiteSpace_of_isAlphanum
  show ((c.isUpper || c.isLower) || c.isDigit) = true
  rw [digit, Bool.or_true]

/-- No character of an identifier is white space. -/
theorem IsIdentifier.isWhiteSpace_eq_false {word : List Char} (identifier : IsIdentifier word)
    {c : Char} (member : c ∈ word) : isWhiteSpace c = false := by
  rcases identifier.chars c member with alphanumeric | rfl | rfl
  · exact isWhiteSpace_of_isAlphanum alphanumeric
  · rfl
  · rfl

theorem IsIdentifier.opens {word : List Char} (identifier : IsIdentifier word) :
    Stops isWhiteSpace word :=
  fun _ isHead => identifier.isWhiteSpace_eq_false (List.mem_of_mem_head? isHead)

/-- White space that is not empty starts with white space. -/
theorem head_isWhiteSpace {blanks : List Char} (blank : blanks.all isWhiteSpace = true)
    (filled : blanks ≠ []) : blanks.head?.any isWhiteSpace = true := by
  obtain ⟨first, others, rfl⟩ := List.exists_cons_of_ne_nil filled
  rw [List.all_cons, Bool.and_eq_true] at blank
  exact blank.1

/-- White space goes up to the first character that is none. -/
theorem blanks_inj {first second tail other : List Char} (firstBlank : first.all isWhiteSpace = true)
    (secondBlank : second.all isWhiteSpace = true) (tailOpens : Stops isWhiteSpace tail)
    (otherOpens : Stops isWhiteSpace other) (same : first ++ tail = second ++ other) :
    first = second ∧ tail = other := by
  obtain rfl : first = second := by
    rw [← takeWhile_word firstBlank tailOpens, same,
      takeWhile_word secondBlank otherOpens]
  exact ⟨rfl, List.append_cancel_left same⟩

theorem trimEnd_eq_rdropWhile (chars : List Char) :
    trimEnd chars = chars.rdropWhile isWhiteSpace := rfl

/-- Trimming the end leaves the start trimmed. -/
theorem trimStart_trimEnd {chars : List Char} (trimmed : trimStart chars = chars) :
    trimStart (trimEnd chars) = trimEnd chars := by
  rw [trimStart, List.dropWhile_eq_self_iff] at trimmed ⊢
  intro filled
  have kept : trimEnd chars <+: chars := List.rdropWhile_prefix isWhiteSpace chars
  rw [kept.getElem filled]
  exact trimmed (filled.trans_le kept.length_le)

/-- A trimmed text is left as it is. -/
@[simp] theorem trim_trim (chars : List Char) : trim (trim chars) = trim chars := by
  have start : trimStart (trimStart chars) = trimStart chars := List.dropWhile_idempotent _ chars
  rw [trim, trim, trimStart_trimEnd start, trimEnd_eq_rdropWhile, trimEnd_eq_rdropWhile,
    List.rdropWhile_idempotent]

/-- A text that white space neither starts nor ends. -/
structure IsTrimmed (chars : List Char) : Prop where
  opens : ∀ c ∈ chars.head?, isWhiteSpace c = false
  closes : ∀ c ∈ chars.getLast?, isWhiteSpace c = false

/-- White space before a word is trimmed. -/
theorem trimStart_word {blanks word : List Char} (blank : blanks.all isWhiteSpace = true)
    (opens : ∀ c ∈ word.head?, isWhiteSpace c = false) : trimStart (blanks ++ word) = word :=
  dropWhile_word blank opens

/-- White space behind a word is trimmed. -/
theorem trimEnd_word {word blanks : List Char} (blank : blanks.all isWhiteSpace = true)
    (closes : ∀ c ∈ word.getLast?, isWhiteSpace c = false) : trimEnd (word ++ blanks) = word := by
  have reversed : blanks.reverse.all isWhiteSpace = true := by rwa [List.all_reverse]
  have stops : Stops isWhiteSpace word.reverse := by
    intro c isHead
    rw [List.head?_reverse] at isHead
    exact closes c isHead
  rw [trimEnd, List.reverse_append, dropWhile_word reversed stops, List.reverse_reverse]

/-- Trimming takes off what white space stands around a text. -/
theorem trim_padded {front word back : List Char} (frontBlank : front.all isWhiteSpace = true)
    (filled : word ≠ []) (trimmed : IsTrimmed word) (backBlank : back.all isWhiteSpace = true) :
    trim (front ++ (word ++ back)) = word := by
  have opens : Stops isWhiteSpace word := trimmed.opens
  rw [trim, trimStart_word frontBlank (opens.append filled back),
    trimEnd_word backBlank trimmed.closes]

/-- Trimming gives a trimmed text. -/
theorem isTrimmed_trim (chars : List Char) : IsTrimmed (trim chars) := by
  constructor
  · have start : trimStart (trimStart chars) = trimStart chars := List.dropWhile_idempotent _ chars
    have fixed : (trim chars).dropWhile isWhiteSpace = trim chars := trimStart_trimEnd start
    rw [← fixed]
    exact stops_dropWhile isWhiteSpace (trim chars)
  · intro c isLast
    have same : ((trimStart chars).reverse.dropWhile isWhiteSpace).head? = some c := by
      rw [← List.getLast?_reverse]
      exact isLast
    exact stops_dropWhile isWhiteSpace _ c same

/-- A text is what trimming leaves, with white space around it. -/
theorem exists_trim_padded (chars : List Char) :
    ∃ front back, front.all isWhiteSpace = true ∧ back.all isWhiteSpace = true ∧
      chars = front ++ (trim chars ++ back) := by
  refine ⟨chars.takeWhile isWhiteSpace, (trimStart chars).rtakeWhile isWhiteSpace,
    List.all_takeWhile, List.all_eq_true.mpr fun c member => List.mem_rtakeWhile_imp member, ?_⟩
  rw [trim, trimEnd_eq_rdropWhile, List.rdropWhile_append_rtakeWhile, trimStart,
    List.takeWhile_append_dropWhile]

/-- White space stands only before a text that it starts and does not end. -/
theorem exists_trim_blanks {chars : List Char} (opens : chars.head?.any isWhiteSpace = true)
    (closes : ∀ c ∈ chars.getLast?, isWhiteSpace c = false) :
    ∃ blanks, blanks.all isWhiteSpace = true ∧ blanks ≠ [] ∧ chars = blanks ++ trim chars := by
  obtain ⟨front, back, frontBlank, backBlank, whole⟩ := exists_trim_padded chars
  have noBack : back = [] := by
    by_contra filled
    have isLast : back.getLast filled ∈ chars.getLast? := by
      rw [whole, ← List.append_assoc, List.getLast?_append_of_ne_nil _ filled]
      exact List.getLast?_eq_some_getLast filled
    have blank := List.all_eq_true.mp backBlank _ (List.getLast_mem filled)
    rw [closes _ isLast] at blank
    contradiction
  rw [noBack, List.append_nil] at whole
  refine ⟨front, frontBlank, ?_, whole⟩
  rintro rfl
  rw [whole, List.nil_append] at opens
  cases word : trim chars with
  | nil => rw [word] at opens; contradiction
  | cons first others =>
      have visible := (isTrimmed_trim chars).opens first (by rw [word]; rfl)
      rw [word] at opens
      rw [show isWhiteSpace first = true from opens] at visible
      contradiction

/-- What follows the first word of a text after white space. -/
theorem exists_gap {value word : List Char}
    (follows : trimStart ((value.dropWhile fun c => !isWhiteSpace c).drop 1) = word)
    (filled : word ≠ []) :
    ∃ gap, gap.all isWhiteSpace = true ∧ gap ≠ [] ∧
      value = value.takeWhile (fun c => !isWhiteSpace c) ++ (gap ++ word) := by
  cases remaining : value.dropWhile fun c => !isWhiteSpace c with
  | nil =>
      rw [remaining] at follows
      exact absurd follows.symm filled
  | cons first others =>
      rw [remaining] at follows
      have blank : isWhiteSpace first = true := by
        have stops := stops_dropWhile (fun c => !isWhiteSpace c) value
        rw [remaining] at stops
        simpa using stops first rfl
      refine ⟨first :: others.takeWhile isWhiteSpace, ?_, List.cons_ne_nil _ _, ?_⟩
      · rw [List.all_cons, blank, List.all_takeWhile]
        rfl
      · have others : others = others.takeWhile isWhiteSpace ++ word := by
          rw [← follows]
          exact List.takeWhile_append_dropWhile.symm
        rw [List.cons_append, ← others, ← remaining, List.takeWhile_append_dropWhile]

end HtmlTemplate.Text
