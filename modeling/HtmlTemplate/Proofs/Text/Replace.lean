/-
This file computes what replacing makes of a text piece by piece: a part that is found is replaced as a whole,
and what stands between two such parts is kept.
-/

import HtmlTemplate.Text.Rewrite

namespace HtmlTemplate.Text

section

variable {read : List Char → Option (List Char × Nat)}

/-- The covered characters are passed over. -/
theorem replaceFrom_length_append (word rest : List Char) :
    replaceFrom read word.length (word ++ rest) = replaceAll read rest := by
  induction word with
  | nil => rfl
  | cons c word inductionHypothesis => exact inductionHypothesis

/-- A find is replaced, and the search goes on behind it. -/
theorem replaceAll_found {c : Char} {word rest replacement : List Char}
    (found : read (c :: (word ++ rest)) = some (replacement, word.length)) :
    replaceAll read (c :: (word ++ rest)) = replacement ++ replaceAll read rest := by
  rw [replaceAll, replaceFrom, found]
  exact congrArg (replacement ++ ·) (replaceFrom_length_append word rest)

/-- A character at which nothing is found is kept. -/
theorem replaceAll_kept {c : Char} {rest : List Char} (kept : read (c :: rest) = none) :
    replaceAll read (c :: rest) = c :: replaceAll read rest := by
  rw [replaceAll, replaceFrom, kept]
  rfl

/-- Replacing keeps a word without the mark that every replaced part starts with. -/
theorem replaceAll_append_of_notMem {mark : Char}
    (marked : ∀ c rest, c ≠ mark → read (c :: rest) = none) {word : List Char}
    (absent : mark ∉ word) (rest : List Char) :
    replaceAll read (word ++ rest) = word ++ replaceAll read rest := by
  induction word with
  | nil => rfl
  | cons c word inductionHypothesis =>
      simp only [List.mem_cons, not_or] at absent
      rw [List.cons_append, replaceAll_kept (marked c _ (Ne.symm absent.1)),
        inductionHypothesis absent.2]
      rfl

/-- What is written for each character is replaced on its own, whatever follows it. -/
theorem replaceAll_flatMap {write result : Char → List Char}
    (each : ∀ c rest, replaceAll read (write c ++ rest) = result c ++ replaceAll read rest)
    (chars : List Char) : replaceAll read (chars.flatMap write) = chars.flatMap result := by
  induction chars with
  | nil => rfl
  | cons c chars inductionHypothesis =>
      rw [List.flatMap_cons, List.flatMap_cons, each, inductionHypothesis]

end

/-- Replacing keeps a text without the mark that every replaced part starts with. -/
theorem replaceAll_of_notMem (read : List Char → Option (List Char × Nat)) (mark : Char)
    (marked : ∀ c rest, c ≠ mark → read (c :: rest) = none) (chars : List Char)
    (absent : mark ∉ chars) : replaceAll read chars = chars := by
  have kept := replaceAll_append_of_notMem marked absent []
  rwa [List.append_nil, replaceAll, replaceAll, replaceFrom, List.append_nil] at kept

end HtmlTemplate.Text
