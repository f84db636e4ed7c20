/-
This file shows that escaped texts hold none of the marks that delimit tags and attribute values, and that texts
of plain ASCII characters pass through composing, decoding and escaping as they are.
-/

import HtmlTemplate.Escape.Basic
import HtmlTemplate.Proofs.Text.Replace
import HtmlTemplate.Reference.Decode

namespace HtmlTemplate.Escape

/-- The characters that delimit tags and attribute values. -/
def marks : List Char := ['<', '>', '"', '\'']

/-- No encoded character holds a mark. -/
theorem notMem_encodeChar {mark : Char} (isMark : mark ∈ marks) (c : Char) :
    mark ∉ encodeChar c := by
  simp only [marks, List.mem_cons, List.not_mem_nil, or_false] at isMark
  unfold encodeChar
  -- A mark never stands for itself, and the references that stand for marks are made of other
  -- characters.
  split <;> rcases isMark with rfl | rfl | rfl | rfl <;> simp_all [eq_comm]

/-- No encoded text holds a mark. -/
theorem notMem_encodeChars {mark : Char} (isMark : mark ∈ marks) (chars : List Char) :
    mark ∉ encodeChars chars := by
  intro member
  obtain ⟨c, _, found⟩ := List.mem_flatMap.mp member
  exact notMem_encodeChar isMark c found

/-- No escaped text holds a mark. -/
theorem notMem_escape {mark : Char} (isMark : mark ∈ marks) (text : String) :
    mark ∉ (escape text).toList := by
  rw [escape, String.toList_ofList]
  exact notMem_encodeChars isMark _

/-- Whatever the value, none of the marks is in its escaped text. -/
theorem notMem_escapeValue {mark : Char} (isMark : mark ∈ marks) (value : Data.Value) :
    mark ∉ (escapeValue value).toList := by
  unfold escapeValue
  split
  · exact List.not_mem_nil
  · exact notMem_escape isMark value.text

end HtmlTemplate.Escape

namespace HtmlTemplate

namespace Reference

/-- A reference starts with an ampersand. -/
theorem reference?_eq_none (c : Char) (rest : List Char) (other : c ≠ '&') :
    reference? (c :: rest) = none := by
  unfold reference?
  split <;> simp_all

/-- A value without an ampersand has nothing to decode. -/
theorem decode_of_notMem (chars : List Char) (absent : '&' ∉ chars) : decode chars = chars :=
  Text.replaceAll_of_notMem reference? '&' reference?_eq_none chars absent

end Reference

namespace Unicode

/-- No character before the first accented one is a mark. -/
theorem combiningClass_low {c : Char} (low : c.toNat < 0x00C0) : combiningClass c = 0 := by
  rw [combiningClass, if_pos (by omega)]

/-- Low characters are not decomposed. -/
theorem flatMap_decompose_low (chars : List Char) (low : ∀ c ∈ chars, c.toNat < 0x00C0) :
    chars.flatMap decompose = chars := by
  induction chars with
  | nil => rfl
  | cons c rest inductionHypothesis =>
      have here : decompose c = [c] := by rw [decompose, if_pos (low c List.mem_cons_self)]
      rw [List.flatMap_cons, here,
        inductionHypothesis fun other member => low other (List.mem_cons_of_mem c member)]
      rfl

/-- Low characters stay in order. -/
theorem reorder_low (chars : List Char) (low : ∀ c ∈ chars, c.toNat < 0x00C0) :
    reorder chars = chars := by
  induction chars with
  | nil => rfl
  | cons c rest inductionHypothesis =>
      have later : rest.foldr insertMark [] = rest :=
        inductionHypothesis fun other member => low other (List.mem_cons_of_mem c member)
      rw [reorder, List.foldr_cons, later]
      cases rest with
      | nil => rfl
      | cons next more =>
          have starter : combiningClass next = 0 := combiningClass_low (low next (by simp))
          simp [insertMark, starter]

/-- Low characters are not composed. -/
theorem composeAfter_low (starter : Char) (chars : List Char)
    (low : ∀ c ∈ chars, c.toNat < 0x00C0) : composeAfter starter [] chars = starter :: chars := by
  induction chars generalizing starter with
  | nil => rfl
  | cons c rest inductionHypothesis =>
      have here : c.toNat < 0x00C0 := low c List.mem_cons_self
      have apart : compose? starter c = none := by rw [compose?, if_pos (by omega)]
      have later := inductionHypothesis c fun other member =>
        low other (List.mem_cons_of_mem c member)
      simp [composeAfter, apart, combiningClass_low here, later]

/-- Below U+00C0 every text is composed already. -/
theorem normalize_low (chars : List Char) (low : ∀ c ∈ chars, c.toNat < 0x00C0) :
    normalize chars = chars := by
  rw [normalize, flatMap_decompose_low chars low, reorder_low chars low]
  cases chars with
  | nil => rfl
  | cons c rest =>
      rw [compose, if_pos (combiningClass_low (low c List.mem_cons_self)),
        composeAfter_low c rest fun other member => low other (List.mem_cons_of_mem c member)]

end Unicode

namespace Escape

/-- The ASCII characters without a meaning in markup. -/
def isPlainChar (c : Char) : Bool :=
  c.toNat < 0x80 && !(c == '&' || c == '<' || c == '>' || c == '"' || c == '\'')

/-- A plain character is not encoded. -/
theorem encodeChar_plain {c : Char} (plain : isPlainChar c = true) : encodeChar c = [c] := by
  unfold encodeChar
  split <;> simp_all [isPlainChar]

/-- A plain text is not encoded. -/
theorem encodeChars_plain (chars : List Char) (plain : chars.all isPlainChar = true) :
    encodeChars chars = chars := by
  unfold encodeChars
  induction chars with
  | nil => rfl
  | cons c rest inductionHypothesis =>
      rw [List.all_cons, Bool.and_eq_true] at plain
      rw [List.flatMap_cons, encodeChar_plain plain.1, inductionHypothesis plain.2]
      rfl

/-- A character that is another one, or encodes to itself, is kept. -/
theorem encodeOnly_kept {special : Char} {chars : List Char}
    (kept : ∀ c ∈ chars, c = special → encodeChar c = [c]) : encodeOnly special chars = chars := by
  unfold encodeOnly
  induction chars with
  | nil => rfl
  | cons c rest inductionHypothesis =>
      obtain ⟨here, others⟩ := List.forall_mem_cons.mp kept
      have same : (if c == special then encodeChar c else [c]) = [c] := by
        split
        · rename_i isSpecial
          exact here (eq_of_beq isSpecial)
        · rfl
      rw [List.flatMap_cons, same, inductionHypothesis others]
      rfl

theorem encodeOnly_plain (special : Char) {chars : List Char}
    (plain : chars.all isPlainChar = true) : encodeOnly special chars = chars :=
  encodeOnly_kept fun c member _ => encodeChar_plain (List.all_eq_true.mp plain c member)

theorem decimal?_eq_none (c : Char) (rest : List Char) (other : c ≠ '&') :
    decimal? (c :: rest) = none := by
  unfold decimal?
  split <;> simp_all

theorem hexadecimal?_eq_none (c : Char) (rest : List Char) (other : c ≠ '&') :
    hexadecimal? (c :: rest) = none := by
  unfold hexadecimal?
  split <;> simp_all

theorem named?_eq_none (c : Char) (rest : List Char) (other : c ≠ '&') :
    named? (c :: rest) = none := by
  unfold named?
  split <;> simp_all

/-- A plain text is escaped to itself. -/
theorem escapeChars_plain (chars : List Char) (plain : chars.all isPlainChar = true) :
    escapeChars chars = chars := by
  have low : ∀ c ∈ chars, c.toNat < 0x00C0 := by
    intro c member
    have here := List.all_eq_true.mp plain c member
    simp only [isPlainChar, Bool.and_eq_true, decide_eq_true_eq] at here
    omega
  have absent : '&' ∉ chars := by
    intro member
    exact absurd (List.all_eq_true.mp plain '&' member) (by decide)
  rw [escapeChars, Unicode.normalize_low chars low, decodeNumericChars,
    Text.replaceAll_of_notMem decimal? '&' decimal?_eq_none chars absent,
    Text.replaceAll_of_notMem hexadecimal? '&' hexadecimal?_eq_none chars absent, decodeNamedChars,
    Text.replaceAll_of_notMem named? '&' named?_eq_none chars absent, encodeChars_plain chars plain]

/-- A plain attribute value is written as it is. -/
theorem escapeAttribute_plain (value : String) (plain : value.toList.all isPlainChar = true) :
    escapeAttribute value = value := by
  rw [escapeAttribute, escapeAttributeChars, escapeChars_plain _ plain, encodeOnly_plain _ plain,
    encodeOnly_plain _ plain, String.ofList_toList]

end Escape

end HtmlTemplate
