/-
This file shows that decoding undoes encoding. An encoded text is read as the text itself, both where texts are
escaped and where attribute values are read.
-/

import HtmlTemplate.Proofs.Escape.Plain

namespace HtmlTemplate

namespace Escape

/-- The characters that are encoded. -/
def specials : List Char := '&' :: marks

/-- There are five special characters. -/
theorem mem_specials {c : Char} (special : c ∈ specials) :
    c = '&' ∨ c = '<' ∨ c = '>' ∨ c = '"' ∨ c = '\'' := by
  simpa [specials, marks] using special

/-- Any other character stands for itself. -/
theorem encodeChar_of_notMem {c : Char} (plain : c ∉ specials) : encodeChar c = [c] := by
  unfold encodeChar
  split <;> simp_all [specials, marks]

/-- A text without special characters is not encoded. -/
theorem encodeChars_of_notMem {chars : List Char} (plain : ∀ c ∈ chars, c ∉ specials) :
    encodeChars chars = chars := by
  induction chars with
  | nil => rfl
  | cons c rest inductionHypothesis =>
      obtain ⟨here, later⟩ := List.forall_mem_cons.mp plain
      rw [encodeChars, List.flatMap_cons, encodeChar_of_notMem here]
      exact congrArg (c :: ·) (inductionHypothesis later)

/-- Texts are encoded piece by piece. -/
theorem encodeChars_append (first second : List Char) :
    encodeChars (first ++ second) = encodeChars first ++ encodeChars second :=
  List.flatMap_append

/-- What decoding the decimal references leaves of an encoded character. -/
def nameChar (c : Char) : List Char := if c = '\'' then [c] else encodeChar c

theorem nameChar_of_notMem {c : Char} (plain : c ∉ specials) : nameChar c = [c] := by
  rw [nameChar, encodeChar_of_notMem plain, ite_self]

theorem ne_ampersand_of_notMem {c : Char} (plain : c ∉ specials) : c ≠ '&' := by
  rintro rfl
  exact plain List.mem_cons_self

/-- Decoding decimal references leaves the names of encoded characters. -/
theorem replaceAll_decimal_encodeChar (c : Char) (rest : List Char) :
    Text.replaceAll decimal? (encodeChar c ++ rest) =
      nameChar c ++ Text.replaceAll decimal? rest := by
  by_cases special : c ∈ specials
  · rcases mem_specials special with rfl | rfl | rfl | rfl | rfl <;> rfl
  · rw [encodeChar_of_notMem special, nameChar_of_notMem special]
    exact Text.replaceAll_kept (decimal?_eq_none c rest (ne_ampersand_of_notMem special))

/-- No name of an encoded character is a hexadecimal reference. -/
theorem replaceAll_hexadecimal_nameChar (c : Char) (rest : List Char) :
    Text.replaceAll hexadecimal? (nameChar c ++ rest) =
      nameChar c ++ Text.replaceAll hexadecimal? rest := by
  by_cases special : c ∈ specials
  · rcases mem_specials special with rfl | rfl | rfl | rfl | rfl <;> rfl
  · rw [nameChar_of_notMem special]
    exact Text.replaceAll_kept (hexadecimal?_eq_none c rest (ne_ampersand_of_notMem special))

/-- A named character is decoded to itself. -/
theorem replaceAll_named_nameChar (c : Char) (rest : List Char) :
    Text.replaceAll named? (nameChar c ++ rest) = [c] ++ Text.replaceAll named? rest := by
  by_cases special : c ∈ specials
  · rcases mem_specials special with rfl | rfl | rfl | rfl | rfl <;> rfl
  · rw [nameChar_of_notMem special]
    exact Text.replaceAll_kept (named?_eq_none c rest (ne_ampersand_of_notMem special))

/-- None of the names is a hexadecimal reference, and each stands for one character. -/
theorem decode_flatMap_nameChar (chars : List Char) :
    decodeNamedChars (Text.replaceAll hexadecimal? (chars.flatMap nameChar)) = chars := by
  rw [Text.replaceAll_flatMap replaceAll_hexadecimal_nameChar chars, decodeNamedChars,
    Text.replaceAll_flatMap replaceAll_named_nameChar chars]
  exact List.flatMap_singleton' chars

/-- Decoding undoes encoding. -/
theorem decode_encodeChars (chars : List Char) :
    decodeNamedChars (decodeNumericChars (encodeChars chars)) = chars := by
  have decimals : Text.replaceAll decimal? (encodeChars chars) = chars.flatMap nameChar :=
    Text.replaceAll_flatMap replaceAll_decimal_encodeChar chars
  rw [decodeNumericChars, decimals, decode_flatMap_nameChar]

/-- The text that escaping encodes: the text composed and decoded. -/
def literalChars (chars : List Char) : List Char :=
  decodeNamedChars (decodeNumericChars (Unicode.normalize chars))

def literal (text : String) : String := String.ofList (literalChars text.toList)

def encode (text : String) : String := String.ofList (encodeChars text.toList)

/-- Escaping encodes what decoding makes of a text. -/
theorem escapeChars_eq (chars : List Char) : escapeChars chars = encodeChars (literalChars chars) := rfl

/-- A text without the character is not encoded. -/
theorem encodeOnly_of_notMem {special : Char} {chars : List Char} (absent : special ∉ chars) :
    encodeOnly special chars = chars :=
  encodeOnly_kept fun _ member isSpecial => absurd (isSpecial ▸ member) absent

/-- An escaped text has no quotes left to encode. -/
theorem escapeAttributeChars_eq (chars : List Char) :
    escapeAttributeChars chars = escapeChars chars := by
  have double : '"' ∉ escapeChars chars := notMem_encodeChars (by decide) _
  have single : '\'' ∉ escapeChars chars := notMem_encodeChars (by decide) _
  rw [escapeAttributeChars, encodeOnly_of_notMem double, encodeOnly_of_notMem single]

end Escape

namespace Reference

/-- A known name with its semicolon is replaced by what it stands for. -/
theorem namedReference?_known {name replacement : List Char}
    (letters : name.all Char.isAlphanum = true) (short : name.length ≤ longestName)
    (known : named? name = some replacement) (rest : List Char) :
    namedReference? (name ++ ';' :: rest) = some (replacement, name.length + 1) := by
  have taken : (name ++ ';' :: rest).takeWhile Char.isAlphanum = name := by
    rw [List.takeWhile_append_of_pos (List.all_eq_true.mp letters)]
    simp [show Char.isAlphanum ';' = false from rfl]
  simp [namedReference?, taken, List.take_of_length_le short, Text.semicolonLength, known]

/-- An encoded character is decoded to itself. -/
theorem decode_encodeChar (c : Char) (rest : List Char) :
    Text.replaceAll reference? (Escape.encodeChar c ++ rest) =
      [c] ++ Text.replaceAll reference? rest := by
  by_cases special : c ∈ Escape.specials
  · rcases Escape.mem_specials special with rfl | rfl | rfl | rfl | rfl
    · exact @Text.replaceAll_found _ '&' ['a', 'm', 'p', ';'] rest _
        (@namedReference?_known ['a', 'm', 'p'] _ (by decide) (by decide) (by decide) rest)
    · exact @Text.replaceAll_found _ '&' ['l', 't', ';'] rest _
        (@namedReference?_known ['l', 't'] _ (by decide) (by decide) (by decide) rest)
    · exact @Text.replaceAll_found _ '&' ['g', 't', ';'] rest _
        (@namedReference?_known ['g', 't'] _ (by decide) (by decide) (by decide) rest)
    · exact @Text.replaceAll_found _ '&' ['q', 'u', 'o', 't', ';'] rest _
        (@namedReference?_known ['q', 'u', 'o', 't'] _ (by decide) (by decide) (by decide) rest)
    · exact @Text.replaceAll_found reference? '&' ['#', '3', '9', ';'] rest ['\''] rfl
  · rw [Escape.encodeChar_of_notMem special]
    exact Text.replaceAll_kept
      (reference?_eq_none c rest (Escape.ne_ampersand_of_notMem special))

/-- An encoded text is the value of an attribute that is written so. -/
theorem decode_encodeChars (chars : List Char) : decode (Escape.encodeChars chars) = chars := by
  rw [decode, Escape.encodeChars, Text.replaceAll_flatMap decode_encodeChar chars]
  exact List.flatMap_singleton' chars

end Reference

end HtmlTemplate
