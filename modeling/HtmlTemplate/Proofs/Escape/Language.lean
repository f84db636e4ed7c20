/-
This file describes the texts that escaping writes: they hold no mark, and every ampersand in them starts one of
five references. These are exactly the encoded texts, and each of them stands for one text only.
-/

import HtmlTemplate.Proofs.Escape.Idempotence

namespace HtmlTemplate.Escape

/-- The references that encoding writes. -/
def references : List String := ["&amp;", "&lt;", "&gt;", "&quot;", "&#39;"]

/-- The references are the special characters, encoded. -/
theorem references_eq : references = specials.map fun c => String.ofList (encodeChar c) := by
  decide

/-- The only ampersand of a reference is its first character. -/
theorem encodeChar_eq_cons {c : Char} (special : c ∈ specials) :
    ∃ word, encodeChar c = '&' :: word ∧ '&' ∉ word := by
  rcases mem_specials special with rfl | rfl | rfl | rfl | rfl <;> exact ⟨_, rfl, by decide⟩

/-- A text without marks, whose ampersands all start references. -/
structure IsEncoded (chars : List Char) : Prop where
  unmarked : ∀ mark ∈ marks, mark ∉ chars
  referring : ∀ before after, chars = before ++ '&' :: after →
    ∃ reference ∈ references, reference.toList <+: '&' :: after

/-- An encoded text is encoded from any place on. -/
theorem IsEncoded.suffix {before after : List Char} (encoded : IsEncoded (before ++ after)) :
    IsEncoded after where
  unmarked mark isMark member := encoded.unmarked mark isMark (List.mem_append_right before member)
  referring earlier later split := by
    refine encoded.referring (before ++ earlier) later ?_
    rw [split, List.append_assoc]

/-- An ampersand in an encoded character is its first character, and starts a reference. -/
theorem exists_reference_encodeChar {c : Char} {before after : List Char}
    (split : encodeChar c = before ++ '&' :: after) :
    ∃ reference ∈ references, reference.toList = '&' :: after := by
  by_cases special : c ∈ specials
  · obtain ⟨word, written, absent⟩ := encodeChar_eq_cons special
    have member : String.ofList (encodeChar c) ∈ references := by
      rw [references_eq]
      exact List.mem_map_of_mem special
    rw [written] at split member
    cases before with
    | nil =>
        obtain rfl : word = after := (List.cons.inj split).2
        exact ⟨_, member, String.toList_ofList⟩
    | cons first more =>
        rw [(List.cons.inj split).2] at absent
        simp at absent
  · rw [encodeChar_of_notMem special] at split
    have member : '&' ∈ [c] := by simp [split]
    exact absurd (List.mem_singleton.mp member).symm (ne_ampersand_of_notMem special)

/-- Every ampersand of an encoded text starts a reference. -/
theorem exists_reference_encodeChars (chars : List Char) {before after : List Char}
    (split : encodeChars chars = before ++ '&' :: after) :
    ∃ reference ∈ references, reference.toList <+: '&' :: after := by
  induction chars generalizing before with
  | nil => simp [encodeChars] at split
  | cons c rest inductionHypothesis =>
      rw [encodeChars, List.flatMap_cons] at split
      rcases List.append_eq_append_iff.mp split with ⟨between, _, later⟩ | ⟨inside, here, later⟩
      · exact inductionHypothesis later
      · cases inside with
        | nil => exact @inductionHypothesis [] later.symm
        | cons first word =>
            obtain ⟨rfl, rest⟩ := List.cons.inj later
            obtain ⟨reference, member, same⟩ := exists_reference_encodeChar here
            exact ⟨reference, member, by simp [same, rest]⟩

/-- Encoding gives encoded texts. -/
theorem isEncoded_encodeChars (chars : List Char) : IsEncoded (encodeChars chars) where
  unmarked _ isMark := notMem_encodeChars isMark chars
  referring _ _ := exists_reference_encodeChars chars

/-- An encoded text is read from the left, one reference after another. -/
theorem IsEncoded.exists_encodeChars {chars : List Char} (encoded : IsEncoded chars) :
    ∃ text, encodeChars text = chars := by
  match chars with
  | [] => exact ⟨[], rfl⟩
  | c :: rest =>
      by_cases special : c = '&'
      · subst special
        obtain ⟨reference, member, later, split⟩ := encoded.referring [] rest rfl
        rw [references_eq] at member
        obtain ⟨stands, isSpecial, rfl⟩ := List.mem_map.mp member
        rw [String.toList_ofList] at split
        obtain ⟨word, written, _⟩ := encodeChar_eq_cons isSpecial
        have shorter : later.length < rest.length + 1 := by
          have lengths := congrArg List.length split
          simp only [written, List.length_append, List.length_cons] at lengths
          omega
        rw [← split] at encoded ⊢
        obtain ⟨text, same⟩ := encoded.suffix.exists_encodeChars
        exact ⟨stands :: text, by rw [← same]; rfl⟩
      · have plain : c ∉ specials := by
          intro member
          rcases List.mem_cons.mp member with isAmpersand | isMark
          · exact special isAmpersand
          · exact encoded.unmarked c isMark List.mem_cons_self
        obtain ⟨text, same⟩ := (@IsEncoded.suffix [c] rest encoded).exists_encodeChars
        refine ⟨c :: text, ?_⟩
        rw [encodeChars, List.flatMap_cons, encodeChar_of_notMem plain]
        exact congrArg (c :: ·) same
termination_by chars.length

/-- Every number has decimal digits. -/
theorem exists_digits (number : Nat) :
    ∃ digits, digits ≠ [] ∧ (∀ c ∈ digits, Char.isDigit c = true ∧ c.toNat < 0x00C0) ∧
      Text.digitsValue 10 digits = number := by
  have digit : ∀ value < 10, ∃ c, (Char.isDigit c = true ∧ c.toNat < 0x00C0) ∧
      (Text.hexDigit? c).getD 0 = value := by
    intro value small
    refine ⟨Char.ofNat (0x30 + value), ?_⟩
    revert value
    decide
  induction number using Nat.strongRecOn with
  | ind number inductionHypothesis =>
      obtain ⟨last, isDigit, value⟩ := digit (number % 10) (Nat.mod_lt number (by decide))
      by_cases small : number < 10
      · refine ⟨[last], List.cons_ne_nil _ _, List.forall_mem_singleton.mpr isDigit, ?_⟩
        simp only [Text.digitsValue, List.foldl_cons, List.foldl_nil, value]
        omega
      · obtain ⟨digits, filled, areDigits, rest⟩ := inductionHypothesis (number / 10) (by omega)
        refine ⟨digits ++ [last], by simp,
          List.forall_mem_append.mpr ⟨areDigits, List.forall_mem_singleton.mpr isDigit⟩, ?_⟩
        rw [Text.digitsValue] at rest ⊢
        rw [List.foldl_append, rest, List.foldl_cons, List.foldl_nil, value]
        omega

/-- The code of a character stands for it. -/
theorem charOfCode_toNat (c : Char) : Reference.charOfCode c.toNat = c := by
  have valid : c.toNat.isValidChar := c.valid
  rw [Reference.charOfCode, if_pos valid, Char.ofNat_toNat]

/-- A decimal reference with its semicolon is replaced by its character. -/
theorem replaceAll_decimal_reference {digits : List Char} {c : Char} (filled : digits ≠ [])
    (areDigits : ∀ digit ∈ digits, Char.isDigit digit = true)
    (value : Text.digitsValue 10 digits = c.toNat) (rest : List Char) :
    Text.replaceAll decimal? ('&' :: ('#' :: digits ++ [';']) ++ rest) =
      [c] ++ Text.replaceAll decimal? rest := by
  have taken : (digits ++ ';' :: rest).takeWhile Char.isDigit = digits := by
    rw [List.takeWhile_append_of_pos areDigits]
    simp [show Char.isDigit ';' = false from rfl]
  have covered : 1 + digits.length + 1 = ('#' :: digits ++ [';']).length := by
    rw [List.length_append, List.length_cons, List.length_singleton, Nat.add_comm 1]
  apply Text.replaceAll_found
  rw [← covered]
  simp [decimal?, Reference.decimal?, Reference.numeric?, taken, filled, value, charOfCode_toNat,
    Text.semicolonLength]

/-- Every character has a spelling that composing keeps and decoding undoes. -/
theorem exists_spelling (c : Char) :
    ∃ word, (∀ part ∈ word, part.toNat < 0x00C0) ∧ ∀ rest,
      Text.replaceAll decimal? (word ++ rest) = nameChar c ++ Text.replaceAll decimal? rest := by
  by_cases special : c ∈ specials
  · refine ⟨encodeChar c, ?_, replaceAll_decimal_encodeChar c⟩
    rcases mem_specials special with rfl | rfl | rfl | rfl | rfl <;> simp [encodeChar]
  · obtain ⟨digits, filled, areDigits, value⟩ := exists_digits c.toNat
    refine ⟨'&' :: ('#' :: digits ++ [';']), ?_, ?_⟩
    · have low : ∀ part ∈ digits, part.toNat < 0x00C0 := fun part member => (areDigits part member).2
      simpa [or_imp, forall_and] using low
    · rw [nameChar_of_notMem special]
      exact replaceAll_decimal_reference filled (fun part member => (areDigits part member).1) value

/-- Every text is what some text is escaped from. -/
theorem exists_literalChars_eq (chars : List Char) : ∃ source, literalChars source = chars := by
  have spelled : ∃ source, (∀ part ∈ source, part.toNat < 0x00C0) ∧
      Text.replaceAll decimal? source = chars.flatMap nameChar := by
    induction chars with
    | nil => exact ⟨[], List.forall_mem_nil _, rfl⟩
    | cons c rest inductionHypothesis =>
        obtain ⟨word, low, reads⟩ := exists_spelling c
        obtain ⟨source, lowRest, readsRest⟩ := inductionHypothesis
        exact ⟨word ++ source, List.forall_mem_append.mpr ⟨low, lowRest⟩, by
          rw [reads, readsRest, List.flatMap_cons]⟩
  obtain ⟨source, low, reads⟩ := spelled
  refine ⟨source, ?_⟩
  rw [literalChars, Unicode.normalize_low source low, decodeNumericChars, reads,
    decode_flatMap_nameChar]

/-- Escaping writes encoded texts, and writes all of them. -/
theorem isEncoded_escape :
    (∀ text, IsEncoded (escape text).toList) ∧ (∀ value, IsEncoded (escapeValue value).toList) ∧
      (∀ text, escapeAttribute text = escape text) ∧
      ∀ text : String, IsEncoded text.toList ↔ ∃ source, escape source = text := by
  have encoded : ∀ text, IsEncoded (escape text).toList := by
    intro text
    rw [escape, String.toList_ofList, escapeChars_eq]
    exact isEncoded_encodeChars _
  refine ⟨encoded, ?_, ?_, ?_⟩
  · intro value
    unfold escapeValue
    split
    · exact isEncoded_encodeChars []
    · exact encoded value.text
  · intro text
    rw [escapeAttribute, escapeAttributeChars_eq, escape]
  · intro text
    constructor
    · intro isEncoded
      obtain ⟨chars, written⟩ := isEncoded.exists_encodeChars
      obtain ⟨source, spelled⟩ := exists_literalChars_eq chars
      refine ⟨String.ofList source, ?_⟩
      rw [escape, String.toList_ofList, escapeChars_eq, spelled, written, String.ofList_toList]
    · rintro ⟨source, rfl⟩
      exact encoded source

/-- Decoding undoes encoding, and composed encoded texts escape to themselves. -/
theorem decode_encode :
    (∀ text, decodeNamed (decodeNumeric (encode text)) = text) ∧ Function.Injective encode ∧
      ∀ text, escape (encode text) = encode text ↔
        Unicode.normalize (encode text).toList = (encode text).toList := by
  have inverse : Function.LeftInverse (fun text => decodeNamed (decodeNumeric text)) encode := by
    intro text
    simp only [decodeNamed, decodeNumeric, encode, String.toList_ofList, decode_encodeChars,
      String.ofList_toList]
  refine ⟨inverse, inverse.injective, ?_⟩
  intro text
  simp only [escape, encode, String.toList_ofList, escapeChars_encodeChars, String.ofList_inj]

end HtmlTemplate.Escape
