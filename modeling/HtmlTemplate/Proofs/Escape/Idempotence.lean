/-
This file says what escaping does to a text that is escaped already. It composes the text and changes nothing
else, so that it keeps exactly the escaped texts that are composed.
-/

import HtmlTemplate.Proofs.Escape.Encoding
import HtmlTemplate.Proofs.Unicode.Strokes

namespace HtmlTemplate.Escape

open Unicode

/-- Composing never brings in a character that is encoded. -/
theorem isGuarded_of_mem {special : Char} (member : special ∈ specials) : IsGuarded special := by
  rcases mem_specials member with rfl | rfl | rfl | rfl | rfl <;>
    exact ⟨by decide, by decide, by decide, by decide +kernel⟩

/-- A reference is plain text between an ampersand and a semicolon. -/
theorem encodeChar_eq {special : Char} (member : special ∈ specials) :
    ∃ word, encodeChar special = '&' :: (word ++ [';']) ∧ ∀ c ∈ word, c.toNat < 0x00C0 := by
  rcases mem_specials member with rfl | rfl | rfl | rfl | rfl
  · exact ⟨['a', 'm', 'p'], rfl, by simp⟩
  · exact ⟨['l', 't'], rfl, by simp⟩
  · exact ⟨['g', 't'], rfl, by simp⟩
  · exact ⟨['q', 'u', 'o', 't'], rfl, by simp⟩
  · exact ⟨['#', '3', '9'], rfl, by simp⟩

/-- A reference stays as it is between texts that are composed alone. -/
theorem normalize_append_encodeChar {special : Char} (member : special ∈ specials)
    (before after : List Char) :
    normalize (before ++ (encodeChar special ++ after)) =
      normalize before ++ (encodeChar special ++ normalize after) := by
  obtain ⟨word, written, low⟩ := encodeChar_eq member
  have inside : normalize (word ++ ';' :: after) = word ++ ';' :: normalize after := by
    rw [normalize_append_inert isInert_semicolon, normalize_low word low]
  rw [written, List.cons_append, List.append_assoc, List.singleton_append,
    normalize_append_inert isInert_ampersand, inside]
  simp

/-- Normalizing brings in no special character. -/
theorem encodeChars_normalize {chars : List Char} (plain : ∀ c ∈ chars, c ∉ specials) :
    encodeChars (normalize chars) = normalize chars := by
  apply encodeChars_of_notMem
  intro c inNormalized member
  have absent : c ∉ chars := fun inChars => plain c inChars member
  exact (isGuarded_of_mem member).notMem_normalize absent inNormalized

/-- Composing an encoded text gives an encoded text. -/
theorem exists_normalize_append_encodeChars (chars : List Char) {before : List Char}
    (plain : ∀ c ∈ before, c ∉ specials) :
    ∃ text, normalize (before ++ encodeChars chars) = encodeChars text := by
  induction chars generalizing before with
  | nil =>
      refine ⟨normalize before, ?_⟩
      rw [encodeChars_normalize plain, encodeChars, List.flatMap_nil, List.append_nil]
  | cons c rest inductionHypothesis =>
      rw [encodeChars, List.flatMap_cons]
      by_cases member : c ∈ specials
      · obtain ⟨text, later⟩ := inductionHypothesis (List.forall_mem_nil _)
        refine ⟨normalize before ++ c :: text, ?_⟩
        have composed : normalize (rest.flatMap encodeChar) = encodeChars text := later
        rw [normalize_append_encodeChar member, composed, encodeChars_append,
          encodeChars_normalize plain]
        rfl
      · rw [encodeChar_of_notMem member, ← List.append_assoc]
        apply inductionHypothesis
        intro other inBefore
        rcases List.mem_append.mp inBefore with earlier | same
        · exact plain other earlier
        · rwa [List.mem_singleton.mp same]

/-- Escaping an encoded text composes it. -/
theorem escapeChars_encodeChars (chars : List Char) :
    escapeChars (encodeChars chars) = normalize (encodeChars chars) := by
  obtain ⟨text, composed⟩ := exists_normalize_append_encodeChars chars (List.forall_mem_nil _)
  rw [List.nil_append] at composed
  rw [escapeChars, composed, decode_encodeChars]

/-- Escaping twice differs from escaping once by normalizing only. -/
theorem escapeChars_escapeChars (chars : List Char) :
    escapeChars (escapeChars chars) = normalize (escapeChars chars) :=
  escapeChars_encodeChars (literalChars chars)

/-- Escaping twice composes what is escaped once. -/
theorem escape_escape_eq_iff (text : String) :
    escape (escape text) = String.ofList (normalize (escape text).toList) ∧
      (escape (escape text) = escape text ↔
        normalize (escape text).toList = (escape text).toList) := by
  have twice : escape (escape text) = String.ofList (normalize (escape text).toList) := by
    simp only [escape, String.toList_ofList, escapeChars_escapeChars]
  refine ⟨twice, ?_⟩
  rw [twice]
  constructor
  · intro same
    simpa only [String.toList_ofList] using congrArg String.toList same
  · intro composed
    rw [composed, String.ofList_toList]

/-- A letter that is written as a reference takes its accent only later. -/
theorem escape_twice_composes_decoded_letter :
    escape "&#101;\u0301" = "e\u0301" ∧ escape (escape "&#101;\u0301") = "\u00E9" ∧
      escape (escape "&#101;\u0301") ≠ escape "&#101;\u0301" := by
  decide +kernel

end HtmlTemplate.Escape
