/-
This file holds the escaper that generated code imports, as the passes over a text that its module spells out,
and shows that it escapes every text as the escaper of the compiler does.
-/

import Mathlib.Data.List.Induction
import Mathlib.Data.Nat.Digits.Defs
import HtmlTemplate.Escape.Module
import HtmlTemplate.Proofs.Escape.Encoding
import HtmlTemplate.Proofs.Text.Pattern

namespace HtmlTemplate.Escape

namespace Runtime

open Text

/-- The value of a digit is its place among the digits, whatever its case. -/
def digit (c : Char) : Nat := "0123456789abcdef".toList.idxOf c.toLower

def parseInt (radix : Nat) (digits : List Char) : Nat :=
  Nat.ofDigits radix (digits.reverse.map digit)

def fromCodePoint (code : Nat) : Char :=
  if ¬ code ≤ 0x10FFFF ∨ 0xD800 ≤ code ∧ code ≤ 0xDFFF then '\uFFFD' else Char.ofNat code

/-- What a pass writes for a match. -/
inductive Replacement where
  | codePoint (parameter : String) (radix : Nat)
  | named (table : List (List Char × Char))
  | constant (text : String)

namespace Replacement

/-- A name that the table does not hold is written as `undefined`. -/
def write : Replacement → List Char → List Char
  | .codePoint _ radix, grouped => [fromCodePoint (parseInt radix grouped)]
  | .named table, grouped =>
      match table.lookup grouped with
      | some c => [c]
      | none => "undefined".toList
  | .constant text, _ => text.toList

def text : Replacement → String
  | .codePoint parameter radix =>
      "(_, " ++ parameter ++ ") => fromCodePoint(parseInt(" ++ parameter ++ ", " ++ toString radix ++ "))"
  | .named _ => "(_, name) => NAMED[name]"
  | .constant text => "'" ++ text ++ "'"

end Replacement

/-- One global replacement. -/
structure Pass where
  pattern : Pattern
  replacement : Replacement

namespace Pass

def run (pass : Pass) (chars : List Char) : List Char :=
  pass.pattern.replaceGlobal pass.replacement.write chars

/-- How the pass is spelled in the module. -/
def call (pass : Pass) : String :=
  ".replace(/" ++ String.ofList pass.pattern.text ++ "/g, " ++ pass.replacement.text ++ ")"

end Pass

/-- Digits and an optional semicolon behind them. -/
def number (ranges : List (Char × Char)) : Pattern :=
  .followed (.group (.many ranges)) (.optional (.word [';']))

def decimal : Pass where
  pattern := .followed (.word ['&', '#']) (number [('0', '9')])
  replacement := .codePoint "code" 10

def hexadecimal : Pass where
  pattern :=
    .followed (.followed (.word ['&', '#']) (.oneOf [('x', 'x'), ('X', 'X')]))
      (number [('0', '9'), ('a', 'f'), ('A', 'F')])
  replacement := .codePoint "hex" 16

def names : List (List Char × Char) :=
  [(['a', 'm', 'p'], '&'), (['l', 't'], '<'), (['g', 't'], '>'), (['q', 'u', 'o', 't'], '"'),
    (['a', 'p', 'o', 's'], '\'')]

def named : Pass where
  pattern :=
    .followed (.word ['&'])
      (.followed
        (.group
          (.either (.word ['a', 'm', 'p'])
            (.either (.word ['l', 't'])
              (.either (.word ['g', 't'])
                (.either (.word ['q', 'u', 'o', 't']) (.word ['a', 'p', 'o', 's']))))))
        (.word [';']))
  replacement := .named names

def decoding : List Pass := [decimal, hexadecimal, named]

def encoding : List Pass :=
  [('&', "&amp;"), ('<', "&lt;"), ('>', "&gt;"), ('"', "&quot;"), ('\'', "&#39;")].map
    fun (c, text) => ⟨.word [c], .constant text⟩

/-- The text is composed, and then goes through the passes one after the other. -/
def escapeChars (chars : List Char) : List Char :=
  (decoding ++ encoding).foldl (fun text pass => pass.run text) (Unicode.normalize chars)

def escape (text : String) : String := String.ofList (escapeChars text.toList)

/-- The calls of one expression, a line for each. -/
def chain : List Pass → List String
  | [] => []
  | [pass] => ["    " ++ pass.call ++ ";"]
  | pass :: passes => ("    " ++ pass.call) :: chain passes

/-- The module spells out the passes. -/
theorem module_spells_passes :
    decoding.map (fun pass => "  s = s" ++ pass.call ++ ";") <:+: moduleLines ∧
      "  return s" :: chain encoding <:+: moduleLines := by
  decide +kernel

/-- A code point is read as the library does. -/
theorem fromCodePoint_eq (code : Nat) : fromCodePoint code = Reference.charOfCode code := by
  have valid : code.isValidChar ↔ ¬ (¬ code ≤ 0x10FFFF ∨ 0xD800 ≤ code ∧ code ≤ 0xDFFF) := by
    show code < 0xD800 ∨ 0xDFFF < code ∧ code < 0x110000 ↔ _
    omega
  rw [fromCodePoint, Reference.charOfCode]
  by_cases outside : ¬ code ≤ 0x10FFFF ∨ 0xD800 ≤ code ∧ code ≤ 0xDFFF
  · rw [if_pos outside, if_neg (mt valid.mp (not_not_intro outside))]
  · rw [if_neg outside, if_pos (valid.mpr outside)]

/-- The decimal class has the decimal digits. -/
theorem inRanges_decimal (c : Char) : inRanges [('0', '9')] c = c.isDigit := by
  show (decide ('0' ≤ c) && decide (c ≤ '9') || false) = c.isDigit
  rw [Bool.or_false]
  rfl

/-- The hexadecimal class has the hexadecimal digits. -/
theorem inRanges_hexadecimal (c : Char) :
    inRanges [('0', '9'), ('a', 'f'), ('A', 'F')] c = isHexDigit c := by
  have digits := inRanges_decimal c
  unfold isHexDigit hexDigit?
  simp only [inRanges, List.any_cons, List.any_nil, Bool.or_false] at digits ⊢
  rw [digits]
  split
  · simp [*]
  · split
    · simp [*]
    · split <;> simp_all

theorem toNat_lt_of_isHexDigit {c : Char} (isDigit : isHexDigit c = true) : c.toNat < 0x80 := by
  rw [← inRanges_hexadecimal] at isDigit
  obtain ⟨range, member, bounds⟩ := List.any_eq_true.mp isDigit
  rw [Bool.and_eq_true, decide_eq_true_eq, decide_eq_true_eq] at bounds
  have below : ∀ range ∈ [('0', '9'), ('a', 'f'), ('A', 'F')], range.2.toNat < 0x80 := by decide
  exact Nat.lt_of_le_of_lt bounds.2 (below range member)

/-- Both ways of valuing a digit agree. -/
theorem digit_eq {c : Char} (isDigit : isHexDigit c = true) :
    digit c = (hexDigit? c).getD 0 := by
  have each : ∀ code < 0x80, isHexDigit (Char.ofNat code) = true →
      digit (Char.ofNat code) = (hexDigit? (Char.ofNat code)).getD 0 := by
    decide +kernel
  rw [← Char.ofNat_toNat c] at isDigit ⊢
  exact each c.toNat (toNat_lt_of_isHexDigit (by rwa [Char.ofNat_toNat] at isDigit)) isDigit

/-- Both ways of valuing digits agree. -/
theorem parseInt_eq (radix : Nat) {digits : List Char}
    (areDigits : ∀ c ∈ digits, isHexDigit c = true) :
    parseInt radix digits = digitsValue radix digits := by
  induction digits using List.reverseRecOn with
  | nil => rfl
  | append_singleton digits c inductionHypothesis =>
      obtain ⟨before, last⟩ := List.forall_mem_append.mp areDigits
      have earlier := inductionHypothesis before
      rw [parseInt] at earlier ⊢
      rw [List.reverse_append, List.reverse_singleton, List.singleton_append, List.map_cons,
        Nat.ofDigits_cons, earlier, digit_eq (last c (List.mem_singleton_self c)),
        digitsValue, digitsValue, List.foldl_append]
      simp [Nat.add_comm, Nat.mul_comm]

theorem semicolonLength_le (chars : List Char) : semicolonLength chars ≤ chars.length := by
  unfold semicolonLength
  split <;> simp

/-- What is tried first takes a semicolon that is there. -/
theorem head?_attempts_semicolon (chars : List Char) :
    ((Pattern.optional (.word [';'])).attempts chars).head? =
      some ⟨chars.take (semicolonLength chars), [], chars.drop (semicolonLength chars)⟩ := by
  unfold semicolonLength
  split
  · rfl
  · rename_i other
    have absent : ¬ [';'] <+: chars := by
      rintro ⟨rest, rfl⟩
      exact other rest rfl
    rw [Pattern.attempts, Pattern.attempts_word_eq_nil absent]
    rfl

/-- The first match of a number takes all its digits. -/
theorem head?_attempts_number (ranges : List (Char × Char)) (chars : List Char) :
    let digits := chars.takeWhile (inRanges ranges)
    let behind := chars.dropWhile (inRanges ranges)
    ((number ranges).attempts chars).head? =
      if digits.isEmpty then none
      else some ⟨digits ++ behind.take (semicolonLength behind), digits,
        behind.drop (semicolonLength behind)⟩ := by
  intro digits behind
  have always : ∀ text, (Pattern.optional (.word [';'])).attempts text ≠ [] := by
    intro text
    simp [Pattern.attempts]
  rw [number, Pattern.head?_attempts_followed _ always, Pattern.attempts, List.head?_map,
    Pattern.attempts, head?_runs]
  by_cases empty : digits.isEmpty = true
  · rw [if_pos empty, if_pos empty]
    rfl
  · rw [if_neg empty, if_neg empty]
    simp [head?_attempts_semicolon, Match.join, digits, behind]

/-- Behind its mark, a number is read as a reference is. -/
theorem reader_number {mark : Pattern} {marks chars : List Char}
    (single : mark.attempts (marks ++ chars) = [⟨marks, [], chars⟩]) (filled : marks ≠ [])
    {ranges : List (Char × Char)} {isDigit : Char → Bool}
    (same : ∀ c, inRanges ranges c = isDigit c)
    (areDigits : ∀ c, isDigit c = true → isHexDigit c = true) (parameter : String) (radix : Nat) :
    (Pattern.followed mark (number ranges)).reader (Replacement.codePoint parameter radix).write
        (marks ++ chars) =
      Reference.numeric? radix isDigit Reference.charOfCode (marks.length - 1) chars := by
  obtain rfl : inRanges ranges = isDigit := funext same
  have front := List.length_pos_iff.mpr filled
  rw [Pattern.reader, Pattern.attempts_followed_of_single single, List.head?_map,
    head?_attempts_number, Reference.numeric?]
  by_cases empty : (chars.takeWhile (inRanges ranges)).isEmpty = true
  · rw [if_pos empty, if_pos empty]
    rfl
  · have value : parseInt radix (chars.takeWhile (inRanges ranges)) =
        digitsValue radix (chars.takeWhile (inRanges ranges)) :=
      parseInt_eq radix fun c member => areDigits c (List.all_eq_true.mp List.all_takeWhile c member)
    have behind : chars.drop (chars.takeWhile (inRanges ranges)).length =
        chars.dropWhile (inRanges ranges) :=
      calc
        _ = (chars.takeWhile (inRanges ranges) ++ chars.dropWhile (inRanges ranges)).drop
            (chars.takeWhile (inRanges ranges)).length := by rw [List.takeWhile_append_dropWhile]
        _ = chars.dropWhile (inRanges ranges) := List.drop_left
    rw [if_neg empty, if_neg empty, behind]
    have semicolon := semicolonLength_le (chars.dropWhile (inRanges ranges))
    simp only [Replacement.write, fromCodePoint_eq, Option.map_some, Match.join, List.nil_append,
      value, List.length_append, List.length_take, Option.some.injEq, Prod.mk.injEq, true_and]
    omega

/-- A decimal digit is a hexadecimal one. -/
theorem isHexDigit_of_isDigit (c : Char) (isDigit : c.isDigit = true) : isHexDigit c = true := by
  rw [isHexDigit, hexDigit?, if_pos isDigit]
  rfl

/-- The decimal pattern reads decimal references. -/
theorem reader_decimal (chars : List Char) :
    decimal.pattern.reader decimal.replacement.write chars = decimal? chars := by
  unfold decimal?
  split
  · rename_i rest
    exact reader_number (Pattern.attempts_word_append ['&', '#'] rest) (List.cons_ne_nil _ _)
      inRanges_decimal isHexDigit_of_isDigit "code" 10
  · rename_i other
    have absent : ¬ ['&', '#'] <+: chars := by
      rintro ⟨rest, rfl⟩
      exact other rest rfl
    have unmatched := Pattern.attempts_followed_of_nil (Pattern.attempts_word_eq_nil absent)
    exact Pattern.reader_eq_none (unmatched _) _

/-- The mark of a hexadecimal reference has an `x` of either case. -/
theorem attempts_hexadecimalMark {chars : List Char}
    (small : ¬ ['&', '#', 'x'] <+: chars) (large : ¬ ['&', '#', 'X'] <+: chars) :
    (Pattern.followed (.word ['&', '#']) (.oneOf [('x', 'x'), ('X', 'X')])).attempts chars = [] := by
  by_cases front : ['&', '#'] <+: chars
  · obtain ⟨rest, rfl⟩ := front
    rw [Pattern.attempts_followed_of_single (Pattern.attempts_word_append _ rest)]
    cases rest with
    | nil => rfl
    | cons c rest =>
        have other : inRanges [('x', 'x'), ('X', 'X')] c = false := by
          apply Bool.eq_false_iff.mpr
          intro inside
          simp only [inRanges, List.any_cons, List.any_nil, Bool.or_false, Bool.or_eq_true,
            Bool.and_eq_true, decide_eq_true_eq] at inside
          rcases inside with ⟨least, most⟩ | ⟨least, most⟩
          · exact small ⟨rest, by rw [Char.le_antisymm most least]; rfl⟩
          · exact large ⟨rest, by rw [Char.le_antisymm most least]; rfl⟩
        rw [Pattern.attempts, other]
        rfl
  · exact Pattern.attempts_followed_of_nil (Pattern.attempts_word_eq_nil front) _

/-- The hexadecimal pattern reads hexadecimal references. -/
theorem reader_hexadecimal (chars : List Char) :
    hexadecimal.pattern.reader hexadecimal.replacement.write chars = hexadecimal? chars := by
  unfold hexadecimal?
  split
  · rename_i rest
    exact @reader_number _ ['&', '#', 'x'] rest rfl (List.cons_ne_nil _ _) _ _ inRanges_hexadecimal
      (fun _ isDigit => isDigit) "hex" 16
  · rename_i rest
    exact @reader_number _ ['&', '#', 'X'] rest rfl (List.cons_ne_nil _ _) _ _ inRanges_hexadecimal
      (fun _ isDigit => isDigit) "hex" 16
  · rename_i small large
    have unmarked := @attempts_hexadecimalMark chars (fun ⟨rest, front⟩ => small rest front.symm)
      (fun ⟨rest, front⟩ => large rest front.symm)
    exact Pattern.reader_eq_none (Pattern.attempts_followed_of_nil unmarked _) _

/-- A name is matched only where it is written out. -/
theorem attempts_named_eq_nil {chars : List Char}
    (absent : ∀ name ∈ names.map Prod.fst, ¬ '&' :: (name ++ [';']) <+: chars) :
    named.pattern.attempts chars = [] := by
  apply List.eq_nil_iff_forall_not_mem.mpr
  intro found member
  have whole := (Pattern.attempts_spec member).1
  obtain ⟨mark, isMark, joined⟩ := List.mem_flatMap.mp member
  obtain ⟨tail, isTail, rfl⟩ := List.mem_map.mp joined
  obtain ⟨_, grouped, joined⟩ := List.mem_flatMap.mp isTail
  obtain ⟨semicolon, isSemicolon, rfl⟩ := List.mem_map.mp joined
  obtain ⟨name, isName, rfl⟩ := List.mem_map.mp grouped
  have known : name.taken ∈ names.map Prod.fst := by
    rcases List.mem_append.mp isName with amp | isName
    · rw [Pattern.taken_of_mem_word amp]
      decide
    rcases List.mem_append.mp isName with lt | isName
    · rw [Pattern.taken_of_mem_word lt]
      decide
    rcases List.mem_append.mp isName with gt | isName
    · rw [Pattern.taken_of_mem_word gt]
      decide
    rcases List.mem_append.mp isName with quot | apos
    · rw [Pattern.taken_of_mem_word quot]
      decide
    · rw [Pattern.taken_of_mem_word apos]
      decide
  refine absent name.taken known ⟨semicolon.rest, ?_⟩
  rw [← whole]
  simp only [Match.join, Pattern.taken_of_mem_word isMark, Pattern.taken_of_mem_word isSemicolon]
  rfl

/-- The pattern of names reads named references. -/
theorem reader_named (chars : List Char) :
    named.pattern.reader named.replacement.write chars = named? chars := by
  unfold named?
  split
  · rfl
  · rfl
  · rfl
  · rfl
  · rfl
  · rename_i amp lt gt quot apos
    have absent : ∀ name ∈ names.map Prod.fst, ¬ '&' :: (name ++ [';']) <+: chars := by
      simp only [names, List.map_cons, List.map_nil, List.forall_mem_cons]
      refine ⟨?_, ?_, ?_, ?_, ?_, List.forall_mem_nil _⟩
      · rintro ⟨rest, rfl⟩
        exact amp rest rfl
      · rintro ⟨rest, rfl⟩
        exact lt rest rfl
      · rintro ⟨rest, rfl⟩
        exact gt rest rfl
      · rintro ⟨rest, rfl⟩
        exact quot rest rfl
      · rintro ⟨rest, rfl⟩
        exact apos rest rfl
    exact Pattern.reader_eq_none (attempts_named_eq_nil absent) _

/-- A pass that looks for one character replaces it and keeps all others. -/
theorem run_constant {special : Char} {text : String} (encoded : text.toList = encodeChar special)
    (chars : List Char) :
    Pass.run ⟨.word [special], .constant text⟩ chars = encodeOnly special chars := by
  rw [Pass.run, Pattern.replaceGlobal_eq rfl]
  unfold encodeOnly
  induction chars with
  | nil => rfl
  | cons c rest inductionHypothesis =>
      rw [List.flatMap_cons, ← inductionHypothesis]
      by_cases same : c = special
      · subst same
        rw [if_pos (beq_self_eq_true c), ← encoded]
        have single : (Pattern.word [c]).attempts (c :: rest) = [⟨[c], [], rest⟩] :=
          Pattern.attempts_word_append [c] rest
        have found : (Pattern.word [c]).reader (Replacement.constant text).write (c :: rest) =
            some (text.toList, 0) := by
          rw [Pattern.reader, single]
          rfl
        exact @replaceAll_found _ c [] rest _ found
      · have absent : ¬ [special] <+: c :: rest := by
          rintro ⟨_, front⟩
          exact same (List.cons.inj front).1.symm
        rw [if_neg (by simpa using same)]
        exact replaceAll_kept (Pattern.reader_eq_none (Pattern.attempts_word_eq_nil absent) _)

/-- With the ampersand first, no pass encodes what an earlier one has written. -/
theorem encodeOnly_specials (chars : List Char) :
    encodeOnly '\'' (encodeOnly '"' (encodeOnly '>' (encodeOnly '<' (encodeOnly '&' chars)))) =
      encodeChars chars := by
  simp only [encodeOnly, List.flatMap_assoc]
  rw [encodeChars]
  congr 1
  funext c
  -- What is written for a special character holds no special character but its ampersand.
  by_cases special : c ∈ specials
  · rcases mem_specials special with rfl | rfl | rfl | rfl | rfl <;> rfl
  · rw [encodeChar_of_notMem special]
    simp_all [specials, marks]

/-- The decoding passes decode numbers and then names. -/
theorem foldl_decoding (chars : List Char) :
    decoding.foldl (fun text pass => pass.run text) chars =
      decodeNamedChars (decodeNumericChars chars) := by
  show named.run (hexadecimal.run (decimal.run chars)) = _
  simp only [Pass.run]
  rw [Pattern.replaceGlobal_eq rfl, Pattern.replaceGlobal_eq rfl, Pattern.replaceGlobal_eq rfl,
    funext reader_named, funext reader_hexadecimal, funext reader_decimal]
  rfl

/-- The encoding passes encode all special characters. -/
theorem foldl_encoding (chars : List Char) :
    encoding.foldl (fun text pass => pass.run text) chars = encodeChars chars := by
  show Pass.run ⟨.word ['\''], .constant "&#39;"⟩ (Pass.run ⟨.word ['"'], .constant "&quot;"⟩
    (Pass.run ⟨.word ['>'], .constant "&gt;"⟩ (Pass.run ⟨.word ['<'], .constant "&lt;"⟩
      (Pass.run ⟨.word ['&'], .constant "&amp;"⟩ chars)))) = _
  rw [run_constant rfl, run_constant rfl, run_constant rfl, run_constant rfl, run_constant rfl,
    encodeOnly_specials]

end Runtime

/-- Every text is escaped alike by the compiler and by the module. -/
theorem escape_eq_runtime (text : String) :
    escape text = Runtime.escape text ∧
      Runtime.decoding.map (fun pass => "  s = s" ++ pass.call ++ ";") <:+: moduleLines ∧
      "  return s" :: Runtime.chain Runtime.encoding <:+: moduleLines := by
  refine ⟨?_, Runtime.module_spells_passes⟩
  rw [Runtime.escape, Runtime.escapeChars, List.foldl_append, Runtime.foldl_decoding,
    Runtime.foldl_encoding]
  rfl

end HtmlTemplate.Escape
