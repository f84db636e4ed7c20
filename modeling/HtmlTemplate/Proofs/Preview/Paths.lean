/-
This file gives the grammar of the paths in previewed expressions. The reader accepts exactly the paths that
the grammar spells, and the members that it returns are those of the spelling, in their order.
-/

import HtmlTemplate.Preview.Expression
import HtmlTemplate.Proofs.Text.Words

namespace HtmlTemplate

namespace Text

theorem hexDigit?_of_isDigit {c : Char} (digit : c.isDigit = true) :
    hexDigit? c = some (c.toNat - '0'.toNat) :=
  if_pos digit

/-- The value of decimal digits. -/
theorem digitsValue_eq_ofDigitChars {digits : List Char} (areDigits : ∀ c ∈ digits, c.isDigit = true) :
    digitsValue 10 digits = Nat.ofDigitChars 10 digits 0 := by
  rw [digitsValue, Nat.ofDigitChars_eq_foldl]
  apply List.foldl_ext
  intro value c member
  rw [hexDigit?_of_isDigit (areDigits c member), Option.getD_some, Nat.mul_comm]

end Text

namespace Preview

open Data

/-- What names a member between brackets: a quoted text or a number. -/
inductive SpellsKey : List Char → Member → Prop where
  | quoted {mark : Char} {inside : List Char} (isMark : mark = '"' ∨ mark = '\'') (noMark : mark ∉ inside)
      (noEscape : '\\' ∉ inside) : SpellsKey (mark :: (inside ++ [mark])) (.key (String.ofList inside))
  | number {digits : List Char} (filled : digits ≠ []) (areDigits : ∀ c ∈ digits, c.isDigit = true)
      (fits : Nat.ofDigitChars 10 digits 0 ≤ 0x7FFFFFFFFFFFFFFF) :
      SpellsKey digits (.index (Nat.ofDigitChars 10 digits 0))

/-- A member as it is written in a path. -/
inductive SpellsMember : List Char → Member → Prop where
  | named {name : List Char} (identifier : Text.IsIdentifier name) :
      SpellsMember ('.' :: name) (.key (String.ofList name))
  | bracketed {front key back : List Char} {member : Member}
      (frontBlank : front.all Text.isWhiteSpace = true) (spells : SpellsKey key member)
      (backBlank : back.all Text.isWhiteSpace = true) (closed : ']' ∉ key) :
      SpellsMember ('[' :: (front ++ (key ++ back) ++ [']'])) member

/-- A path as it is written: an identifier, and one word for each member. -/
def SpellsPath (chars : List Char) (head : String) (members : List Member) : Prop :=
  ∃ name words, Text.IsIdentifier name ∧ List.Forall₂ SpellsMember words members ∧
    chars = name ++ words.flatten ∧ head = String.ofList name

/-- A literal is what stands between two quotes. -/
theorem quotedLiteral?_eq_some_iff {mark : Char} {rest : List Char} {text : String} :
    quotedLiteral? mark rest = some text ↔
      ∃ inside, rest = inside ++ [mark] ∧ mark ∉ inside ∧ '\\' ∉ inside ∧ text = String.ofList inside := by
  unfold quotedLiteral?
  cases rest using List.reverseRecOn with
  | nil => simp
  | append_singleton inside last =>
      rw [List.getLast?_concat]
      dsimp only
      rw [List.dropLast_concat]
      constructor
      · intro read
        split at read
        · rename_i accepted
          simp only [Bool.and_eq_true, decide_eq_true_eq, Bool.not_eq_true', List.contains_eq_mem,
            decide_eq_false_iff_not] at accepted
          obtain ⟨⟨rfl, noMark⟩, noEscape⟩ := accepted
          exact ⟨inside, rfl, noMark, noEscape, (Option.some.inj read).symm⟩
        · contradiction
      · rintro ⟨other, same, noMark, noEscape, rfl⟩
        obtain ⟨rfl, isLast⟩ := List.append_inj' same rfl
        obtain rfl := List.head_eq_of_cons_eq isLast
        simp [noMark, noEscape]

/-- An integer names an element by its index. -/
theorem memberOf?_integer (number : Nat) :
    memberOf? (.number (.integer number)) = some (.index number) := by
  rw [memberOf?, if_pos (Int.natCast_nonneg number), Int.toNat_natCast]

/-- Only digits that write a small number name a member by number. -/
theorem numberLiteral?_member_iff {chars : List Char} {member : Member} :
    (numberLiteral? chars).bind memberOf? = some member ↔
      (∀ c ∈ chars, c.isDigit = true) ∧ Text.digitsValue 10 chars ≤ greatestInteger ∧
        member = .index (Text.digitsValue 10 chars) := by
  have whole (areDigits : ∀ c ∈ chars, c.isDigit = true) : chars.takeWhile Char.isDigit = chars :=
    List.takeWhile_eq_self_iff.mpr areDigits
  have digitsOnly : chars.drop (chars.takeWhile Char.isDigit).length = [] ↔
      ∀ c ∈ chars, c.isDigit = true := by
    constructor
    · intro ended
      have long := List.drop_eq_nil_iff.mp ended
      exact List.takeWhile_eq_self_iff.mp ((List.takeWhile_prefix _).eq_of_length_le long)
    · intro areDigits
      rw [whole areDigits, List.drop_length]
  unfold numberLiteral?
  dsimp only
  split
  · rename_i small
    rw [Bool.and_eq_true, List.isEmpty_iff, digitsOnly, decide_eq_true_eq] at small
    obtain ⟨areDigits, fits⟩ := small
    rw [whole areDigits] at fits ⊢
    rw [Option.bind_some, memberOf?_integer, Option.some.injEq]
    exact ⟨fun same => ⟨areDigits, fits, same.symm⟩, fun named => named.2.2.symm⟩
  · rename_i other
    constructor
    · intro read
      obtain ⟨value, isValue, named⟩ := Option.bind_eq_some_iff.mp read
      obtain ⟨parts, _, rfl⟩ := Option.map_eq_some_iff.mp isValue
      split at named <;> contradiction
    · rintro ⟨areDigits, fits, _⟩
      rw [Bool.and_eq_true, List.isEmpty_iff, digitsOnly, decide_eq_true_eq, whole areDigits] at other
      exact absurd ⟨areDigits, fits⟩ other

/-- A quoted literal in brackets spells a key. -/
theorem spellsKey_of_quoted {mark : Char} {rest : List Char} {member : Member}
    (isMark : mark = '"' ∨ mark = '\'')
    (read : ((quotedLiteral? mark rest).map Value.string).bind memberOf? = some member) :
    SpellsKey (mark :: rest) member := by
  obtain ⟨value, isValue, named⟩ := Option.bind_eq_some_iff.mp read
  obtain ⟨text, isText, rfl⟩ := Option.map_eq_some_iff.mp isValue
  obtain ⟨inside, rfl, noMark, noEscape, rfl⟩ := quotedLiteral?_eq_some_iff.mp isText
  obtain rfl := Option.some.inj named
  exact .quoted isMark noMark noEscape

/-- A literal that starts with a digit is a number. -/
theorem literal?_of_isDigit {first : Char} {rest : List Char} (digit : first.isDigit = true) :
    literal? (first :: rest) = numberLiteral? (first :: rest) := by
  unfold literal?
  split <;> simp_all

/-- A literal names a member exactly if the grammar spells it as a key. -/
theorem literal?_member_iff {chars : List Char} {member : Member} :
    (literal? chars).bind memberOf? = some member ↔ SpellsKey chars member := by
  constructor
  · intro read
    unfold literal? at read
    split at read
    · contradiction
    · contradiction
    · contradiction
    · contradiction
    · exact spellsKey_of_quoted (.inl rfl) read
    · exact spellsKey_of_quoted (.inr rfl) read
    · split at read
      · obtain ⟨areDigits, fits, rfl⟩ := numberLiteral?_member_iff.mp read
        rw [Text.digitsValue_eq_ofDigitChars areDigits] at fits ⊢
        exact .number (List.cons_ne_nil _ _) areDigits fits
      · contradiction
    · contradiction
  · intro spells
    cases spells with
    | quoted isMark noMark noEscape =>
        rename_i mark inside
        have read : quotedLiteral? mark (inside ++ [mark]) = some (String.ofList inside) :=
          quotedLiteral?_eq_some_iff.mpr ⟨inside, rfl, noMark, noEscape, rfl⟩
        rcases isMark with rfl | rfl
        · show ((quotedLiteral? '"' (inside ++ ['"'])).map Value.string).bind memberOf? = _
          rw [read]
          rfl
        · show ((quotedLiteral? '\'' (inside ++ ['\''])).map Value.string).bind memberOf? = _
          rw [read]
          rfl
    | number filled areDigits fits =>
        obtain ⟨first, rest, rfl⟩ := List.exists_cons_of_ne_nil filled
        rw [literal?_of_isDigit (areDigits first List.mem_cons_self), numberLiteral?_member_iff,
          Text.digitsValue_eq_ofDigitChars areDigits]
        exact ⟨areDigits, fits, rfl⟩

theorem isIdentifierChar_of_mem {word : List Char} (identifier : Text.IsIdentifier word) :
    word.all Text.isIdentifierChar = true := by
  rw [List.all_eq_true]
  intro c member
  simpa [Text.isIdentifierChar, or_assoc] using identifier.chars c member

/-- An identifier is read as far as it goes. -/
theorem identifier?_eq_some_iff {chars after : List Char} {name : String} :
    identifier? chars = some (name, after) ↔
      ∃ word, Text.IsIdentifier word ∧ Text.Stops Text.isIdentifierChar after ∧
        chars = word ++ after ∧ name = String.ofList word := by
  unfold identifier?
  dsimp only
  constructor
  · intro read
    split at read
    · contradiction
    · rename_i accepted
      simp only [Bool.or_eq_true, List.isEmpty_iff, not_or, Bool.not_eq_true] at accepted
      obtain ⟨filled, noDigit⟩ := accepted
      simp only [Option.some.injEq, Prod.mk.injEq] at read
      obtain ⟨rfl, rfl⟩ := read
      refine ⟨_, ⟨filled, ?_, ?_⟩, ?_, List.takeWhile_append_dropWhile.symm, rfl⟩
      · intro c member
        simpa [Text.isIdentifierChar, or_assoc] using List.mem_takeWhile_imp member
      · intro c isFirst
        rw [List.head?_takeWhile, Option.mem_filter_iff] at isFirst
        rwa [isFirst.1] at noDigit
      · exact Text.stops_dropWhile _ _
  · rintro ⟨word, identifier, stops, rfl, rfl⟩
    have kept := isIdentifierChar_of_mem identifier
    obtain ⟨first, others, rfl⟩ := List.exists_cons_of_ne_nil identifier.filled
    have noDigit : first.isDigit = false := identifier.first first rfl
    rw [Text.takeWhile_word kept stops, Text.dropWhile_word kept stops, if_neg]
    simp [noDigit]

/-- Keys have no white space around them. -/
theorem SpellsKey.isTrimmed {key : List Char} {member : Member} (spells : SpellsKey key member) :
    key ≠ [] ∧ Text.IsTrimmed key := by
  cases spells with
  | quoted isMark noMark noEscape =>
      rename_i mark inside
      have visible : Text.isWhiteSpace mark = false := by rcases isMark with rfl | rfl <;> decide
      refine ⟨List.cons_ne_nil _ _, ?_, ?_⟩
      · simpa using visible
      · rw [← List.cons_append, List.getLast?_concat]
        simpa using visible
  | number filled areDigits fits =>
      refine ⟨filled, fun c isFirst => ?_, fun c isLast => ?_⟩
      · exact Text.isWhiteSpace_of_isDigit (areDigits c (List.mem_of_mem_head? isFirst))
      · exact Text.isWhiteSpace_of_isDigit (areDigits c (List.mem_of_mem_getLast? isLast))

/-- Brackets hold a literal up to the first closing one. -/
theorem nextMember?_bracketed {content : List Char} (after : List Char)
    (kept : content.all (· != ']') = true) :
    nextMember? ('[' :: (content ++ ']' :: after)) =
      ((literal? (Text.trim content)).bind memberOf?).map fun member => (member, after) := by
  have stops : Text.Stops (· != ']') (']' :: after) := Text.stops_cons after (by decide)
  simp only [nextMember?, Text.takeWhile_word kept stops, Text.dropWhile_word kept stops]

/-- The word of a member is read, if no identifier goes on with it. -/
theorem nextMember?_word {word after : List Char} {member : Member} (spells : SpellsMember word member)
    (stops : Text.Stops Text.isIdentifierChar after) :
    nextMember? (word ++ after) = some (member, after) := by
  cases spells with
  | named identifier =>
      rename_i name
      have read := identifier?_eq_some_iff.mpr ⟨name, identifier, stops, rfl, rfl⟩
      show (identifier? (name ++ after)).map _ = _
      rw [read]
      rfl
  | bracketed frontBlank spells backBlank closed =>
      rename_i front key back
      have visible {blanks : List Char} (blank : blanks.all Text.isWhiteSpace = true) : ']' ∉ blanks :=
        fun member => absurd (List.all_eq_true.mp blank ']' member) (by decide)
      have kept : (front ++ (key ++ back)).all (· != ']') = true := by
        rw [List.all_eq_true]
        rintro c member
        rw [bne_iff_ne]
        rintro rfl
        simp only [List.mem_append] at member
        rcases member with inFront | inKey | inBack
        · exact visible frontBlank inFront
        · exact closed inKey
        · exact visible backBlank inBack
      obtain ⟨filled, trimmed⟩ := spells.isTrimmed
      rw [List.cons_append, List.append_assoc, List.singleton_append, nextMember?_bracketed after kept,
        Text.trim_padded frontBlank filled trimmed backBlank, literal?_member_iff.mpr spells]
      rfl

/-- A member that is read is spelled at the front. -/
theorem exists_word_of_nextMember? {chars after : List Char} {member : Member}
    (read : nextMember? chars = some (member, after)) :
    ∃ word, SpellsMember word member ∧ chars = word ++ after := by
  unfold nextMember? at read
  split at read
  · rename_i rest
    obtain ⟨⟨name, tail⟩, isName, same⟩ := Option.map_eq_some_iff.mp read
    simp only [Prod.mk.injEq] at same
    obtain ⟨rfl, rfl⟩ := same
    obtain ⟨word, identifier, _, rfl, rfl⟩ := identifier?_eq_some_iff.mp isName
    exact ⟨_, .named identifier, rfl⟩
  · rename_i rest
    split at read
    · contradiction
    · rename_i close tail remaining
      obtain ⟨found, isFound, same⟩ := Option.map_eq_some_iff.mp read
      simp only [Prod.mk.injEq] at same
      obtain ⟨rfl, rfl⟩ := same
      have spells := literal?_member_iff.mp isFound
      obtain rfl : close = ']' := by
        simpa using Text.stops_dropWhile (· != ']') rest close (by rw [remaining]; rfl)
      obtain ⟨front, back, frontBlank, backBlank, padded⟩ :=
        Text.exists_trim_padded (rest.takeWhile (· != ']'))
      have closed : ']' ∉ Text.trim (rest.takeWhile (· != ']')) := by
        intro inKey
        have inRest : ']' ∈ rest.takeWhile (· != ']') := by
          rw [padded]
          simp [inKey]
        exact absurd (List.mem_takeWhile_imp inRest) (by decide)
      refine ⟨_, .bracketed frontBlank spells backBlank closed, ?_⟩
      rw [← padded, List.cons_append, List.append_assoc, List.singleton_append, ← remaining,
        List.takeWhile_append_dropWhile]
  · contradiction

/-- The spelling of a member ends the name before it. -/
theorem SpellsMember.stops {word : List Char} {member : Member} (spells : SpellsMember word member) :
    word ≠ [] ∧ Text.Stops Text.isIdentifierChar word := by
  cases spells with
  | named => exact ⟨List.cons_ne_nil _ _, Text.stops_cons _ (by decide)⟩
  | bracketed => exact ⟨List.cons_ne_nil _ _, Text.stops_cons _ (by decide)⟩

theorem stops_flatten {words : List (List Char)} {members : List Member}
    (spell : List.Forall₂ SpellsMember words members) :
    Text.Stops Text.isIdentifierChar words.flatten := by
  cases spell with
  | nil => simp [Text.Stops]
  | cons first others => exact first.stops.2.append first.stops.1 _

/-- Members are read one after the other. -/
theorem members?_of_nextMember? {chars after : List Char} {member : Member}
    (found : nextMember? chars = some (member, after)) :
    members? chars = (members? after).map (member :: ·) := by
  have more : chars.isEmpty = false := by
    cases chars with
    | nil => contradiction
    | cons => rfl
  rw [members?, more]
  simp only [Bool.false_eq_true, ↓reduceIte]
  split
  · rename_i rejected
    rw [found] at rejected
    contradiction
  · rename_i other rest read
    obtain ⟨rfl, rfl⟩ := Prod.mk.inj (Option.some.inj (found.symm.trans read))
    rfl

/-- Members are read word by word. -/
theorem members?_eq_some_iff {chars : List Char} {members : List Member} :
    members? chars = some members ↔
      ∃ words, List.Forall₂ SpellsMember words members ∧ chars = words.flatten := by
  constructor
  · intro read
    fun_induction members? chars generalizing members with
    | case1 chars ended =>
        obtain rfl := Option.some.inj read
        exact ⟨[], .nil, by simpa using ended⟩
    | case2 chars more rejected => contradiction
    | case3 chars more member after found shorter inductionHypothesis =>
        obtain ⟨others, areOthers, rfl⟩ := Option.map_eq_some_iff.mp read
        obtain ⟨word, spells, rfl⟩ := exists_word_of_nextMember? found
        obtain ⟨words, spell, rfl⟩ := inductionHypothesis areOthers
        exact ⟨word :: words, .cons spells spell, rfl⟩
  · rintro ⟨words, spell, rfl⟩
    induction spell with
    | nil => simp [members?]
    | cons first others inductionHypothesis =>
        rw [List.flatten_cons, members?_of_nextMember? (nextMember?_word first (stops_flatten others)),
          inductionHypothesis]
        rfl

/-- A path is read exactly if it is spelled. -/
theorem path?_eq_some_iff {chars : List Char} {head : String} {members : List Member} :
    path? chars = some (head, members) ↔ SpellsPath chars head members := by
  unfold path?
  constructor
  · intro read
    split at read
    · contradiction
    · rename_i name rest isName
      obtain ⟨found, isFound, same⟩ := Option.map_eq_some_iff.mp read
      simp only [Prod.mk.injEq] at same
      obtain ⟨rfl, rfl⟩ := same
      obtain ⟨word, identifier, _, rfl, rfl⟩ := identifier?_eq_some_iff.mp isName
      obtain ⟨words, spell, rfl⟩ := members?_eq_some_iff.mp isFound
      exact ⟨word, words, identifier, spell, rfl, rfl⟩
  · rintro ⟨name, words, identifier, spell, rfl, rfl⟩
    have isName := identifier?_eq_some_iff.mpr ⟨name, identifier, stops_flatten spell, rfl, rfl⟩
    rw [isName]
    dsimp only
    rw [members?_eq_some_iff.mpr ⟨words, spell, rfl⟩]
    rfl

theorem closes_append {first second : List Char}
    (firstCloses : ∀ c ∈ first.getLast?, Text.isWhiteSpace c = false)
    (secondCloses : ∀ c ∈ second.getLast?, Text.isWhiteSpace c = false) :
    ∀ c ∈ (first ++ second).getLast?, Text.isWhiteSpace c = false := by
  by_cases ended : second = []
  · rwa [ended, List.append_nil]
  · rwa [List.getLast?_append_of_ne_nil _ ended]

/-- The spelling of a member ends without white space. -/
theorem SpellsMember.closes {word : List Char} {member : Member} (spells : SpellsMember word member) :
    ∀ c ∈ word.getLast?, Text.isWhiteSpace c = false := by
  cases spells with
  | named identifier =>
      rw [← List.singleton_append, List.getLast?_append_of_ne_nil _ identifier.filled]
      exact fun c isLast => identifier.isWhiteSpace_eq_false (List.mem_of_mem_getLast? isLast)
  | bracketed =>
      rw [← List.cons_append, List.getLast?_concat]
      intro c isLast
      obtain rfl := Option.some.inj isLast
      rfl

/-- White space does not end a path. -/
theorem SpellsPath.closes {chars : List Char} {head : String} {members : List Member}
    (spells : SpellsPath chars head members) : ∀ c ∈ chars.getLast?, Text.isWhiteSpace c = false := by
  obtain ⟨name, words, identifier, spell, rfl, rfl⟩ := spells
  have named : ∀ c ∈ name.getLast?, Text.isWhiteSpace c = false :=
    fun c isLast => identifier.isWhiteSpace_eq_false (List.mem_of_mem_getLast? isLast)
  refine closes_append named ?_
  clear named identifier
  induction spell with
  | nil => simp
  | cons first others inductionHypothesis => exact closes_append first.closes inductionHypothesis

/-- A path is read exactly if the grammar spells it, and as spelled. -/
theorem path?_reads_spelling (text : String) :
    (∀ head members, path? text.toList = some (head, members) ↔ SpellsPath text.toList head members) ∧
      (path? text.toList = none ↔ ∀ head members, ¬SpellsPath text.toList head members) := by
  refine ⟨fun head members => path?_eq_some_iff, ?_⟩
  rw [Option.eq_none_iff_forall_ne_some]
  constructor
  · intro rejected head members spells
    exact rejected (head, members) (path?_eq_some_iff.mpr spells)
  · rintro unspelled ⟨head, members⟩ read
    exact unspelled head members (path?_eq_some_iff.mp read)

end Preview

end HtmlTemplate
