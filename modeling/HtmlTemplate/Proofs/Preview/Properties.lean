/-
This file compares the members that previews read with own properties as JavaScript has them. The two agree but
for elements of texts, and for elements of arrays that are named by a key: these the preview does not find.
-/

import HtmlTemplate.Preview.Render
import HtmlTemplate.Proofs.Preview.Paths

namespace HtmlTemplate

namespace Data

/-- All texts in a value are ASCII. -/
inductive Value.IsAscii : Value → Prop where
  | null : IsAscii .null
  | bool (value : Bool) : IsAscii (.bool value)
  | number (value : Number) : IsAscii (.number value)
  | string {text : String} (chars : ∀ c ∈ text.toList, c.toNat < 0x80) : IsAscii (.string text)
  | array {items : List Value} (each : ∀ item ∈ items, IsAscii item) : IsAscii (.array items)
  | object {fields : List (String × Value)} (each : ∀ field ∈ fields, IsAscii field.2) :
      IsAscii (.object fields)

end Data

namespace Preview

open Data

/-- The name of the property that a member reads. -/
def Member.property : Member → String
  | .key name => name
  | .index number => toString number

/-- The elements by their numbers in decimal digits, and how many there are. -/
def elementProperties (elements : List Value) : List (String × Value) :=
  elements.mapIdx (fun number element => (toString number, element)) ++
    [("length", .number (.integer elements.length))]

/-- The own properties of a value. The elements of a text are its characters. -/
def ownProperties : Value → List (String × Value)
  | .array items => elementProperties items
  | .string text => elementProperties (text.toList.map fun c => .string (String.singleton c))
  | .object fields => fields
  | .null => []
  | .bool _ => []
  | .number _ => []

/-- The own property that a member reads. What is missing is null. -/
def ownMember (value : Value) (member : Member) : Value :=
  ((ownProperties value).lookup member.property).getD .null

/-- Follows own properties from a value. Reading a member of null fails. -/
def followOwn (text : String) : Value → List Member → Except RenderError Value
  | value, [] => .ok value
  | .null, _ :: _ => .error (.nullMember text)
  | value, member :: rest => followOwn text (ownMember value member) rest

/-- All members that are read on the way, each with its value. -/
def ownReads : Value → List Member → List (Value × Member)
  | _, [] => []
  | value, member :: rest => (value, member) :: ownReads (ownMember value member) rest

/-- An element that is there but is not found. -/
inductive Overlooked : Value → Member → Prop where
  | character {text : String} {member : Member} {number : Nat} (within : number < text.toList.length)
      (named : member.property = toString number) : Overlooked (.string text) member
  | item {items : List Value} {number : Nat} {item : Value} (stands : items[number]? = some item)
      (filled : item.isNull = false) : Overlooked (.array items) (.key (toString number))

/-- Numbers are told apart by their spelling. -/
theorem eq_of_toString_eq {first second : Nat} (same : toString first = toString second) :
    first = second := by
  have digits : Nat.toDigits 10 first = Nat.toDigits 10 second := by
    rwa [Nat.toString_eq_ofList_toDigits, Nat.toString_eq_ofList_toDigits, String.ofList_inj] at same
  rw [← @Nat.ofDigitChars_ten_toDigits first, digits, Nat.ofDigitChars_ten_toDigits]

/-- No number is spelled as the length is named. -/
theorem toString_ne_length (number : Nat) : toString number ≠ "length" := by
  intro same
  have chars : Nat.toDigits 10 number = "length".toList := by
    rw [← same, Nat.toString_eq_ofList_toDigits, String.toList_ofList]
  have first : 'l' ∈ Nat.toDigits 10 number := by
    rw [chars]
    decide
  exact absurd (Nat.isDigit_of_mem_toDigits (by decide) (by decide) first) (by decide)

/-- The elements are found by their numbers, which go on from the first one. -/
theorem lookup_mapIdx_toString (elements : List Value) (start number : Nat) :
    (elements.mapIdx fun index element => (toString (start + index), element)).lookup
        (toString (start + number)) = elements[number]? := by
  induction elements generalizing start number with
  | nil => rfl
  | cons first others inductionHypothesis =>
      rw [List.mapIdx_cons, List.lookup_cons]
      cases number with
      | zero => simp
      | succ number =>
          have apart : (toString (start + (number + 1)) == toString (start + 0)) = false := by
            rw [beq_eq_false_iff_ne]
            intro same
            have equal := eq_of_toString_eq same
            omega
          rw [apart, List.getElem?_cons_succ, ← inductionHypothesis (start + 1) number]
          simp only [Nat.add_assoc, Nat.add_comm 1]

section

variable (elements : List Value)

/-- The properties of elements are named by their indices. -/
theorem lookup_elementProperties_number (number : Nat) :
    (elementProperties elements).lookup (toString number) = elements[number]? := by
  have found := lookup_mapIdx_toString elements 0 number
  simp only [Nat.zero_add] at found
  have apart : (toString number == "length") = false := by
    simpa using toString_ne_length number
  rw [elementProperties, List.lookup_append, found, List.lookup_cons, apart, List.lookup_nil,
    Option.or_none]

/-- No other key than a number and the length is an own property. -/
theorem lookup_elementProperties_key {name : String} (noNumber : ∀ number : Nat, name ≠ toString number) :
    (elementProperties elements).lookup name =
      if name = "length" then some (.number (.integer elements.length)) else none := by
  have absent : (elements.mapIdx fun index element => (toString index, element)).lookup name = none := by
    rw [List.lookup_eq_none_iff]
    intro entry member
    obtain ⟨number, _, rfl⟩ := List.mem_mapIdx.mp member
    simpa using noNumber number
  rw [elementProperties, List.lookup_append, absent, Option.none_or, List.lookup_cons, List.lookup_nil]
  by_cases isLength : name = "length"
  · simp [isLength]
  · rw [if_neg isLength, beq_eq_false_iff_ne.mpr isLength]

end

/-- An ASCII text has one code unit for each character. -/
theorem utf16Length_of_isAscii {chars : List Char} (ascii : ∀ c ∈ chars, c.toNat < 0x80) :
    Text.utf16Length chars = chars.length := by
  have none : chars.countP (fun c => decide (0x10000 ≤ c.toNat)) = 0 := by
    rw [List.countP_eq_zero]
    intro c member
    have small := ascii c member
    simp only [decide_eq_true_eq]
    omega
  rw [Text.utf16Length, none, Nat.add_zero]

/-- A key that is a number finds nothing in texts and arrays. -/
theorem memberOf_number_key (number : Nat) :
    (∀ text, memberOf (.string text) (.key (toString number)) = .null) ∧
      ∀ items, memberOf (.array items) (.key (toString number)) = .null :=
  ⟨fun _ => if_neg (toString_ne_length number), fun _ => if_neg (toString_ne_length number)⟩

/-- Whatever is overlooked is there, but is read as null. -/
theorem memberOf_of_overlooked {value : Value} {member : Member} (overlooked : Overlooked value member) :
    memberOf value member = .null ∧ (ownMember value member).isNull = false := by
  cases overlooked with
  | character within named =>
      rename_i text number
      constructor
      · cases member with
        | key name =>
            obtain rfl : name = toString number := named
            exact (memberOf_number_key number).1 text
        | index => rfl
      · rw [ownMember, named, ownProperties, lookup_elementProperties_number, List.getElem?_map,
          List.getElem?_eq_getElem within]
        rfl
  | item stands filled =>
      rename_i items number item
      refine ⟨(memberOf_number_key number).2 items, ?_⟩
      rw [ownMember, Member.property, ownProperties, lookup_elementProperties_number, stands]
      exact filled

/-- All other members are read as own properties. -/
theorem memberOf_of_not_overlooked {value : Value} {member : Member} (ascii : value.IsAscii)
    (found : ¬Overlooked value member) : memberOf value member = ownMember value member := by
  cases value with
  | array items =>
      cases member with
      | index number =>
          rw [ownMember, Member.property, ownProperties, lookup_elementProperties_number]
          exact List.getD_eq_getElem?_getD
      | key name =>
          by_cases isNumber : ∃ number : Nat, name = toString number
          · obtain ⟨number, rfl⟩ := isNumber
            rw [(memberOf_number_key number).2 items, ownMember, Member.property, ownProperties,
              lookup_elementProperties_number]
            cases stands : items[number]? with
            | none => rfl
            | some item =>
                cases item with
                | null => rfl
                | _ => exact absurd (.item stands rfl) found
          · rw [ownMember, Member.property, ownProperties,
              lookup_elementProperties_key items (not_exists.mp isNumber), memberOf]
            split <;> rfl
  | string text =>
      have absent (number : Nat) (named : member.property = toString number) :
          ownMember (.string text) member = .null := by
        have beyond : text.toList.length ≤ number :=
          Nat.le_of_not_lt fun within => found (.character within named)
        rw [ownMember, named, ownProperties, lookup_elementProperties_number, List.getElem?_map,
          List.getElem?_eq_none beyond]
        rfl
      cases member with
      | index number => exact (absent number rfl).symm
      | key name =>
          by_cases isNumber : ∃ number : Nat, name = toString number
          · obtain ⟨number, rfl⟩ := isNumber
            rw [absent number rfl]
            exact (memberOf_number_key number).1 text
          · cases ascii with
            | string chars =>
                rw [ownMember, Member.property, ownProperties,
                  lookup_elementProperties_key _ (not_exists.mp isNumber), memberOf,
                  utf16Length_of_isAscii chars, List.length_map]
                split <;> rfl
  | object fields => cases member <;> rfl
  | null => rfl
  | bool => rfl
  | number => rfl

/-- The elements of ASCII values are ASCII values. -/
theorem isAscii_elementProperties {elements : List Value}
    (ascii : ∀ element ∈ elements, element.IsAscii) :
    ∀ entry ∈ elementProperties elements, entry.2.IsAscii := by
  intro entry member
  rcases List.mem_append.mp member with isElement | isLength
  · obtain ⟨number, within, rfl⟩ := List.mem_mapIdx.mp isElement
    exact ascii _ (List.getElem_mem within)
  · rw [List.mem_singleton.mp isLength]
    exact .number _

/-- The properties of an ASCII value are ASCII values. -/
theorem isAscii_ownProperties {value : Value} (ascii : value.IsAscii) :
    ∀ entry ∈ ownProperties value, entry.2.IsAscii := by
  cases ascii with
  | array each => exact isAscii_elementProperties each
  | string chars =>
      refine isAscii_elementProperties (List.forall_mem_map.mpr fun c member => .string ?_)
      simpa using chars c member
  | object each => exact each
  | null => exact List.forall_mem_nil _
  | bool => exact List.forall_mem_nil _
  | number => exact List.forall_mem_nil _

/-- A member of an ASCII value is an ASCII value. -/
theorem isAscii_ownMember {value : Value} (ascii : value.IsAscii) (member : Member) :
    (ownMember value member).IsAscii := by
  rw [ownMember]
  cases found : (ownProperties value).lookup member.property with
  | none => exact .null
  | some property =>
      obtain ⟨before, after, whole, _⟩ := List.lookup_eq_some_iff.mp found
      have member : (member.property, property) ∈ ownProperties value := by simp [whole]
      exact isAscii_ownProperties ascii _ member

/-- A path goes on from a member that is not null. -/
theorem followOwn_cons (text : String) {value : Value} (filled : value.isNull = false) (member : Member)
    (rest : List Member) :
    followOwn text value (member :: rest) = followOwn text (ownMember value member) rest := by
  cases value with
  | null => contradiction
  | _ => rfl

theorem follow_cons (text : String) {value : Value} (filled : value.isNull = false) (member : Member)
    (rest : List Member) :
    follow text value (member :: rest) = follow text (memberOf value member) rest := by
  rw [follow, filled, if_neg Bool.false_ne_true]

/-- Following members follows own properties exactly if nothing is overlooked. -/
theorem follow_eq_followOwn_iff (text : String) {value : Value} (ascii : value.IsAscii)
    (members : List Member) :
    follow text value members = followOwn text value members ↔
      followOwn text value members = .error (.nullMember text) ∨
        ∀ read ∈ ownReads value members, ¬Overlooked read.1 read.2 := by
  induction members generalizing value with
  | nil => exact ⟨fun _ => .inr (List.forall_mem_nil _), fun _ => rfl⟩
  | cons member rest inductionHypothesis =>
      cases isNull : value.isNull with
      | true =>
          cases value with
          | null => exact ⟨fun _ => .inl rfl, fun _ => rfl⟩
          | _ => contradiction
      | false =>
          rw [follow_cons text isNull, followOwn_cons text isNull, ownReads, List.forall_mem_cons]
          by_cases overlooked : Overlooked value member
          -- The preview goes on from null, which is either the result or has no members.
          · obtain ⟨isAbsent, isThere⟩ := memberOf_of_overlooked overlooked
            simp only [isAbsent, overlooked, not_true_eq_false, false_and, or_false]
            cases rest with
            | nil =>
                have apart : Value.null ≠ ownMember value member := by
                  intro same
                  rw [← same] at isThere
                  contradiction
                simpa [follow, followOwn] using apart
            | cons next others => exact eq_comm
          · rw [memberOf_of_not_overlooked ascii overlooked,
              inductionHypothesis (isAscii_ownMember ascii member)]
            simp only [overlooked, not_false_eq_true, true_and]

/-- What is overlooked makes the result null, or makes the path fail. -/
theorem follow_of_overlooked (text : String) {value : Value} (ascii : value.IsAscii)
    {members : List Member} {read : Value × Member} (isRead : read ∈ ownReads value members)
    (overlooked : Overlooked read.1 read.2) :
    follow text value members = .ok .null ∨ follow text value members = .error (.nullMember text) := by
  induction members generalizing value with
  | nil => contradiction
  | cons member rest inductionHypothesis =>
      cases isNull : value.isNull with
      | true =>
          rw [follow, isNull]
          exact .inr rfl
      | false =>
          rw [follow_cons text isNull]
          by_cases here : Overlooked value member
          · rw [(memberOf_of_overlooked here).1]
            cases rest with
            | nil => exact .inl rfl
            | cons next others => exact .inr rfl
          · rw [memberOf_of_not_overlooked ascii here]
            rcases List.mem_cons.mp isRead with rfl | isLater
            · exact absurd overlooked here
            · exact inductionHypothesis (isAscii_ownMember ascii member) isLater

/-- A path into the data is read as such. -/
theorem parse_of_path? {text : String} {members : List Member}
    (isPath : path? text.toList = some ("data", members)) :
    Expression.parse text = .path text "data" members := by
  have spells := path?_eq_some_iff.mp isPath
  have kept : Text.trimEnd text.toList = text.toList := by
    have trimmed := Text.trimEnd_word List.all_nil spells.closes
    rwa [List.append_nil] at trimmed
  obtain ⟨name, words, _, _, whole, isHead⟩ := spells
  obtain rfl : name = ['d', 'a', 't', 'a'] := by
    rw [← @String.toList_ofList name, ← isHead]
    rfl
  have noLiteral : literal? text.toList = none := by
    rw [whole]
    rfl
  have operand : Expression.parse text = .ofOperand text.toList := by
    rw [Expression.parse, kept, whole]
    rfl
  rw [operand, Expression.ofOperand, noLiteral, isPath, String.ofList_toList]

/-- Evaluating a path follows own properties exactly if nothing is overlooked. -/
theorem evaluate_path_iff (context : Context) {data : Value} (bound : context.lookup? "data" = some data)
    (ascii : data.IsAscii) {text : String} {members : List Member}
    (isPath : path? text.toList = some ("data", members)) :
    (evaluate context text = followOwn text data members ↔
      followOwn text data members = .error (.nullMember text) ∨
        ∀ read ∈ ownReads data members, ¬Overlooked read.1 read.2) ∧
    ((∃ read ∈ ownReads data members, Overlooked read.1 read.2) →
      evaluate context text = .ok .null ∨ evaluate context text = .error (.nullMember text)) := by
  have followed : evaluate context text = follow text data members := by
    rw [evaluate, parse_of_path? isPath, Expression.evaluate, bound]
  rw [followed]
  refine ⟨follow_eq_followOwn_iff text ascii members, ?_⟩
  rintro ⟨read, isRead, overlooked⟩
  exact follow_of_overlooked text ascii isRead overlooked

/-- An item by its number, one of its fields and a length. -/
theorem evaluate_path_iff_length :
    let data : Value := .object [("rows", .array [.null, .object [("name", .string "Ada")]])]
    let context : Context := ⟨data, .standard, true, []⟩
    context.lookup? "data" = some data ∧ data.IsAscii ∧
      path? "data.rows[1]['name'].length".toList =
        some ("data", [.key "rows", .index 1, .key "name", .key "length"]) ∧
      evaluate context "data.rows[1]['name'].length" = .ok (.number (.integer 3)) := by
  intro data context
  have ascii : data.IsAscii :=
    .object (List.forall_mem_singleton.mpr (.array (List.forall_mem_cons.mpr ⟨.null,
      List.forall_mem_singleton.mpr (.object (List.forall_mem_singleton.mpr (.string (by simp))))⟩)))
  have isPath : path? "data.rows[1]['name'].length".toList =
      some ("data", [.key "rows", .index 1, .key "name", .key "length"]) := by
    decide +kernel
  have found : ∀ read ∈ ownReads data [.key "rows", .index 1, .key "name", .key "length"],
      ¬Overlooked read.1 read.2 := by
    have reads : ownReads data [.key "rows", .index 1, .key "name", .key "length"] =
        [(data, .key "rows"), (.array [.null, .object [("name", .string "Ada")]], .index 1),
          (.object [("name", .string "Ada")], .key "name"), (.string "Ada", .key "length")] := rfl
    rw [reads]
    intro read member overlooked
    simp only [List.mem_cons, List.not_mem_nil, or_false] at member
    rcases member with rfl | rfl | rfl | rfl
    · cases overlooked
    · cases overlooked
    · cases overlooked
    · cases overlooked with
      | character within named => exact toString_ne_length _ named.symm
  have agrees := (evaluate_path_iff context rfl ascii isPath).1.mpr (.inr found)
  exact ⟨rfl, ascii, isPath, agrees.trans rfl⟩

/-- Characters of texts and items by their digits are rendered as nothing. -/
theorem evaluate_overlooks_elements :
    let data : Value := .object [("word", .string "hi"), ("list", .array [.string "a", .string "b"])]
    let context : Context := ⟨data, .standard, true, []⟩
    path? "data.word[0]".toList = some ("data", [.key "word", .index 0]) ∧
      evaluate context "data.word[0]" = .ok .null ∧
      followOwn "data.word[0]" data [.key "word", .index 0] = .ok (.string "h") ∧
      path? "data.list['1']".toList = some ("data", [.key "list", .key "1"]) ∧
      evaluate context "data.list['1']" = .ok .null ∧
      followOwn "data.list['1']" data [.key "list", .key "1"] = .ok (.string "b") := by
  intro data context
  have character : path? "data.word[0]".toList = some ("data", [.key "word", .index 0]) := by
    decide +kernel
  have item : path? "data.list['1']".toList = some ("data", [.key "list", .key "1"]) := by
    decide +kernel
  refine ⟨character, ?_, rfl, item, ?_, rfl⟩
  · rw [evaluate, parse_of_path? character]
    rfl
  · rw [evaluate, parse_of_path? item]
    rfl

end Preview

end HtmlTemplate
