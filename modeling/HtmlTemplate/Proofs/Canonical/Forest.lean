/-
This file holds canonical forests: literal markup that has exactly one written form, and that form.
-/

import HtmlTemplate.Proofs.Escape.Plain
import HtmlTemplate.Proofs.Markup.Scan
import HtmlTemplate.Proofs.Text.Case
import HtmlTemplate.Template.Static

namespace HtmlTemplate.Canonical

inductive Node where
  | doctype (name : String)
  | text (content : String)
  | element (tag : String) (attributes : List Template.Attribute) (children : List Node)
  deriving Repr

def Node.isText : Node → Bool
  | .text _ => true
  | _ => false

def doctypeChars (name : String) : List Char :=
  '<' :: '!' :: ("DOCTYPE ".toList ++ name.toList ++ ['>'])

def attributeChars (written : Template.Attribute) : List Char :=
  ' ' :: (written.name.toList ++ '=' :: '"' :: (written.value.toList ++ ['"']))

/-- A void element has no end tag. -/
def endTagChars (tag : String) : List Char :=
  if Markup.Tag.isVoid tag then [] else '<' :: '/' :: (tag.toList ++ ['>'])

mutual

/-- The written form of a node. -/
def Node.chars : Node → List Char
  | .doctype name => doctypeChars name
  | .text content => content.toList
  | .element tag attributes children =>
      '<' :: (tag.toList ++ (attributes.flatMap attributeChars ++
        '>' :: (allChars children ++ endTagChars tag)))

def allChars : List Node → List Char
  | [] => []
  | node :: rest => node.chars ++ allChars rest

end

/-- The written form of a forest. -/
def serialize (forest : List Node) : String := String.ofList (allChars forest)

/-- An element with content has its end tag spelled out. -/
theorem endTagChars_append {tag : String} (content : Markup.Tag.isVoid tag = false)
    (tail : List Char) :
    endTagChars tag ++ tail = '<' :: '/' :: (tag.toList ++ '>' :: tail) := by
  simp [endTagChars, content, List.append_assoc]

/-- An element is its start tag, its children and its end tag. -/
theorem element_chars_append (tag : String) (attributes : List Template.Attribute)
    (children : List Node) (tail : List Char) :
    (Node.element tag attributes children).chars ++ tail =
      '<' :: (tag.toList ++ (attributes.flatMap attributeChars ++
        '>' :: (allChars children ++ (endTagChars tag ++ tail)))) := by
  simp only [Node.chars, List.cons_append, List.append_assoc]

def isDoctypeName (name : String) : Bool :=
  !name.isEmpty && name.toList.all fun c => !(Text.isWhiteSpace c || c == '>' || c.isUpper)

/-- A text that is not blank and in which nothing else starts. -/
def isPlainText (content : String) : Bool :=
  !Text.isBlankText content && content.toList.all (· != '<') &&
    !Markup.hasPair '\x7b' '\x7b' content.toList

/-- A raw text may hold angle brackets, but no end tag. -/
def isRawText (content : String) : Bool :=
  !Text.isBlankText content && !Markup.hasPair '<' '/' content.toList &&
    !Markup.hasPair '\x7b' '\x7b' content.toList

def isRawContent : List Node → Bool
  | [] => true
  | [.text content] => isRawText content
  | _ => false

def isTagChar (c : Char) : Bool := c.isLower || c.isDigit || c == '-'

def isTagName (tag : String) : Bool :=
  match tag.toList with
  | [] => false
  | first :: rest => first.isLower && rest.all isTagChar

def isNameChar (c : Char) : Bool :=
  !(Text.isBlank c || c == '/' || c == '>' || c == '=' || c.isUpper)

def isAttribute (written : Template.Attribute) : Bool :=
  !written.name.isEmpty && written.name.toList.all isNameChar &&
    written.value.toList.all Escape.isPlainChar

/-- Whether the start of a tag ends an open element of the given name. -/
def ends (tag ancestor : String) : Bool :=
  (Markup.Tag.impliedEnd? tag).any fun rule => rule.closes.contains ancestor

mutual

/-- Whether a node is canonical inside elements of the given names. -/
def isCanonical (ancestors : List String) : Node → Bool
  | .doctype name => isDoctypeName name
  | .text content => isPlainText content
  | .element tag attributes children =>
      isTagName tag && tag != "template" && attributes.all isAttribute &&
        !ancestors.any (ends tag) &&
        (if Markup.Tag.isVoid tag then children.isEmpty
          else if Markup.rawTextTags.contains tag then isRawContent children
          else areCanonical (tag :: ancestors) false children)

/-- Whether siblings are canonical after a text or after no text. -/
def areCanonical (ancestors : List String) : Bool → List Node → Bool
  | _, [] => true
  | afterText, node :: rest =>
      !(afterText && node.isText) && isCanonical ancestors node &&
        areCanonical ancestors node.isText rest

end

/-- A forest of canonical nodes that stand outside of any element. -/
def isCanonicalForest (forest : List Node) : Bool := areCanonical [] false forest

/-- A text that is not blank has a character. -/
theorem toList_ne_nil_of_not_blank {content : String} (filled : Text.isBlankText content = false) :
    content.toList ≠ [] := by
  intro empty
  simp [Text.isBlankText, empty] at filled

/-- Raw text elements are not void. -/
theorem isVoid_of_rawText {tag : String} (raw : Markup.rawTextTags.contains tag = true) :
    Markup.Tag.isVoid tag = false := by
  have each : ∀ known ∈ Markup.rawTextTags, Markup.Tag.isVoid known = false := by decide
  exact each tag (List.contains_iff_mem.mp raw)

/-- Tag names are in lower case. -/
theorem not_isUpper_of_isTagChar {c : Char} (inTag : isTagChar c = true) : c.isUpper = false := by
  apply decide_eq_false
  intro upper
  rw [isTagChar, Bool.or_eq_true, Bool.or_eq_true, beq_iff_eq] at inTag
  rcases inTag with (lower | digit) | rfl
  · have bounds : (decide ('a'.val ≤ c.val) && decide (c.val ≤ 'z'.val)) = true := lower
    rw [Bool.and_eq_true, decide_eq_true_eq, decide_eq_true_eq] at bounds
    exact absurd (UInt32.le_trans bounds.1 upper.2) (by decide)
  · have bounds : (decide ('0'.val ≤ c.val) && decide (c.val ≤ '9'.val)) = true := digit
    rw [Bool.and_eq_true, decide_eq_true_eq, decide_eq_true_eq] at bounds
    exact absurd (UInt32.le_trans upper.1 bounds.2) (by decide)
  · exact absurd upper (by decide)

theorem not_endsTagName_of_isTagChar {c : Char} (inTag : isTagChar c = true) :
    Markup.endsTagName c = false := by
  by_contra ended
  simp only [Markup.endsTagName, Text.isBlank, Bool.not_eq_false, Bool.or_eq_true, beq_iff_eq]
    at ended
  rcases ended with (rfl | rfl) | ((((rfl | rfl) | rfl) | rfl) | rfl) <;>
    exact absurd inTag (by decide)

/-- A canonical tag name opens with a lower-case letter. -/
theorem isTagName_cons {tag : String} (named : isTagName tag = true) :
    ∃ first more, tag.toList = first :: more ∧ first.isLower = true ∧
      (first :: more).all isTagChar = true := by
  unfold isTagName at named
  split at named
  · contradiction
  · rename_i first more same
    rw [Bool.and_eq_true] at named
    refine ⟨first, more, same, named.1, ?_⟩
    rw [List.all_cons, named.2, isTagChar, named.1]
    rfl

/-- A canonical tag name is its own lower case. -/
theorem lower_tagName {tag : String} (named : isTagName tag = true) :
    Text.lower tag.toList = tag.toList := by
  obtain ⟨first, more, same, _, kept⟩ := isTagName_cons named
  apply Text.lower_eq_self
  intro c member
  rw [same] at member
  exact not_isUpper_of_isTagChar (List.all_eq_true.mp kept c member)

/-- A name in lower case is that of its raw text element. -/
theorem rawTextTag?_tagName {tag : String} (named : isTagName tag = true) :
    Markup.rawTextTag? tag.toList =
      if Markup.rawTextTags.contains tag then some tag else none := by
  by_cases raw : Markup.rawTextTags.contains tag = true
  · have each : ∀ known ∈ Markup.rawTextTags, Markup.rawTextTag? known.toList = some known := by
      decide
    rw [if_pos raw]
    exact each tag (List.contains_iff_mem.mp raw)
  · rw [if_neg raw, Markup.rawTextTag?, List.find?_eq_none]
    intro known member agrees
    have isLower : ∀ known ∈ Markup.rawTextTags, Text.lower known.toList = known.toList := by decide
    rw [Text.agree, lower_tagName named, isLower known member, beq_iff_eq] at agrees
    rw [← String.toList_injective agrees] at raw
    exact raw (List.contains_iff_mem.mpr member)

end HtmlTemplate.Canonical
