/-
This file says which names a start tag can have, for itself and for its attributes, and that the elements of
every tree have such names.
-/

import HtmlTemplate.Proofs.Markup.Ancestors
import HtmlTemplate.Proofs.Markup.Cursor
import HtmlTemplate.Proofs.Text.Case

namespace HtmlTemplate.Markup

/-- A tag name starts with a letter and goes on with kept characters. -/
def isTagName : List Char → Bool
  | [] => false
  | first :: more => first.isAlpha && more.all fun c => !endsTagName c

/-- Only the first character of an attribute name may be an equals sign. -/
def isAttributeName : List Char → Bool
  | [] => false
  | first :: more => !endsTagName first && more.all isAttributeNameChar

theorem not_endsTagName_of_isAlpha {c : Char} (letter : c.isAlpha = true) :
    endsTagName c = false := by
  apply Bool.eq_false_iff.mpr
  intro ends
  simp only [endsTagName, Text.isBlank, Bool.or_eq_true, beq_iff_eq] at ends
  rcases ends with (rfl | rfl) | (((rfl | rfl) | rfl) | rfl) | rfl <;> exact absurd letter (by decide)

/-- No character of a tag name ends it. -/
theorem not_endsTagName_of_mem {name : List Char} (named : isTagName name = true) :
    ∀ c ∈ name, endsTagName c = false := by
  cases name with
  | nil => contradiction
  | cons first more =>
      rw [isTagName, Bool.and_eq_true] at named
      refine List.forall_mem_cons.mpr ⟨not_endsTagName_of_isAlpha named.1, ?_⟩
      simpa using named.2

/-- A start tag and all its attributes have proper names. -/
def Token.IsNamed : Token → Prop
  | .startTag name written _ _ =>
      isTagName name.chars = true ∧ ∀ part ∈ written, isAttributeName part.name.chars = true
  | _ => True

theorem readQuoted_name {name : Lexeme} {mark : Char} {quote : Quote} {cursor after : Cursor}
    {written : AttributeToken} (found : readQuoted name mark quote cursor = .found written after) :
    written.name = name := by
  unfold readQuoted at found
  dsimp only at found
  split at found
  · contradiction
  · rw [← (TagStep.found.inj found).1]

theorem readUnquoted_name {name : Lexeme} {cursor after : Cursor} {written : AttributeToken}
    (found : readUnquoted name cursor = .found written after) : written.name = name := by
  unfold readUnquoted at found
  dsimp only at found
  split at found
  · contradiction
  · rw [← (TagStep.found.inj found).1]

theorem readValue_name {name : Lexeme} {cursor after : Cursor} {written : AttributeToken}
    (found : readValue name cursor = .found written after) : written.name = name := by
  unfold readValue at found
  dsimp only at found
  split at found
  · contradiction
  · exact readQuoted_name found
  · exact readQuoted_name found
  · exact readUnquoted_name found

theorem readAfterName_name {name : Lexeme} {cursor after : Cursor} {written : AttributeToken}
    (found : readAfterName name cursor = .found written after) : written.name = name := by
  unfold readAfterName at found
  split at found
  · contradiction
  · dsimp only at found
    split at found
    · contradiction
    · exact readValue_name found
    · rw [← (TagStep.found.inj found).1]

/-- A name that is read goes on only with what it keeps. -/
theorem readName_of_cons {cursor : Cursor} {first : Char} {rest : List Char}
    (same : cursor.rest = first :: rest) (keep : Char → Bool) :
    ∃ more, (cursor.readName keep).chars = first :: more ∧ more.all keep = true := by
  unfold Cursor.readName
  rw [same]
  exact ⟨rest.takeWhile keep, rfl, List.all_takeWhile⟩

/-- The name of an attribute that is read is proper. -/
theorem isAttributeName_of_nextAttribute {cursor after : Cursor} {written : AttributeToken}
    (found : nextAttribute cursor = .found written after) :
    isAttributeName written.name.chars = true := by
  unfold nextAttribute at found
  dsimp only at found
  split at found
  · contradiction
  · contradiction
  · rename_i first rest notEnd same
    have noGap : isGap first = false := Cursor.keep_of_skip_eq_cons same
    have opens : endsTagName first = false := by simp_all [isGap, endsTagName]
    obtain ⟨more, chars, kept⟩ := readName_of_cons same isAttributeNameChar
    rw [readAfterName_name found, chars, isAttributeName, opens, kept]
    rfl

/-- The names of all attributes that are read are proper. -/
theorem isAttributeName_of_readAttributes (cursor : Cursor) :
    ∀ part ∈ (readAttributes cursor).1, isAttributeName part.name.chars = true := by
  fun_induction readAttributes cursor with
  | case1 cursor written after found shorter more inductionHypothesis =>
      exact List.forall_mem_cons.mpr ⟨isAttributeName_of_nextAttribute found, inductionHypothesis⟩
  | case2 => exact List.forall_mem_nil _
  | case3 => exact List.forall_mem_nil _

/-- A start tag that is read has proper names. -/
theorem isNamed_readStartTag {cursor : Cursor} {first : Char} {rest : List Char}
    (same : cursor.rest = first :: rest) (opens : first.isAlpha = true) :
    (readStartTag cursor).1.IsNamed := by
  obtain ⟨more, chars, kept⟩ := readName_of_cons same fun c => !endsTagName c
  unfold readStartTag
  dsimp only
  split
  · trivial
  · split
    · refine ⟨?_, isAttributeName_of_readAttributes _⟩
      rw [chars, isTagName, opens, kept]
      rfl
    · trivial

theorem isNamed_readBracketed (token : Lexeme → Token) (cutOff : Unfinished) (cursor : Cursor)
    (named : ∀ content, (token content).IsNamed) : (readBracketed token cutOff cursor).1.IsNamed := by
  unfold readBracketed
  dsimp only
  split
  · trivial
  · exact named _

/-- Every token has the names that its start allows. -/
theorem isNamed_readToken (cursor : Cursor) : (readToken cursor).1.IsNamed := by
  unfold readToken
  split
  · unfold readDeclaration readComment
    dsimp only
    split
    · split <;> trivial
    all_goals exact isNamed_readBracketed _ _ _ fun _ => trivial
  · exact isNamed_readBracketed _ _ _ fun _ => trivial
  · unfold readEndTag readAfterEndTagName
    dsimp only
    split
    · trivial
    · trivial
    · split
      · trivial
      · exact isNamed_readBracketed _ _ _ fun _ => trivial
  · split
    · rename_i first rest _ _ _ same opens
      exact isNamed_readStartTag (Cursor.next_rest same) opens
    · trivial
  · trivial

/-- What every token read and every text has, all tokens of a source have. -/
theorem forall_mem_tokens {holds : Token → Prop} (read : ∀ cursor, holds (readToken cursor).1)
    (text : ∀ content, holds (.text content)) (chars : List Char) : ∀ token ∈ tokens chars, holds token := by
  have raw (token : Token) (cursor : Cursor) :
      ∀ segment ∈ (readRawText token cursor).1, holds segment.token := by
    unfold readRawText
    split
    · exact List.forall_mem_nil _
    · dsimp only
      split
      · exact List.forall_mem_nil _
      · exact List.forall_mem_singleton.mpr (text _)
  have all (cursor : Cursor) : ∀ segment ∈ segmentsFrom cursor, holds segment.token := by
    fun_induction segmentsFrom cursor with
    | case1 => exact List.forall_mem_nil _
    | case2 cursor more step raws shorter inductionHypothesis =>
        refine List.forall_mem_cons.mpr ⟨read cursor, ?_⟩
        exact List.forall_mem_append.mpr ⟨raw _ _, inductionHypothesis⟩
  exact List.forall_mem_map.mpr (all _)

theorem isNamed_of_mem_tokens {chars : List Char} {token : Token} (member : token ∈ tokens chars) :
    token.IsNamed :=
  forall_mem_tokens isNamed_readToken (fun _ => trivial) chars token member

/-- Lowering a tag name gives a tag name. -/
theorem isTagName_lower (name : List Char) : isTagName (Text.lower name) = isTagName name := by
  cases name with
  | nil => rfl
  | cons first more =>
      have letter : first.toLower.isAlpha = first.isAlpha :=
        Text.toLower_of_ascii Char.isAlpha (by decide) first
      have kept := @Text.all_lower (fun c => !endsTagName c)
        (Text.toLower_of_ascii (fun c => !endsTagName c) (by decide)) more
      exact congrArg₂ and letter kept

/-- Case does not matter for attribute names. -/
theorem isAttributeName_lower (name : List Char) :
    isAttributeName (Text.lower name) = isAttributeName name := by
  cases name with
  | nil => rfl
  | cons first more =>
      have opens : (!endsTagName first.toLower) = !endsTagName first :=
        Text.toLower_of_ascii (fun c => !endsTagName c) (by decide) first
      have kept := Text.all_lower (Text.toLower_of_ascii isAttributeNameChar (by decide)) more
      exact congrArg₂ and opens kept

mutual

/-- Every element of a tree has its lineage. -/
theorem Node.exists_lineage {tag : String} {attributes : List Attribute} {children : List Node}
    {detached : Bool} {location : Location} (ancestors : List String) (node : Node)
    (member : .element tag attributes children detached location ∈ node.preorder) :
    ∃ lineage ∈ node.lineages ancestors, lineage.tag = tag ∧ lineage.attributes = attributes := by
  cases node with
  | element outer written content _ _ =>
      rcases List.mem_cons.mp member with same | inside
      · injection same with sameTag sameAttributes
        exact ⟨_, List.mem_cons_self, sameTag.symm, sameAttributes.symm⟩
      · obtain ⟨lineage, found, same⟩ := exists_lineageAll (outer :: ancestors) content inside
        exact ⟨lineage, List.mem_cons_of_mem _ found, same⟩
  | _ => simp [Node.preorder] at member

/-- Every element of a forest is found with the elements around it. -/
theorem exists_lineageAll {tag : String} {attributes : List Attribute} {children : List Node}
    {detached : Bool} {location : Location} (ancestors : List String) (nodes : List Node)
    (member : .element tag attributes children detached location ∈ preorderAll nodes) :
    ∃ lineage ∈ lineagesAll ancestors nodes,
      lineage.tag = tag ∧ lineage.attributes = attributes := by
  cases nodes with
  | nil => exact absurd member List.not_mem_nil
  | cons node rest =>
      rcases List.mem_append.mp member with here | later
      · obtain ⟨lineage, found, same⟩ := node.exists_lineage ancestors here
        exact ⟨lineage, List.mem_append_left _ found, same⟩
      · obtain ⟨lineage, found, same⟩ := exists_lineageAll ancestors rest later
        exact ⟨lineage, List.mem_append_right _ found, same⟩

end

/-- The element has the name and the attributes of a start tag. -/
def Token.Declares (source : Source) (lineage : Lineage) : Token → Prop
  | .startTag name written _ _ =>
      lineage.tag = String.ofList (Text.lower name.chars) ∧
        lineage.attributes = written.map (Construction.attributeOf source)
  | _ => False

/-- An element that a token adds is declared by it. -/
theorem Token.declares_of_lineage? {source : Source} {state : Construction} {token : Token}
    {lineage : Lineage} (found : token.lineage? source state = some lineage) :
    token.Declares source lineage := by
  cases token with
  | startTag name written selfClosing stop =>
      obtain rfl := Option.some.inj found
      exact ⟨rfl, rfl⟩
  | _ => contradiction

/-- Every element comes from a start tag. -/
theorem Construction.exists_declares (source : Source) (options : ReadOptions) (tokens : List Token)
    (state : Construction) :
    ∀ lineage ∈ (tokens.foldl (take source options) state).lineages,
      lineage ∈ state.lineages ∨ ∃ token ∈ tokens, token.Declares source lineage := by
  induction tokens generalizing state with
  | nil => exact fun lineage member => .inl member
  | cons token later inductionHypothesis =>
      intro lineage member
      rcases inductionHypothesis _ lineage member with earlier | ⟨other, inLater, declares⟩
      · rw [lineages_take] at earlier
        rcases List.mem_append.mp earlier with before | here
        · exact .inl before
        · exact .inr ⟨token, List.mem_cons_self, Token.declares_of_lineage? (Option.mem_toList.mp here)⟩
      · exact .inr ⟨other, List.mem_cons_of_mem token inLater, declares⟩

/-- A name as elements and attributes have it, in lower case. -/
structure IsLowered (isName : List Char → Bool) (name : String) : Prop where
  named : isName name.toList = true
  lowered : Text.lower name.toList = name.toList

/-- The lower case of a proper name is one. -/
theorem isLowered_lower {isName : List Char → Bool}
    (kept : ∀ name, isName (Text.lower name) = isName name) {name : List Char}
    (named : isName name = true) : IsLowered isName (String.ofList (Text.lower name)) := by
  refine ⟨?_, ?_⟩
  · rw [String.toList_ofList, kept, named]
  · rw [String.toList_ofList, Text.lower_lower]

/-- The elements of every tree have tag names, and their attributes attribute names. -/
theorem isLowered_of_mem {source : Source} {options : ReadOptions} {tag : String}
    {attributes : List Attribute} {children : List Node} {detached : Bool} {location : Location}
    (member : .element tag attributes children detached location ∈
      preorderAll (Document.ofSource source options).nodes) :
    IsLowered isTagName tag ∧ ∀ read ∈ attributes, IsLowered isAttributeName read.name := by
  obtain ⟨lineage, found, rfl, rfl⟩ := exists_lineageAll [] _ member
  have nodes : lineagesAll [] (Document.ofSource source options).nodes = _ :=
    Construction.lineages_finish source _
  rw [nodes] at found
  rcases Construction.exists_declares source options _ _ lineage found with
    absent | ⟨token, inTokens, declares⟩
  · exact absurd absent List.not_mem_nil
  · have named := isNamed_of_mem_tokens inTokens
    cases token with
    | startTag name written selfClosing stop =>
        obtain ⟨sameTag, sameAttributes⟩ := declares
        rw [sameTag, sameAttributes]
        refine ⟨isLowered_lower isTagName_lower named.1, ?_⟩
        intro read inAttributes
        obtain ⟨part, inWritten, rfl⟩ := List.mem_map.mp inAttributes
        exact isLowered_lower isAttributeName_lower (named.2 part inWritten)
    | _ => exact declares.elim

end HtmlTemplate.Markup
