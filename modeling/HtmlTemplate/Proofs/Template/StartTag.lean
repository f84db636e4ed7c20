/-
This file reads the start tags back that are written for the elements of a tree. Names are written as they
are, so that all depends on which names a tree can have, and on what escaping leaves of a value.
-/

import HtmlTemplate.Compile.Basic
import HtmlTemplate.Proofs.Escape.Encoding
import HtmlTemplate.Proofs.Markup.Construction
import HtmlTemplate.Proofs.Markup.Names
import HtmlTemplate.Proofs.Markup.Outline
import HtmlTemplate.Proofs.Markup.Scan
import HtmlTemplate.Proofs.Template.WellFormed

namespace HtmlTemplate.Template

open Markup

/-- The characters of an attribute with the blank before it. -/
def Attribute.chars (written : Attribute) : List Char :=
  ' ' :: (written.name.toList ++
    '=' :: '"' :: (Escape.escapeAttributeChars written.value.toList ++ ['"']))

/-- The bytes of a written attribute are those of its parts. -/
theorem byteLength_chars (written : Attribute) :
    Text.byteLength written.chars = 1 + Text.byteLength written.name.toList + 2 +
      Text.byteLength (Escape.escapeAttributeChars written.value.toList) + 1 := by
  have blank : ' '.utf8Size = 1 := rfl
  have equals : '='.utf8Size = 1 := rfl
  have quote : '"'.utf8Size = 1 := rfl
  simp only [Attribute.chars, Text.byteLength_cons, Text.byteLength_append, Text.byteLength_nil, blank,
    equals, quote]
  omega

theorem toList_write (written : Attribute) : written.write.toList = written.chars := by
  simp [Attribute.write, Attribute.chars, Escape.escapeAttribute]

/-- A start tag is its name and its attributes in angle brackets. -/
theorem toList_openTag (tag : String) (attributes : List Attribute) :
    (openTag tag attributes).toList =
      '<' :: (tag.toList ++ (attributes.flatMap Attribute.chars ++ ['>'])) := by
  have joined : (String.join (attributes.map Attribute.write)).toList =
      attributes.flatMap Attribute.chars := by
    induction attributes with
    | nil => rfl
    | cons first rest inductionHypothesis =>
        rw [List.map_cons, String.join_cons, String.toList_append, toList_write,
          inductionHypothesis, List.flatMap_cons]
  simp [openTag, joined]

/-- The token of an attribute that is written from the given offset on. -/
def Attribute.token (offset : Nat) (written : Attribute) : AttributeToken :=
  let name := written.name.toList
  let value := Escape.escapeAttributeChars written.value.toList
  let start := offset + 1 + Text.byteLength name + 2
  ⟨⟨offset + 1, name⟩, ⟨start, value⟩, .double, start + Text.byteLength value⟩

def attributeTokens : Nat → List Attribute → List AttributeToken
  | _, [] => []
  | offset, written :: rest =>
      written.token offset :: attributeTokens (offset + Text.byteLength written.chars) rest

/-- An escaped value does not end before its closing quote. -/
theorem all_escapeAttributeChars (value : List Char) :
    (Escape.escapeAttributeChars value).all (· != '"') = true := by
  have absent : '"' ∉ Escape.escapeChars value := Escape.notMem_encodeChars (by decide) _
  rw [Escape.escapeAttributeChars_eq, List.all_eq_true]
  intro c member
  rw [bne_iff_ne]
  rintro rfl
  exact absent member

/-- A written attribute is read as one. -/
theorem nextAttribute_chars {written : Attribute}
    (named : isAttributeName written.name.toList = true) (offset : Nat) (tail : List Char) :
    nextAttribute ⟨offset, written.chars ++ tail⟩ =
      .found (written.token offset) ⟨offset + Text.byteLength written.chars, tail⟩ := by
  cases name : written.name.toList with
  | nil =>
      rw [name] at named
      contradiction
  | cons first more =>
      rw [name, isAttributeName, Bool.and_eq_true, Bool.not_eq_true'] at named
      have found := nextAttribute_named offset first more _ tail named.1 named.2
        (all_escapeAttributeChars written.value.toList)
      rw [Attribute.token, byteLength_chars, name, ← Nat.add_assoc, ← Nat.add_assoc,
        ← Nat.add_assoc, ← Nat.add_assoc, ← found]
      simp [Attribute.chars, name]

/-- The attributes of a written start tag are read one after the other. -/
theorem readAttributes_chars (attributes : List Attribute)
    (named : ∀ written ∈ attributes, isAttributeName written.name.toList = true) (offset : Nat) :
    let stop := offset + Text.byteLength (attributes.flatMap Attribute.chars)
    readAttributes ⟨offset, attributes.flatMap Attribute.chars ++ ['>']⟩ =
      (attributeTokens offset attributes, .ended false stop ⟨stop + 1, []⟩) := by
  induction attributes generalizing offset with
  | nil => exact readAttributes_ended (nextAttribute_end offset [])
  | cons written rest inductionHypothesis =>
      obtain ⟨here, others⟩ := List.forall_mem_cons.mp named
      have found := nextAttribute_chars here offset (rest.flatMap Attribute.chars ++ ['>'])
      intro stop
      rw [List.flatMap_cons, List.append_assoc, readAttributes_found found,
        inductionHypothesis others, attributeTokens]
      simp only [stop, List.flatMap_cons, Text.byteLength_append, Nat.add_assoc]

/-- Nothing is left to read after the last start tag. -/
theorem readRawText_finished (token : Token) (offset : Nat) :
    readRawText token ⟨offset, []⟩ = ([], ⟨offset, []⟩) := by
  unfold readRawText
  split <;> rfl

/-- A start tag that is written for a tree is a single token. -/
theorem tokens_openTag {tag : String} {attributes : List Attribute}
    (named : isTagName tag.toList = true)
    (attributesNamed : ∀ written ∈ attributes, isAttributeName written.name.toList = true) :
    let start := 1 + Text.byteLength tag.toList
    tokens (openTag tag attributes).toList =
      [.startTag ⟨1, tag.toList⟩ (attributeTokens start attributes) false
        (start + Text.byteLength (attributes.flatMap Attribute.chars))] := by
  intro start
  have read := readAttributes_chars attributes attributesNamed start
  have stops : Text.Stops (fun c => !endsTagName c) (attributes.flatMap Attribute.chars ++ ['>']) := by
    cases attributes with
    | nil => exact Text.stops_cons _ rfl
    | cons _ _ => exact Text.stops_cons _ rfl
  cases name : tag.toList with
  | nil =>
      rw [name] at named
      contradiction
  | cons first more =>
      rw [name, isTagName, Bool.and_eq_true] at named
      obtain ⟨opens, kept⟩ := named
      have whole : (first :: more).all (fun c => !endsTagName c) = true := by
        rw [List.all_cons, not_endsTagName_of_isAlpha opens, kept]
        rfl
      simp only [start, name] at read ⊢
      have token := readToken_startTag 0 first more _ opens whole stops (by simp) read
      rw [tokens, segments, toList_openTag, name, List.cons_append, segmentsFrom,
        dif_neg (List.cons_ne_nil _ _)]
      simp only [token, readRawText_finished, segmentsFrom_nil]
      rfl

/-- The events of the attributes of a written start tag. -/
def attributeEvents : Nat → List Attribute → List Event
  | _, [] => []
  | offset, written :: rest =>
      let name := written.name.toList
      let value := (Escape.escapeAttribute written.value).toList
      let start := offset + 1 + Text.byteLength name + 2
      .attributeName ⟨offset + 1, name⟩ ::
        (if value.isEmpty then [] else [.value ⟨start, value⟩]) ++
        .attributeEnd .double (start + Text.byteLength value) ::
        attributeEvents (offset + Text.byteLength written.write.toList) rest

/-- The events of a written start tag. -/
def startTagEvents (tag : String) (attributes : List Attribute) : List Event :=
  .startTag ⟨1, tag.toList⟩ :: attributeEvents (1 + Text.byteLength tag.toList) attributes ++
    [.startTagEnd (Text.byteLength (openTag tag attributes).toList - 1), .finish]

/-- The tokens of written attributes report their events. -/
theorem flatMap_attributeTokens (attributes : List Attribute) (offset : Nat) :
    (attributeTokens offset attributes).flatMap AttributeToken.events =
      attributeEvents offset attributes := by
  induction attributes generalizing offset with
  | nil => rfl
  | cons written rest inductionHypothesis =>
      rw [attributeTokens, List.flatMap_cons, inductionHypothesis, attributeEvents, toList_write,
        AttributeToken.events, Attribute.token, Escape.escapeAttribute, String.toList_ofList]
      simp

/-- The tree of a single start tag is one element without content. -/
theorem nodes_startTag {source : Source} (options : ReadOptions) {name : Lexeme}
    {written : List AttributeToken} {stop : Nat}
    (single : tokens source.chars = [.startTag name written false stop]) :
    ∃ detached location, (Document.ofSource source options).nodes =
      [.element (String.ofList (Text.lower name.chars)) (written.map (Construction.attributeOf source))
        [] detached location] := by
  have apart : Construction.closeImplied source (String.ofList (Text.lower name.chars))
      (name.start - 1) {} = {} :=
    Construction.closeImplied_apart source _ _ {} fun _ _ _ absent => absurd absent List.not_mem_nil
  rw [Document.ofSource, single]
  simp only [List.foldl_cons, List.foldl_nil, Construction.take, Construction.startTag, apart]
  split
  · contradiction
  · split
    · exact ⟨_, _, rfl⟩
    · simp only [Construction.finish, List.length_singleton, Construction.repeated,
        Construction.closeUnterminated]
      split <;> exact ⟨_, _, rfl⟩

/-- A written attribute is read back composed and decoded. -/
theorem attributeOf_token (source : Source) (offset : Nat) {written : Attribute}
    (lowered : Text.lower written.name.toList = written.name.toList) :
    (Construction.attributeOf source (written.token offset)).name = written.name ∧
      (Construction.attributeOf source (written.token offset)).value =
        Escape.literal written.value := by
  have decoded : Reference.decode (Escape.escapeAttributeChars written.value.toList) =
      Escape.literalChars written.value.toList := by
    rw [Escape.escapeAttributeChars_eq, Escape.escapeChars_eq, Reference.decode_encodeChars]
  simp only [Construction.attributeOf, Attribute.token, lowered, decoded, String.ofList_toList,
    Escape.literal, and_self]

/-- Written attributes are read back composed and decoded. -/
theorem map_attributeOf_tokens (source : Source) {attributes : List Attribute}
    (lowered : ∀ written ∈ attributes, Text.lower written.name.toList = written.name.toList)
    (offset : Nat) :
    ((attributeTokens offset attributes).map (Construction.attributeOf source)).map
        (fun read => (read.name, read.value)) =
      attributes.map fun written => (written.name, Escape.literal written.value) := by
  induction attributes generalizing offset with
  | nil => rfl
  | cons written rest inductionHypothesis =>
      obtain ⟨here, others⟩ := List.forall_mem_cons.mp lowered
      obtain ⟨name, value⟩ := attributeOf_token source offset here
      rw [attributeTokens, List.map_cons, List.map_cons, List.map_cons, inductionHypothesis others,
        name, value]

section

variable {source : Source} {options : ReadOptions} {tag : String} {attributes : List Markup.Attribute}
  {children : List Markup.Node} {detached : Bool} {location : Location}
  (member : .element tag attributes children detached location ∈
    Markup.preorderAll (Document.ofSource source options).nodes)
include member

/-- The names of a tree are in lower case. -/
theorem isLowered_written :
    IsLowered isTagName tag ∧
      ∀ part ∈ attributes.map fun read => (⟨read.name, read.value⟩ : Attribute),
        IsLowered isAttributeName part.name := by
  obtain ⟨tagNamed, attributesNamed⟩ := isLowered_of_mem member
  exact ⟨tagNamed, List.forall_mem_map.mpr attributesNamed⟩

/-- A written start tag reports its names and its escaped values. -/
theorem events_openTag :
    let written : List Attribute := attributes.map fun part => ⟨part.name, part.value⟩
    events (openTag tag written).toList = startTagEvents tag written := by
  intro written
  obtain ⟨tagNamed, named⟩ := isLowered_written member
  have last : Text.byteLength (openTag tag written).toList - 1 =
      1 + Text.byteLength tag.toList + Text.byteLength (written.flatMap Attribute.chars) := by
    have opening : '<'.utf8Size = 1 := rfl
    have closing : '>'.utf8Size = 1 := rfl
    simp only [toList_openTag, Text.byteLength_cons, Text.byteLength_append, Text.byteLength_nil,
      opening, closing]
    omega
  have single := @tokens_openTag tag written tagNamed.named fun part inWritten =>
    (named part inWritten).named
  rw [events, single, startTagEvents, last]
  simp [Token.events, flatMap_attributeTokens]

/-- A written start tag is read back, with its values composed and decoded. -/
theorem read_openTag (reading : ReadOptions) :
    let written : List Attribute := attributes.map fun part => ⟨part.name, part.value⟩
    ∃ read apart place,
      (Document.read (openTag tag written) reading).nodes = [.element tag read [] apart place] ∧
      (read.map fun part => (part.name, part.value)) =
        (attributes.map fun part => (part.name, Escape.literal part.value)) ∧
      ((read.map fun part => (part.name, part.value)) =
          (attributes.map fun part => (part.name, part.value)) ↔
        ∀ part ∈ attributes, Escape.literal part.value = part.value) := by
  intro written
  obtain ⟨tagNamed, named⟩ := isLowered_written member
  have single := tokens_openTag tagNamed.named fun part inWritten => (named part inWritten).named
  obtain ⟨apart, place, nodes⟩ :=
    @nodes_startTag (Source.ofString (openTag tag written)) reading _ _ _ single
  rw [tagNamed.lowered, String.ofList_toList] at nodes
  have pairs := map_attributeOf_tokens (Source.ofString (openTag tag written))
    (fun part inWritten => (named part inWritten).lowered) (1 + Text.byteLength tag.toList)
  have same : (written.map fun part => (part.name, Escape.literal part.value)) =
      attributes.map fun part => (part.name, Escape.literal part.value) :=
    List.map_map
  rw [same] at pairs
  refine ⟨_, apart, place, nodes, pairs, ?_⟩
  rw [pairs, List.map_inj_left]
  simp only [Prod.mk.injEq, true_and]

end

/-- An element in the outline of a forest is one of its nodes. -/
theorem exists_element_of_outline {nodes : List Markup.Node} {tag : String}
    {pairs : List (String × String)} (member : .element tag pairs ∈ outlineAll nodes) :
    ∃ attributes children detached location,
      .element tag attributes children detached location ∈ Markup.preorderAll nodes ∧
        (attributes.map fun part => (part.name, part.value)) = pairs := by
  obtain ⟨node, inNodes, same⟩ := List.mem_map.mp member
  cases node with
  | element found attributes children detached location =>
      obtain ⟨rfl, rfl⟩ := Outline.element.inj same
      exact ⟨attributes, children, detached, location, inNodes, rfl⟩
  | _ => contradiction

/-- Quotes, brackets and a leading equals sign may stand in names. -/
theorem events_openTag_markedNames :
    ∃ attributes children detached location,
      .element "a'b" attributes children detached location ∈
        Markup.preorderAll (Document.read "<A'B =X='\"&lt;' \"<y=\"\">").nodes ∧
      (attributes.map fun part => (part.name, part.value)) = [("=x", "\"<"), ("\"<y", "")] ∧
      events (openTag "a'b" (attributes.map fun part => ⟨part.name, part.value⟩)).toList =
        startTagEvents "a'b" (attributes.map fun part => ⟨part.name, part.value⟩) := by
  obtain ⟨attributes, children, detached, location, member, pairs⟩ :=
    @exists_element_of_outline (Document.read "<A'B =X='\"&lt;' \"<y=\"\">").nodes "a'b"
      [("=x", "\"<"), ("\"<y", "")] (by decide +kernel)
  exact ⟨attributes, children, detached, location, member, pairs, events_openTag member⟩

/-- A value that still spells a reference is decoded once more. -/
theorem read_openTag_spelledReference :
    ∃ attributes children detached location,
      .element "img" attributes children detached location ∈
        Markup.preorderAll (Document.read "<Img =Alt='&amp;amp;' title=\"a&quot;b\">").nodes ∧
      (attributes.map fun part => (part.name, part.value)) = [("=alt", "&amp;"), ("title", "a\"b")] ∧
      ∃ read apart place,
        (Document.read (openTag "img" (attributes.map fun part => ⟨part.name, part.value⟩))
          readOptions).nodes = [.element "img" read [] apart place] ∧
        (read.map fun part => (part.name, part.value)) = [("=alt", "&"), ("title", "a\"b")] := by
  obtain ⟨attributes, children, detached, location, member, pairs⟩ :=
    @exists_element_of_outline (Document.read "<Img =Alt='&amp;amp;' title=\"a&quot;b\">").nodes "img"
      [("=alt", "&amp;"), ("title", "a\"b")] (by decide +kernel)
  obtain ⟨read, apart, place, nodes, values, _⟩ := read_openTag member readOptions
  refine ⟨attributes, children, detached, location, member, pairs, read, apart, place, nodes, ?_⟩
  have decoded : attributes.map (fun part => (part.name, Escape.literal part.value)) =
      (attributes.map fun part => (part.name, part.value)).map
        fun pair => (pair.1, Escape.literal pair.2) := by
    rw [List.map_map]
    rfl
  rw [values, decoded, pairs]
  decide +kernel

/-- The start tag that is written for a source is read with another value. -/
theorem openTag_decodes_value :
    let source := "<p title=\"&amp;amp;lt;\"></p>"
    (compile {} "page" source).isOk = true ∧
      ((parseTemplate {} source).toOption.map fun template =>
        template.preorder.map Node.nodeType) = some [.root, .element] ∧
      outlineAll (readMarkup source).nodes = [.element "p" [("title", "&amp;lt;")]] ∧
      openTag "p" [⟨"title", "&amp;lt;"⟩] = "<p title=\"&amp;lt;\">" ∧
      outlineAll (readMarkup (openTag "p" [⟨"title", "&amp;lt;"⟩])).nodes =
        [.element "p" [("title", "&lt;")]] := by
  decide +kernel

end HtmlTemplate.Template
