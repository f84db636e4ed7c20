/-
This file shows that the written form of a canonical forest is read back as the forest: one tree for
each node, in order, without any diagnostic.
-/

import HtmlTemplate.Compile.Basic
import HtmlTemplate.Proofs.Canonical.Forest
import HtmlTemplate.Proofs.Markup.Declarations

namespace HtmlTemplate.Canonical

open Markup Markup.Construction

/-- An attribute without its location. -/
def withoutLocation (read : Markup.Attribute) : Template.Attribute := ⟨read.name, read.value⟩

mutual

/-- Whether a tree says what a node says, whatever its locations are. -/
def Reads : Node → Markup.Node → Prop
  | .doctype name, .doctype doctype _ => doctype = ⟨name, none, none⟩
  | .text content, .text read _ => read = content
  | .element tag attributes children, .element readTag readAttributes readChildren _ _ =>
      readTag = tag ∧ readAttributes.map withoutLocation = attributes ∧
        ReadsAll children readChildren
  | _, _ => False

def ReadsAll : List Node → List Markup.Node → Prop
  | [], [] => True
  | node :: rest, read :: others => Reads node read ∧ ReadsAll rest others
  | _, _ => False

end

/-- An element reads back if its attributes and its children do. -/
theorem reads_element {attributes : List Template.Attribute} {children : List Node}
    {readAttributes : List Markup.Attribute} {readChildren : List Markup.Node} (tag : String)
    (detached : Bool) (location : Location)
    (sameAttributes : readAttributes.map withoutLocation = attributes)
    (reads : ReadsAll children readChildren) :
    Reads (.element tag attributes children)
      (.element tag readAttributes readChildren detached location) :=
  ⟨rfl, sameAttributes, reads⟩

/-- Only a text that was read last can be continued. -/
theorem endsWithText_add {node : Node} {read : Markup.Node} (reads : Reads node read)
    (state : Construction) : endsWithText (state.add read) = node.isText := by
  rw [endsWithText, Construction.add, siblings_withSiblings]
  cases node <;> cases read <;> simp_all [Reads, Node.isText]

/-- A plain text is read back as a single node. -/
theorem run_text (source : Source) (state : Construction) (offset : Nat) (content : String)
    (tail : List Char) (plain : isPlainText content = true) (stops : Text.Stops (· != '<') tail)
    (apart : endsWithText state = false) :
    ∃ location later, run source readOptions state ⟨offset, content.toList ++ tail⟩ =
      run source readOptions (state.add (.text content location)) ⟨later, tail⟩ := by
  simp only [isPlainText, Bool.and_eq_true, Bool.not_eq_true'] at plain
  have filled := toList_ne_nil_of_not_blank plain.1.1
  have read := readToken_text offset content.toList tail filled plain.1.2 stops
  have more : content.toList ++ tail ≠ [] := by simp [filled]
  rw [run_token source readOptions state more read rfl, Construction.take,
    addText_apart source _ state apart, Lexeme.text, String.ofList_toList]
  exact ⟨_, _, rfl⟩

theorem isWhiteSpace_of_isBlank {c : Char} (blank : Text.isBlank c = true) :
    Text.isWhiteSpace c = true := by
  simp only [Text.isBlank, Bool.or_eq_true, beq_iff_eq] at blank
  rcases blank with (((rfl | rfl) | rfl) | rfl) | rfl <;> decide

/-- A doctype with a name and nothing else can be read. -/
theorem isRead_name {name : String} (named : isDoctypeName name = true) :
    Doctype.IsRead ⟨name, none, none⟩ := by
  simp only [isDoctypeName, Bool.and_eq_true, Bool.not_eq_true', String.isEmpty_eq_false_iff,
    List.all_eq_true, Bool.or_eq_false_iff, beq_eq_false_iff_ne] at named
  obtain ⟨filled, each⟩ := named
  have noBlank : ∀ c ∈ name.toList, Text.isBlank c = false := by
    intro c member
    rw [Bool.eq_false_iff]
    intro blank
    exact absurd (isWhiteSpace_of_isBlank blank) (by simp [(each c member).1.1])
  refine ⟨⟨by simpa using filled, ?_, noBlank, ?_⟩, ?_, by simp⟩
  · exact fun c isHead => (each c (List.mem_of_mem_head? isHead)).1.1
  · exact fun member => (each '>' member).1.2 rfl
  · exact Text.lower_eq_self fun c member => (each c member).2

/-- A doctype without identifiers is written in its canonical form. -/
theorem write_doctype (name : String) :
    Doctype.write ⟨name, none, none⟩ = String.ofList (doctypeChars name) := by
  apply String.toList_injective
  simp [Doctype.write, doctypeChars]

/-- A canonical doctype is read back as one node. -/
theorem run_doctype (source : Source) (state : Construction) (offset : Nat) (name : String)
    (tail : List Char) (named : isDoctypeName name = true) :
    ∃ location later, run source readOptions state ⟨offset, doctypeChars name ++ tail⟩ =
      run source readOptions (state.add (.doctype ⟨name, none, none⟩ location)) ⟨later, tail⟩ := by
  have written : (Doctype.write ⟨name, none, none⟩).toList = doctypeChars name := by
    rw [write_doctype, String.toList_ofList]
  have same : Doctype.reread ⟨name, none, none⟩ = ⟨name, none, none⟩ :=
    (Doctype.reread_eq_iff _).mpr (by simp)
  have taken := run_written source readOptions state offset (isRead_name named) tail
  rwa [written, same] at taken

/-- An attribute as it is written. -/
def writtenAttribute (written : AttributeToken) : Template.Attribute :=
  ⟨written.name.text, written.value.text⟩

theorem isAttributeNameChar_of_isNameChar {c : Char} (inName : isNameChar c = true) :
    isAttributeNameChar c = true := by
  simp only [isNameChar, Bool.not_eq_true', Bool.or_eq_false_iff] at inName
  simp only [isAttributeNameChar, endsTagName, inName, Bool.or_self, Bool.not_false]

/-- The attributes of a canonical element are read as they are written. -/
theorem readAttributes_canonical (attributes : List Template.Attribute) (tail : List Char)
    (canonical : attributes.all isAttribute = true) (offset : Nat) :
    ∃ written stop later, readAttributes ⟨offset, attributes.flatMap attributeChars ++ '>' :: tail⟩ =
        (written, .ended false stop ⟨later, tail⟩) ∧
      written.map writtenAttribute = attributes := by
  induction attributes generalizing offset with
  | nil => exact ⟨[], _, _, readAttributes_ended (nextAttribute_end offset tail), rfl⟩
  | cons first rest inductionHypothesis =>
      rw [List.all_cons, Bool.and_eq_true] at canonical
      obtain ⟨here, later⟩ := canonical
      simp only [isAttribute, Bool.and_eq_true, Bool.not_eq_true', String.isEmpty_eq_false_iff]
        at here
      have filled : first.name.toList ≠ [] := by simpa using here.1.1
      have keptName : first.name.toList.all isAttributeNameChar = true := by
        rw [List.all_eq_true]
        intro c member
        exact isAttributeNameChar_of_isNameChar (List.all_eq_true.mp here.1.2 c member)
      have keptValue : first.value.toList.all (· != '"') = true := by
        rw [List.all_eq_true]
        intro c member
        have plain := List.all_eq_true.mp here.2 c member
        simp_all [Escape.isPlainChar]
      have found := nextAttribute_quoted offset first.name.toList first.value.toList
        (rest.flatMap attributeChars ++ '>' :: tail) filled keptName keptValue
      obtain ⟨written, stop, after, read, same⟩ := inductionHypothesis later
        (offset + 1 + Text.byteLength first.name.toList + 2 +
          Text.byteLength first.value.toList + 1)
      simp only [List.flatMap_cons, attributeChars, List.cons_append, List.append_assoc,
        List.nil_append]
      rw [readAttributes_found found, read]
      refine ⟨_, _, _, rfl, ?_⟩
      rw [List.map_cons, same, writtenAttribute, Lexeme.text, Lexeme.text, String.ofList_toList,
        String.ofList_toList]

/-- A canonical attribute is read back as it was written. -/
theorem attributeOf_canonical (source : Source) {written : AttributeToken}
    (canonical : isAttribute (writtenAttribute written) = true) :
    withoutLocation (Construction.attributeOf source written) = writtenAttribute written := by
  simp only [isAttribute, writtenAttribute, Lexeme.text, String.toList_ofList, Bool.and_eq_true]
    at canonical
  have isLower : Text.lower written.name.chars = written.name.chars := by
    apply Text.lower_eq_self
    intro c member
    have inName := List.all_eq_true.mp canonical.1.2 c member
    simp_all [isNameChar]
  have noReference : '&' ∉ written.value.chars := by
    intro member
    exact absurd (List.all_eq_true.mp canonical.2 '&' member) (by decide)
  rw [withoutLocation, Construction.attributeOf, isLower, Reference.decode_of_notMem _ noReference]
  rfl

/-- Canonical attributes are read back in their order. -/
theorem attributesOf_canonical (source : Source) {written : List AttributeToken}
    (canonical : (written.map writtenAttribute).all isAttribute = true) :
    (written.map (Construction.attributeOf source)).map withoutLocation =
      written.map writtenAttribute := by
  rw [List.map_map]
  apply List.map_congr_left
  intro token member
  rw [Function.comp_apply]
  apply attributeOf_canonical
  exact List.all_eq_true.mp canonical _ (List.mem_map_of_mem member)

/-- A canonical start tag is read with its name and its attributes. -/
theorem readToken_canonicalTag (tag : String) (attributes : List Template.Attribute)
    (content : List Char) (named : isTagName tag = true)
    (canonical : attributes.all isAttribute = true) (offset : Nat) :
    ∃ written stop later,
      readToken ⟨offset, '<' :: (tag.toList ++
          (attributes.flatMap attributeChars ++ '>' :: content))⟩ =
        (.startTag ⟨offset + 1, tag.toList⟩ written false stop, ⟨later, content⟩) ∧
      written.map writtenAttribute = attributes := by
  obtain ⟨first, more, same, lower, inTag⟩ := isTagName_cons named
  have kept : (first :: more).all (fun c => !endsTagName c) = true := by
    rw [List.all_eq_true]
    intro c member
    simp [not_endsTagName_of_isTagChar (List.all_eq_true.mp inTag c member)]
  have stops : Text.Stops (fun c => !endsTagName c)
      (attributes.flatMap attributeChars ++ '>' :: content) := by
    cases attributes with
    | nil => exact Text.stops_cons _ rfl
    | cons _ _ => exact Text.stops_cons _ rfl
  have opens : first.isAlpha = true := by
    show (first.isUpper || first.isLower) = true
    rw [lower, Bool.or_true]
  obtain ⟨written, stop, later, read, attributesSame⟩ :=
    readAttributes_canonical attributes content canonical
      (offset + 1 + Text.byteLength (first :: more))
  refine ⟨written, stop, later, ?_, attributesSame⟩
  rw [same, List.cons_append]
  exact readToken_startTag offset first more _ opens kept stops (by simp) read

/-- A canonical start tag ends none of its ancestors. -/
theorem closeImplied_canonical (source : Source) (tag : String) (start : Nat)
    (state : Construction) (apart : state.openTags.any (ends tag) = false) :
    state.closeImplied source tag start = state := by
  apply closeImplied_apart
  intro rule found ancestor member
  rw [List.any_eq_false] at apart
  simpa [ends, found] using apart ancestor member

/-- A start tag adds a void element, and opens any other. -/
theorem startTag_canonical (source : Source) (state : Construction) {tag : String}
    (offset stop : Nat) (written : List AttributeToken) (named : isTagName tag = true)
    (apart : (openTags state).any (ends tag) = false) :
    state.startTag source readOptions ⟨offset, tag.toList⟩ written false stop =
      if Tag.isVoid tag then
        state.add (.element tag (written.map (Construction.attributeOf source)) [] false
          (source.location (offset - 1) (stop + 1)))
      else
        inside ⟨offset - 1, tag, written.map (Construction.attributeOf source),
          source.location (offset - 1) (stop + 1), []⟩ state := by
  simp only [Construction.startTag, lower_tagName named, String.ofList_toList,
    closeImplied_canonical source tag _ state apart]
  rfl

/-- The rest of an element whose content is read. -/
theorem run_endTag (source : Source) (state : Construction) (element : OpenElement)
    (offset : Nat) (tail : List Char) (named : isTagName element.tag = true)
    (content : Tag.isVoid element.tag = false) :
    ∃ location later,
      run source readOptions (inside element state) ⟨offset, endTagChars element.tag ++ tail⟩ =
        run source readOptions (state.add (element.node location)) ⟨later, tail⟩ := by
  obtain ⟨first, more, same, _, inTag⟩ := isTagName_cons named
  have filled : element.tag.toList ≠ [] := by simp [same]
  have kept : element.tag.toList.all isEndTagNameChar = true := by
    rw [same, List.all_eq_true]
    intro c member
    have outside := not_endsTagName_of_isTagChar (List.all_eq_true.mp inTag c member)
    simp only [endsTagName, Bool.or_eq_false_iff] at outside
    simp [isEndTagNameChar, outside]
  obtain ⟨location, closed⟩ := endTag_inside source readOptions state element (offset + 2) content
  have read := readToken_endTag offset element.tag.toList tail filled kept
  rw [endTagChars_append content, run_token source readOptions _ (List.cons_ne_nil _ _) read rfl,
    Construction.take, closed]
  exact ⟨_, _, rfl⟩

/-- An element whose content is read is complete after its end tag. -/
theorem run_close (source : Source) (state : Construction) (element : OpenElement) (offset : Nat)
    (tail : List Char) (named : isTagName element.tag = true)
    (content : Tag.isVoid element.tag = false) {children : List Node} {read : List Markup.Node}
    (reads : ReadsAll children read) (newestFirst : element.children = read.reverse) :
    ∃ node later,
      Reads (.element element.tag (element.attributes.map withoutLocation) children) node ∧
      run source readOptions (inside element state) ⟨offset, endTagChars element.tag ++ tail⟩ =
        run source readOptions (state.add node) ⟨later, tail⟩ := by
  obtain ⟨location, later, closed⟩ := run_endTag source state element offset tail named content
  refine ⟨_, later, ?_, closed⟩
  rw [OpenElement.node, newestFirst, List.reverse_reverse]
  exact reads_element element.tag _ location rfl reads

/-- A void element is read back as one node. -/
theorem run_void (source : Source) (state : Construction) (tag : String)
    (attributes : List Template.Attribute) (offset : Nat) (tail : List Char)
    (named : isTagName tag = true) (canonical : attributes.all isAttribute = true)
    (apart : (openTags state).any (ends tag) = false) (void : Tag.isVoid tag = true) :
    ∃ read later, Reads (.element tag attributes []) read ∧
      run source readOptions state
          ⟨offset, '<' :: (tag.toList ++ (attributes.flatMap attributeChars ++ '>' :: tail))⟩ =
        run source readOptions (state.add read) ⟨later, tail⟩ := by
  obtain ⟨written, stop, later, read, rfl⟩ :=
    readToken_canonicalTag tag attributes tail named canonical offset
  have notRaw : rawTextTags.contains tag = false := by
    rw [Bool.eq_false_iff]
    intro raw
    rw [isVoid_of_rawText raw] at void
    contradiction
  have noRawText : rawTextTag? tag.toList = none := by
    rw [rawTextTag?_tagName named, notRaw]
    rfl
  rw [run_token source readOptions state (List.cons_ne_nil _ _) read noRawText, Construction.take,
    startTag_canonical source state _ stop written named apart, if_pos void]
  have noChildren : ReadsAll [] [] := trivial
  exact ⟨_, later,
    reads_element tag false _ (attributesOf_canonical source canonical) noChildren, rfl⟩

/-- The start tag of an element that is not void opens it. -/
theorem take_canonicalTag (source : Source) (state : Construction) (tag : String)
    (attributes : List Template.Attribute) (offset : Nat) (content : List Char)
    (named : isTagName tag = true) (canonical : attributes.all isAttribute = true)
    (apart : (openTags state).any (ends tag) = false) (notVoid : Tag.isVoid tag = false) :
    ∃ token element later,
      readToken ⟨offset, '<' :: (tag.toList ++
          (attributes.flatMap attributeChars ++ '>' :: content))⟩ = (token, ⟨later, content⟩) ∧
      token.rawText? = rawTextTag? tag.toList ∧
      state.take source readOptions token = inside element state ∧ element.tag = tag ∧
      element.attributes.map withoutLocation = attributes ∧ element.children = [] := by
  obtain ⟨written, stop, later, read, rfl⟩ :=
    readToken_canonicalTag tag attributes content named canonical offset
  have opened := startTag_canonical source state (offset + 1) stop written named apart
  rw [notVoid, if_neg Bool.false_ne_true] at opened
  exact ⟨_, _, later, read, rfl, opened, rfl, attributesOf_canonical source canonical, rfl⟩

/-- The content of a raw text element is read together with its start tag. -/
theorem takeRawText_canonical (source : Source) (state : Construction) (element : OpenElement)
    (children : List Node) (offset : Nat) (tail : List Char) {token : Token}
    (isRaw : token.rawText? = some element.tag) (notVoid : Tag.isVoid element.tag = false)
    (fresh : element.children = []) (content : isRawContent children = true) :
    ∃ segments read later,
      readRawText token ⟨offset, allChars children ++ (endTagChars element.tag ++ tail)⟩ =
        (segments, ⟨later, endTagChars element.tag ++ tail⟩) ∧
      ReadsAll children read ∧
      (segments.map (·.token)).foldl (Construction.take source readOptions) (inside element state) =
        inside { element with children := read.reverse } state := by
  rw [endTagChars_append notVoid]
  unfold isRawContent at content
  split at content
  · refine ⟨[], [], offset, readRawText_endTag isRaw offset [] tail rfl, trivial, ?_⟩
    rw [List.reverse_nil, ← fresh]
    rfl
  · rename_i text
    simp only [isRawText, Bool.and_eq_true, Bool.not_eq_true'] at content
    have filled : text.toList.isEmpty = false := by
      simpa using toList_ne_nil_of_not_blank content.1.1
    have read := readRawText_endTag isRaw offset text.toList tail content.1.2
    rw [filled, if_neg Bool.false_ne_true] at read
    have apart : endsWithText (inside element state) = false := by simp [endsWithText, fresh]
    have added := addText_apart source ⟨offset, text.toList⟩ (inside element state) apart
    rw [Construction.add, inside_siblings, inside_withSiblings, fresh, Lexeme.text,
      String.ofList_toList] at added
    have written : allChars [.text text] = text.toList := by
      rw [allChars, allChars, Node.chars, List.append_nil]
    rw [written]
    exact ⟨_, [.text text _], _, read, ⟨rfl, trivial⟩, added⟩
  · contradiction

/-- A raw text element is read back with its only text. -/
theorem run_raw (source : Source) (state : Construction) (tag : String)
    (attributes : List Template.Attribute) (children : List Node) (offset : Nat)
    (tail : List Char) (named : isTagName tag = true)
    (canonical : attributes.all isAttribute = true)
    (apart : (openTags state).any (ends tag) = false)
    (raw : rawTextTags.contains tag = true) (content : isRawContent children = true) :
    ∃ read later, Reads (.element tag attributes children) read ∧
      run source readOptions state ⟨offset, (Node.element tag attributes children).chars ++ tail⟩ =
        run source readOptions (state.add read) ⟨later, tail⟩ := by
  have notVoid := isVoid_of_rawText raw
  obtain ⟨token, element, after, read, isRaw, taken, rfl, rfl, fresh⟩ :=
    take_canonicalTag source state tag attributes offset
      (allChars children ++ (endTagChars tag ++ tail)) named canonical apart notVoid
  rw [rawTextTag?_tagName named, if_pos raw] at isRaw
  obtain ⟨segments, readChildren, ended, readRaw, reads, filled⟩ :=
    takeRawText_canonical source state element children after tail isRaw notVoid fresh content
  obtain ⟨node, later, same, closed⟩ :=
    run_close source state { element with children := readChildren.reverse } ended tail named
      notVoid reads rfl
  refine ⟨node, later, same, ?_⟩
  rw [element_chars_append, run_step source readOptions state (List.cons_ne_nil _ _) read readRaw,
    taken, filled]
  exact closed

/-- After a text, markup or the end of the siblings follows. -/
theorem stops_allChars {ancestors : List String} {nodes : List Node} {tail : List Char}
    (canonical : areCanonical ancestors true nodes = true) (stops : Text.Stops (· != '<') tail) :
    Text.Stops (· != '<') (allChars nodes ++ tail) := by
  cases nodes with
  | nil => simpa [allChars] using stops
  | cons node rest =>
      simp only [areCanonical, Bool.true_and, Bool.and_eq_true, Bool.not_eq_true'] at canonical
      rw [allChars]
      cases node with
      | doctype name =>
          rw [Node.chars, doctypeChars]
          exact Text.stops_cons _ rfl
      | text content => exact absurd canonical.1.1 (by simp [Node.isText])
      | element tag attributes children =>
          rw [Node.chars]
          exact Text.stops_cons _ rfl

mutual

/-- A canonical node is read as one child of the innermost open element. -/
theorem run_node (source : Source) :
    ∀ (node : Node) (state : Construction) (offset : Nat) (tail : List Char),
      isCanonical (openTags state) node = true →
      (node.isText = true → endsWithText state = false ∧ Text.Stops (· != '<') tail) →
      ∃ read later, Reads node read ∧
        run source readOptions state ⟨offset, node.chars ++ tail⟩ =
          run source readOptions (state.add read) ⟨later, tail⟩
  | .doctype name, state, offset, tail, canonical, _ => by
      simp only [isCanonical] at canonical
      obtain ⟨location, later, same⟩ := run_doctype source state offset name tail canonical
      rw [Node.chars]
      exact ⟨.doctype ⟨name, none, none⟩ location, later, rfl, same⟩
  | .text content, state, offset, tail, canonical, apart => by
      simp only [isCanonical] at canonical
      obtain ⟨before, after⟩ := apart rfl
      obtain ⟨location, later, same⟩ :=
        run_text source state offset content tail canonical after before
      rw [Node.chars]
      exact ⟨.text content location, later, rfl, same⟩
  | .element tag attributes children, state, offset, tail, canonical, _ => by
      simp only [isCanonical, Bool.and_eq_true, Bool.not_eq_true'] at canonical
      obtain ⟨⟨⟨⟨named, _⟩, canonicalAttributes⟩, apart⟩, content⟩ := canonical
      split at content
      · rename_i void
        rw [List.isEmpty_iff] at content
        rw [content, element_chars_append, allChars, endTagChars, if_pos void]
        exact run_void source state tag attributes offset tail named canonicalAttributes apart void
      · split at content
        · rename_i raw
          exact run_raw source state tag attributes children offset tail named canonicalAttributes
            apart raw content
        · rename_i notVoid notRaw
          rw [Bool.not_eq_true] at notVoid notRaw
          obtain ⟨token, element, after, read, isRaw, taken, rfl, rfl, fresh⟩ :=
            take_canonicalTag source state tag attributes offset
              (allChars children ++ (endTagChars tag ++ tail)) named canonicalAttributes apart
              notVoid
          rw [rawTextTag?_tagName named, notRaw, if_neg Bool.false_ne_true] at isRaw
          have first : endsWithText (inside element state) = false := by simp [endsWithText, fresh]
          have stops : Text.Stops (· != '<') (endTagChars element.tag ++ tail) := by
            rw [endTagChars_append notVoid]
            exact Text.stops_cons _ rfl
          obtain ⟨readChildren, ended, reads, filled⟩ :=
            run_nodes source children (inside element state) after
              (endTagChars element.tag ++ tail) (by rw [openTags_inside, first]; exact content)
              stops
          rw [inside_siblings, fresh, List.append_nil, inside_withSiblings] at filled
          obtain ⟨node, later, same, closed⟩ :=
            run_close source state { element with children := readChildren.reverse } ended tail
              named notVoid reads rfl
          refine ⟨node, later, same, ?_⟩
          rw [element_chars_append,
            run_token source readOptions state (List.cons_ne_nil _ _) read isRaw, taken, filled]
          exact closed

/-- Canonical siblings are read back one after another. -/
theorem run_nodes (source : Source) :
    ∀ (nodes : List Node) (state : Construction) (offset : Nat) (tail : List Char),
      areCanonical (openTags state) (endsWithText state) nodes = true →
      Text.Stops (· != '<') tail →
      ∃ read later, ReadsAll nodes read ∧
        run source readOptions state ⟨offset, allChars nodes ++ tail⟩ =
          run source readOptions (state.withSiblings (read.reverse ++ state.siblings)) ⟨later, tail⟩
  | [], state, offset, tail, _, _ => by
      refine ⟨[], offset, trivial, ?_⟩
      rw [allChars, List.reverse_nil, List.nil_append, List.nil_append, withSiblings_siblings]
  | node :: rest, state, offset, tail, canonical, stops => by
      simp only [areCanonical, Bool.and_eq_true, Bool.not_eq_true', Bool.and_eq_false_iff]
        at canonical
      obtain ⟨⟨apart, here⟩, others⟩ := canonical
      have follows : node.isText = true →
          endsWithText state = false ∧ Text.Stops (· != '<') (allChars rest ++ tail) := by
        intro isText
        rw [isText] at others apart
        exact ⟨by simpa using apart, stops_allChars others stops⟩
      obtain ⟨read, after, reads, taken⟩ :=
        run_node source node state offset (allChars rest ++ tail) here follows
      have tags : openTags (state.add read) = openTags state := openTags_withSiblings state _
      obtain ⟨more, later, readsMore, takenMore⟩ :=
        run_nodes source rest (state.add read) after tail
          (by rw [tags, endsWithText_add reads]; exact others) stops
      refine ⟨read :: more, later, ⟨reads, readsMore⟩, ?_⟩
      rw [allChars, List.append_assoc, taken, takenMore, Construction.add, siblings_withSiblings,
        withSiblings_withSiblings, List.reverse_cons, List.append_assoc, List.singleton_append]

end

/-- The written form of a canonical forest is read back without a diagnostic. -/
theorem readMarkup_serialize (forest : List Node) (canonical : isCanonicalForest forest = true) :
    ∃ read, ReadsAll forest read ∧ readMarkup (serialize forest) = ⟨read, []⟩ := by
  obtain ⟨read, later, reads, taken⟩ :=
    run_nodes (Source.ofString (serialize forest)) forest {} 0 [] canonical (by simp [Text.Stops])
  rw [List.append_nil, run_finished] at taken
  have state : (tokens (Source.ofString (serialize forest)).chars).foldl
      (Construction.take (Source.ofString (serialize forest)) readOptions) {} =
        { roots := read.reverse ++ [] } := by
    have chars : (Source.ofString (serialize forest)).chars = allChars forest :=
      String.toList_ofList
    rw [chars]
    exact taken
  refine ⟨read, reads, ?_⟩
  rw [readMarkup, Document.read, Document.ofSource, state]
  simp [Construction.finish, Construction.repeated]

end HtmlTemplate.Canonical
