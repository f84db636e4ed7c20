/-
This file shows what the tokenizer reads from constructs that are written in full: texts, declarations,
start tags with quoted attributes, end tags and raw texts.
-/

import HtmlTemplate.Markup.Token.Scan
import HtmlTemplate.Proofs.Text.Words

namespace HtmlTemplate.Markup

namespace Cursor

@[simp] theorem next_cons (offset : Nat) (c : Char) (rest : List Char) :
    next ⟨offset, c :: rest⟩ = ⟨offset + c.utf8Size, rest⟩ := rfl

/-- A word is read up to where it stops. -/
theorem read_word {keep : Char → Bool} {word tail : List Char} (offset : Nat)
    (kept : word.all keep = true) (stops : Text.Stops keep tail) :
    read ⟨offset, word ++ tail⟩ keep = ⟨offset, word⟩ := by
  rw [read, Text.takeWhile_word kept stops]

/-- A word is skipped up to where it stops. -/
theorem skip_word {keep : Char → Bool} {word tail : List Char} (offset : Nat)
    (kept : word.all keep = true) (stops : Text.Stops keep tail) :
    skip ⟨offset, word ++ tail⟩ keep = ⟨offset + Text.byteLength word, tail⟩ := by
  rw [skip, Text.takeWhile_word kept stops, Text.dropWhile_word kept stops, past]

/-- Nothing is skipped where nothing is kept. -/
theorem skip_stops {keep : Char → Bool} {tail : List Char} (offset : Nat)
    (stops : Text.Stops keep tail) : skip ⟨offset, tail⟩ keep = ⟨offset, tail⟩ :=
  @skip_word keep [] tail offset rfl stops

/-- The first character of a name may be any character. -/
theorem readName_cons {keep : Char → Bool} {more tail : List Char} (offset : Nat) (first : Char)
    (kept : more.all keep = true) (stops : Text.Stops keep tail) :
    readName ⟨offset, first :: (more ++ tail)⟩ keep = ⟨offset, first :: more⟩ := by
  simp only [readName, Text.takeWhile_word kept stops]

theorem skipName_cons {keep : Char → Bool} {more tail : List Char} (offset : Nat) (first : Char)
    (kept : more.all keep = true) (stops : Text.Stops keep tail) :
    skipName ⟨offset, first :: (more ++ tail)⟩ keep =
      ⟨offset + Text.byteLength (first :: more), tail⟩ := by
  rw [skipName, next_cons, skip_word _ kept stops, Text.byteLength_cons, Nat.add_assoc]

theorem readName_word {keep : Char → Bool} {word tail : List Char} (offset : Nat)
    (filled : word ≠ []) (kept : word.all keep = true) (stops : Text.Stops keep tail) :
    readName ⟨offset, word ++ tail⟩ keep = ⟨offset, word⟩ := by
  cases word with
  | nil => contradiction
  | cons first more =>
      rw [List.all_cons, Bool.and_eq_true] at kept
      exact readName_cons offset first kept.2 stops

theorem skipName_word {keep : Char → Bool} {word tail : List Char} (offset : Nat)
    (filled : word ≠ []) (kept : word.all keep = true) (stops : Text.Stops keep tail) :
    skipName ⟨offset, word ++ tail⟩ keep = ⟨offset + Text.byteLength word, tail⟩ := by
  cases word with
  | nil => contradiction
  | cons first more =>
      rw [List.all_cons, Bool.and_eq_true] at kept
      exact skipName_cons offset first kept.2 stops

end Cursor

/-- What stands before an angle bracket is read. -/
theorem readBracketed_word (token : Lexeme → Token) (cutOff : Unfinished) (offset : Nat)
    (word tail : List Char) (kept : word.all (· != '>') = true) :
    readBracketed token cutOff ⟨offset, word ++ '>' :: tail⟩ =
      (token ⟨offset, word⟩, ⟨offset + Text.byteLength word + 1, tail⟩) := by
  have stops : Text.Stops (· != '>') ('>' :: tail) := Text.stops_cons tail rfl
  simp only [readBracketed, Cursor.skip_word offset kept stops, Cursor.read_word offset kept stops]
  rfl

/-- A text ends where an angle bracket or the end of the source follows. -/
theorem readToken_text (offset : Nat) (word tail : List Char) (filled : word ≠ [])
    (kept : word.all (· != '<') = true) (stops : Text.Stops (· != '<') tail) :
    readToken ⟨offset, word ++ tail⟩ =
      (.text ⟨offset, word⟩, ⟨offset + Text.byteLength word, tail⟩) := by
  have isText : readToken ⟨offset, word ++ tail⟩ = readText ⟨offset, word ++ tail⟩ := by
    cases word with
    | nil => contradiction
    | cons first more =>
        have plain : first ≠ '<' := by
          intro same
          simp [same] at kept
        unfold readToken
        split <;> simp_all
  rw [isText, readText, Cursor.readName_word offset filled kept stops,
    Cursor.skipName_word offset filled kept stops]

/-- A declaration is read up to its angle bracket. -/
theorem readToken_declaration (offset : Nat) (word tail : List Char)
    (opens : ∀ c ∈ word.head?, c ≠ '-' ∧ c ≠ '[') (kept : word.all (· != '>') = true) :
    readToken ⟨offset, '<' :: '!' :: (word ++ '>' :: tail)⟩ =
      (.declaration ⟨offset + 2, word⟩, ⟨offset + 2 + Text.byteLength word + 1, tail⟩) := by
  have isDeclaration : readToken ⟨offset, '<' :: '!' :: (word ++ '>' :: tail)⟩ =
      readBracketed .declaration .declaration ⟨offset + 2, word ++ '>' :: tail⟩ := by
    show readDeclaration ⟨offset + 2, word ++ '>' :: tail⟩ = _
    unfold readDeclaration
    split <;> cases word <;> simp_all
  rw [isDeclaration, readBracketed_word _ _ _ _ _ kept]

/-- The name of an end tag ends at a blank or an angle bracket. -/
theorem readToken_endTagName (offset : Nat) (name tail : List Char) (filled : name ≠ [])
    (kept : name.all isEndTagNameChar = true) (stops : Text.Stops isEndTagNameChar tail) :
    readToken ⟨offset, '<' :: '/' :: (name ++ tail)⟩ =
      readAfterEndTagName ⟨offset + 2, name⟩ ⟨offset + 2 + Text.byteLength name, tail⟩ := by
  have readName := Cursor.readName_word (offset + 2) filled kept stops
  have skipName := Cursor.skipName_word (offset + 2) filled kept stops
  show readEndTag ⟨offset + 2, name ++ tail⟩ = _
  cases name with
  | nil => contradiction
  | cons first more =>
      have here : isEndTagNameChar first = true := by
        rw [List.all_cons, Bool.and_eq_true] at kept
        exact kept.1
      simp only [isEndTagNameChar, Bool.not_eq_true', Bool.or_eq_false_iff, beq_eq_false_iff_ne]
        at here
      have noBlank : Cursor.skip ⟨offset + 2, first :: more ++ tail⟩ Text.isBlank =
          ⟨offset + 2, first :: more ++ tail⟩ :=
        Cursor.skip_stops _ (Text.stops_cons _ here.2)
      rw [readEndTag]
      simp only [noBlank, readName, skipName]
      rw [List.cons_append]
      split
      · contradiction
      · simp_all
      · rfl

/-- An end tag is read as it is written. -/
theorem readToken_endTag (offset : Nat) (name tail : List Char) (filled : name ≠ [])
    (kept : name.all isEndTagNameChar = true) :
    readToken ⟨offset, '<' :: '/' :: (name ++ '>' :: tail)⟩ =
      (.endTag ⟨offset + 2, name⟩, ⟨offset + 2 + Text.byteLength name + 1, tail⟩) := by
  rw [readToken_endTagName offset name _ filled kept (Text.stops_cons tail rfl)]
  exact readBracketed_word (fun _ => .endTag ⟨offset + 2, name⟩) (.endTag ⟨offset + 2, name⟩) _ []
    tail rfl

/-- A quoted value is read as it is written. -/
theorem readQuoted_word (name : Lexeme) (offset : Nat) (value tail : List Char)
    (kept : value.all (· != '"') = true) :
    readQuoted name '"' .double ⟨offset, '"' :: (value ++ '"' :: tail)⟩ =
      .found ⟨name, ⟨offset + 1, value⟩, .double, offset + 1 + Text.byteLength value⟩
        ⟨offset + 1 + Text.byteLength value + 1, tail⟩ := by
  have stops : Text.Stops (· != '"') ('"' :: tail) := Text.stops_cons tail rfl
  have quote : '"'.utf8Size = 1 := rfl
  simp only [readQuoted, Cursor.next_cons, quote, Cursor.skip_word (offset + 1) kept stops,
    Cursor.read_word (offset + 1) kept stops]

theorem readAfterName_quoted (name : Lexeme) (offset : Nat) (value tail : List Char)
    (kept : value.all (· != '"') = true) :
    readAfterName name ⟨offset, '=' :: '"' :: (value ++ '"' :: tail)⟩ =
      .found ⟨name, ⟨offset + 2, value⟩, .double, offset + 2 + Text.byteLength value⟩
        ⟨offset + 2 + Text.byteLength value + 1, tail⟩ := by
  have equals : Cursor.skip ⟨offset, '=' :: '"' :: (value ++ '"' :: tail)⟩ Text.isBlank =
      ⟨offset, '=' :: '"' :: (value ++ '"' :: tail)⟩ :=
    Cursor.skip_stops _ (Text.stops_cons _ rfl)
  have opening : Cursor.skip ⟨offset + 1, '"' :: (value ++ '"' :: tail)⟩ Text.isBlank =
      ⟨offset + 1, '"' :: (value ++ '"' :: tail)⟩ :=
    Cursor.skip_stops _ (Text.stops_cons _ rfl)
  have mark : '='.utf8Size = 1 := rfl
  simp only [readAfterName, equals, Cursor.next_cons, mark, readValue, opening,
    readQuoted_word name (offset + 1) value tail kept]

/-- An attribute with a quoted value is read as it is written. -/
theorem nextAttribute_named (offset : Nat) (first : Char) (more value tail : List Char)
    (opens : endsTagName first = false) (keptName : more.all isAttributeNameChar = true)
    (keptValue : value.all (· != '"') = true) :
    nextAttribute ⟨offset, ' ' :: (first :: more ++ '=' :: '"' :: (value ++ '"' :: tail))⟩ =
      .found
        ⟨⟨offset + 1, first :: more⟩,
          ⟨offset + 1 + Text.byteLength (first :: more) + 2, value⟩, .double,
          offset + 1 + Text.byteLength (first :: more) + 2 + Text.byteLength value⟩
        ⟨offset + 1 + Text.byteLength (first :: more) + 2 + Text.byteLength value + 1, tail⟩ := by
  have stops : Text.Stops isAttributeNameChar ('=' :: '"' :: (value ++ '"' :: tail)) := Text.stops_cons _ rfl
  have readName := Cursor.readName_cons (offset + 1) first keptName stops
  have skipName := Cursor.skipName_cons (offset + 1) first keptName stops
  simp only [endsTagName, Bool.or_eq_false_iff, beq_eq_false_iff_ne] at opens
  obtain ⟨⟨noSlash, noEnd⟩, noBlank⟩ := opens
  have noGap : isGap first = false := by simp [isGap, noSlash, noBlank]
  have gap : Cursor.skip
      ⟨offset, ' ' :: (first :: more ++ '=' :: '"' :: (value ++ '"' :: tail))⟩ isGap =
        ⟨offset + 1, first :: (more ++ '=' :: '"' :: (value ++ '"' :: tail))⟩ :=
    @Cursor.skip_word isGap [' '] _ offset rfl (Text.stops_cons _ noGap)
  rw [nextAttribute]
  simp only [gap, readName, skipName]
  exact readAfterName_quoted _ _ _ _ keptValue

theorem nextAttribute_quoted (offset : Nat) (name value tail : List Char) (filled : name ≠ [])
    (keptName : name.all isAttributeNameChar = true) (keptValue : value.all (· != '"') = true) :
    nextAttribute ⟨offset, ' ' :: (name ++ '=' :: '"' :: (value ++ '"' :: tail))⟩ =
      .found
        ⟨⟨offset + 1, name⟩, ⟨offset + 1 + Text.byteLength name + 2, value⟩, .double,
          offset + 1 + Text.byteLength name + 2 + Text.byteLength value⟩
        ⟨offset + 1 + Text.byteLength name + 2 + Text.byteLength value + 1, tail⟩ := by
  cases name with
  | nil => contradiction
  | cons first more =>
      rw [List.all_cons, Bool.and_eq_true] at keptName
      have opens : endsTagName first = false := by
        have here := keptName.1
        simp only [isAttributeNameChar, Bool.not_eq_true', Bool.or_eq_false_iff] at here
        exact here.2
      exact nextAttribute_named offset first more value tail opens keptName.2 keptValue

theorem nextAttribute_end (offset : Nat) (tail : List Char) :
    nextAttribute ⟨offset, '>' :: tail⟩ = .ended false offset ⟨offset + 1, tail⟩ := by
  have stops : Text.Stops isGap ('>' :: tail) := Text.stops_cons tail rfl
  have gap := Cursor.skip_stops offset stops
  have nothing := @Cursor.read_word isGap [] ('>' :: tail) offset rfl stops
  rw [List.nil_append] at nothing
  simp only [nextAttribute, gap, nothing]
  rfl

/-- An attribute is read before the others. -/
theorem readAttributes_found {cursor after : Cursor} {written : AttributeToken}
    (found : nextAttribute cursor = .found written after) :
    readAttributes cursor = (written :: (readAttributes after).1, (readAttributes after).2) := by
  rw [readAttributes]
  split <;> simp_all

theorem readAttributes_ended {cursor after : Cursor} {selfClosing : Bool} {stop : Nat}
    (ended : nextAttribute cursor = .ended selfClosing stop after) :
    readAttributes cursor = ([], .ended selfClosing stop after) := by
  rw [readAttributes]
  split <;> simp_all

/-- A start tag is its name with what is read inside it. -/
theorem readToken_startTag (offset : Nat) (first : Char) (more inside : List Char)
    (opens : first.isAlpha = true) (kept : (first :: more).all (fun c => !endsTagName c) = true)
    (stops : Text.Stops (fun c => !endsTagName c) inside) {written : List AttributeToken}
    {selfClosing : Bool} {stop : Nat} {after : Cursor} (filled : inside ≠ [])
    (read : readAttributes ⟨offset + 1 + Text.byteLength (first :: more), inside⟩ =
      (written, .ended selfClosing stop after)) :
    readToken ⟨offset, '<' :: first :: (more ++ inside)⟩ =
      (.startTag ⟨offset + 1, first :: more⟩ written selfClosing stop, after) := by
  have readName := Cursor.readName_word (offset + 1) (List.cons_ne_nil first more) kept stops
  have skipName := Cursor.skipName_word (offset + 1) (List.cons_ne_nil first more) kept stops
  rw [List.cons_append] at readName skipName
  have isTag : readToken ⟨offset, '<' :: first :: (more ++ inside)⟩ =
      readStartTag ⟨offset + 1, first :: (more ++ inside)⟩ := by
    unfold readToken
    split <;> simp_all
    rfl
  rw [isTag, readStartTag]
  simp only [readName, skipName, read]
  cases inside with
  | nil => contradiction
  | cons c tail => rfl

/-- Whether the first character stands somewhere directly before the second one. -/
def hasPair (first second : Char) : List Char → Bool
  | [] => false
  | c :: rest => (c == first && rest.head? == some second) || hasPair first second rest

theorem startsRawTextEnd_endTag (tag tail : List Char) :
    startsRawTextEnd tag ('<' :: '/' :: (tag ++ '>' :: tail)) = true := by
  simp [startsRawTextEnd, Text.agree, endsTagName]

/-- No end tag starts inside a text without the opening mark of end tags. -/
theorem startsRawTextEnd_inside (tag : List Char) (c : Char) (rest tail : List Char)
    (absent : hasPair '<' '/' (c :: rest) = false) :
    startsRawTextEnd tag (c :: (rest ++ '<' :: tail)) = false := by
  unfold startsRawTextEnd
  split
  · rename_i after same
    obtain ⟨rfl, follows⟩ := List.cons.inj same
    cases rest with
    | nil => simp at follows
    | cons next more =>
        obtain ⟨rfl, _⟩ := List.cons.inj follows
        simp [hasPair] at absent
  · rfl

/-- A raw text goes up to its end tag. -/
theorem takeUntil_rawText (tag content tail : List Char)
    (absent : hasPair '<' '/' content = false)
    (ends : startsRawTextEnd tag ('<' :: tail) = true) :
    Text.takeUntil (startsRawTextEnd tag) (content ++ '<' :: tail) = content ∧
      Text.dropUntil (startsRawTextEnd tag) (content ++ '<' :: tail) = '<' :: tail := by
  induction content with
  | nil => simp [Text.takeUntil, Text.dropUntil, ends]
  | cons c rest inductionHypothesis =>
      have inside := startsRawTextEnd_inside tag c rest tail absent
      simp only [hasPair, Bool.or_eq_false_iff] at absent
      obtain ⟨taken, dropped⟩ := inductionHypothesis absent.2
      simp [Text.takeUntil, Text.dropUntil, inside, taken, dropped]

/-- The content of a raw text element is one text, unless it is empty. -/
theorem readRawText_endTag {token : Token} {tag : String} (isRaw : token.rawText? = some tag)
    (offset : Nat) (content tail : List Char) (absent : hasPair '<' '/' content = false) :
    readRawText token ⟨offset, content ++ '<' :: '/' :: (tag.toList ++ '>' :: tail)⟩ =
      (if content.isEmpty then [] else [⟨⟨offset, content⟩, .text ⟨offset, content⟩⟩],
        ⟨offset + Text.byteLength content, '<' :: '/' :: (tag.toList ++ '>' :: tail)⟩) := by
  have found := takeUntil_rawText tag.toList content ('/' :: (tag.toList ++ '>' :: tail)) absent
    (startsRawTextEnd_endTag tag.toList tail)
  simp only [readRawText, isRaw, Cursor.readUntil, Cursor.skipUntil, Cursor.past, found.1, found.2]

theorem segmentsFrom_nil (offset : Nat) : segmentsFrom ⟨offset, []⟩ = [] := by
  rw [segmentsFrom, dif_pos rfl]

/-- A token that no raw text follows is the first segment. -/
theorem segmentsFrom_token {cursor after : Cursor} {token : Token} (more : cursor.rest ≠ [])
    (read : readToken cursor = (token, after)) (plain : token.rawText? = none) :
    segmentsFrom cursor = ⟨cursor.covered after, token⟩ :: segmentsFrom after := by
  rw [segmentsFrom, dif_neg more]
  simp only [read, readRawText, plain]
  rfl

/-- A source without an angle bracket is one text. -/
theorem tokens_text {word : List Char} (filled : word ≠ []) (kept : word.all (· != '<') = true) :
    tokens word = [.text ⟨0, word⟩] := by
  have read := readToken_text 0 word [] filled kept (fun _ absent => by simp at absent)
  rw [List.append_nil] at read
  rw [tokens, segments, segmentsFrom_token filled read rfl, segmentsFrom_nil]
  rfl

/-- An angle bracket before a blank starts a text of its own. -/
theorem tokens_partedText {word : List Char} (filled : word ≠ [])
    (kept : word.all (· != '<') = true) :
    tokens (word ++ ['<', ' ', 'b']) =
      [.text ⟨0, word⟩, .text ⟨Text.byteLength word, ['<', ' ', 'b']⟩] := by
  have read := readToken_text 0 word ['<', ' ', 'b'] filled kept (Text.stops_cons _ rfl)
  rw [Nat.zero_add] at read
  have next (offset : Nat) : readToken ⟨offset, ['<', ' ', 'b']⟩ =
      (.text ⟨offset, ['<', ' ', 'b']⟩, ⟨offset + 3, []⟩) := rfl
  rw [tokens, segments, segmentsFrom_token (by simp) read rfl,
    segmentsFrom_token (List.cons_ne_nil _ _) (next _) rfl, segmentsFrom_nil]
  rfl

end HtmlTemplate.Markup
