/-
This file shows what is read from a doctype that was read and written before. The name comes back, and each
identifier up to its first double quote.
-/

import HtmlTemplate.Proofs.Markup.Construction
import HtmlTemplate.Proofs.Markup.Scan
import HtmlTemplate.Proofs.Text.Case

namespace HtmlTemplate.Markup

namespace Doctype

/-- A name as it stands in a declaration. -/
structure IsName (name : List Char) : Prop where
  filled : name ≠ []
  opens : Text.Stops Text.isWhiteSpace name
  noBlank : ∀ c ∈ name, Text.isBlank c = false
  noBracket : '>' ∉ name

/-- What reading a doctype makes sure of. -/
structure IsRead (declared : Doctype) : Prop where
  named : IsName declared.name.toList
  lowered : Text.lower declared.name.toList = declared.name.toList
  identified : ∀ id, id ∈ declared.publicId ∨ id ∈ declared.systemId → '>' ∉ id.toList

/-- The lower case of a name is a name. -/
theorem IsName.lower {name : List Char} (named : IsName name) : IsName (Text.lower name) where
  filled := by simpa [Text.lower] using named.filled
  opens := by
    cases name with
    | nil => exact absurd rfl named.filled
    | cons first more =>
        apply Text.stops_cons
        rw [Text.toLower_of_ascii Text.isWhiteSpace (by decide)]
        exact named.opens first rfl
  noBlank := by
    refine List.forall_mem_map.mpr fun c member => ?_
    rw [Text.toLower_of_ascii Text.isBlank (by decide)]
    exact named.noBlank c member
  noBracket := by
    intro member
    obtain ⟨c, inName, same⟩ := List.mem_map.mp member
    have isBracket : (c == '>') = true := by
      rw [← Text.toLower_of_ascii (· == '>') (by decide) c, same]
      rfl
    obtain rfl := eq_of_beq isBracket
    exact named.noBracket inName

/-- The first word of a declaration is a name. -/
theorem isName_takeWhile {start : List Char} (opens : Text.Stops Text.isWhiteSpace start)
    (noBracket : '>' ∉ start) (filled : start.takeWhile (fun c => !Text.isBlank c) ≠ []) :
    IsName (start.takeWhile fun c => !Text.isBlank c) where
  filled := filled
  opens := by
    intro c isHead
    rw [List.head?_takeWhile] at isHead
    exact opens c (Option.eq_some_of_filter_eq_some isHead)
  noBlank := by
    intro c member
    simpa using List.mem_takeWhile_imp member
  noBracket member := noBracket ((List.takeWhile_sublist _).mem member)

theorem afterKeyword?_sublist {keyword : String} {chars rest : List Char}
    (found : afterKeyword? keyword chars = some rest) : rest.Sublist chars := by
  unfold afterKeyword? at found
  dsimp only at found
  split at found
  · obtain rfl := Option.some.inj found
    exact List.drop_sublist _ _
  · contradiction

theorem trimStart_sublist (chars : List Char) : (Text.trimStart chars).Sublist chars :=
  List.dropWhile_sublist _

/-- A quoted text and what follows are parts of the text read. -/
theorem takeQuoted_sublist (chars : List Char) :
    (∀ id ∈ (takeQuoted chars).1, id.toList.Sublist chars) ∧ (takeQuoted chars).2.Sublist chars := by
  have inside := trimStart_sublist chars
  unfold takeQuoted
  split
  · exact ⟨by simp, List.nil_sublist _⟩
  · rename_i mark rest same
    rw [same] at inside
    have content := (List.sublist_cons_self mark rest).trans inside
    split
    · refine ⟨?_, ?_⟩
      · intro id isQuoted
        obtain rfl := Option.some.inj isQuoted
        rw [String.toList_ofList]
        exact (List.takeWhile_sublist _).trans content
      · exact (List.drop_sublist _ _).trans ((List.dropWhile_sublist _).trans content)
    · exact ⟨by simp, inside⟩

/-- The identifiers stand in the declaration. -/
theorem identifiers_sublist {chars : List Char} {id : String}
    (found : id ∈ (identifiers chars).1 ∨ id ∈ (identifiers chars).2) : id.toList.Sublist chars := by
  unfold identifiers at found
  split at found
  · rename_i rest isPublic
    have inside := afterKeyword?_sublist isPublic
    obtain ⟨first, remaining⟩ := takeQuoted_sublist rest
    obtain ⟨second, _⟩ := takeQuoted_sublist (takeQuoted rest).2
    rcases found with isFirst | isSecond
    · exact (first id isFirst).trans inside
    · exact (second id isSecond).trans (remaining.trans inside)
  · split at found
    · rename_i rest isSystem
      rcases found with absent | isQuoted
      · exact absurd absent (by simp)
      · exact ((takeQuoted_sublist rest).1 id isQuoted).trans (afterKeyword?_sublist isSystem)
    · simp at found

theorem stops_trimStart (chars : List Char) : Text.Stops Text.isWhiteSpace (Text.trimStart chars) :=
  Text.stops_dropWhile Text.isWhiteSpace chars

theorem isName_html : IsName "html".toList where
  filled := by decide
  opens := Text.stops_cons _ (by decide)
  noBlank c member := by
    have noneBlank : ("html".toList.all fun c => !Text.isBlank c) = true := by decide
    simpa using List.all_eq_true.mp noneBlank c member
  noBracket := by decide

/-- Whatever is read from a declaration without a closing angle bracket can be written. -/
theorem isRead_ofDeclaration? {chars : List Char} {declared : Doctype} (noBracket : '>' ∉ chars)
    (found : ofDeclaration? chars = some declared) : declared.IsRead := by
  obtain ⟨rest, keyword, rfl⟩ := Option.map_eq_some_iff.mp found
  have inside : (Text.trimStart rest).Sublist chars :=
    (trimStart_sublist rest).trans (afterKeyword?_sublist keyword)
  have stillNone : '>' ∉ Text.trimStart rest := fun member => noBracket (inside.mem member)
  have name : ∀ name, name = (if ((Text.trimStart rest).takeWhile fun c => !Text.isBlank c).isEmpty then
      "html" else String.ofList (Text.lower ((Text.trimStart rest).takeWhile fun c => !Text.isBlank c))) →
      IsName name.toList ∧ Text.lower name.toList = name.toList := by
    rintro name rfl
    split
    · exact ⟨isName_html, by decide⟩
    · rename_i filled
      rw [String.toList_ofList]
      exact ⟨(isName_takeWhile (stops_trimStart rest) stillNone (by simpa using filled)).lower,
        Text.lower_lower _⟩
  refine ⟨(name _ rfl).1, (name _ rfl).2, ?_⟩
  intro id isId member
  exact stillNone ((List.dropWhile_sublist _).mem
    ((trimStart_sublist _).mem ((identifiers_sublist isId).mem member)))

/-- What stands in an identifier before its first double quote. -/
def beforeMark (id : String) : String := String.ofList (id.toList.takeWhile (· != '"'))

/-- An identifier without a quote is read as a whole. -/
theorem beforeMark_eq_iff (id : String) : beforeMark id = id ↔ '"' ∉ id.toList := by
  rw [beforeMark, ← String.toList_inj, String.toList_ofList, List.takeWhile_eq_self_iff]
  constructor
  · intro kept member
    exact absurd (kept _ member) (by decide)
  · intro absent c member
    rw [bne_iff_ne]
    rintro rfl
    exact absent member

/-- An identifier in double quotes, after a space. -/
def quoted (id : String) : List Char := ' ' :: '"' :: (id.toList ++ ['"'])

/-- The identifiers as they are written. -/
def idChars (declared : Doctype) : List Char :=
  match declared.publicId with
  | some publicId => " PUBLIC".toList ++ (quoted publicId ++ declared.systemId.elim [] quoted)
  | none => declared.systemId.elim [] fun systemId => " SYSTEM".toList ++ quoted systemId

/-- What is written between the marks of a declaration. -/
def inside (declared : Doctype) : List Char :=
  "DOCTYPE ".toList ++ (declared.name.toList ++ declared.idChars)

theorem toList_write (declared : Doctype) :
    declared.write.toList = '<' :: '!' :: (declared.inside ++ ['>']) := by
  rcases declared with ⟨name, publicId, systemId⟩
  unfold write inside idChars
  cases publicId <;> cases systemId <;> dsimp only <;> simp [quoted]

theorem takeWhile_mark (id tail : List Char) :
    (id ++ '"' :: tail).takeWhile (· != '"') = id.takeWhile (· != '"') := by
  induction id with
  | nil => simp
  | cons c rest inductionHypothesis => simp [List.takeWhile_cons, inductionHypothesis]

/-- A quoted identifier is read up to the first mark in it. -/
theorem takeQuoted_quoted (id : String) (tail : List Char) :
    (takeQuoted (quoted id ++ tail)).1 = some (beforeMark id) ∧
      ('"' ∉ id.toList → (takeQuoted (quoted id ++ tail)).2 = tail) := by
  have opened : takeQuoted (quoted id ++ tail) =
      (some (String.ofList ((id.toList ++ '"' :: tail).takeWhile (· != '"'))),
        ((id.toList ++ '"' :: tail).dropWhile (· != '"')).drop 1) := by
    simp [takeQuoted, quoted, Text.trimStart, Text.isWhiteSpace]
  rw [opened, takeWhile_mark]
  refine ⟨rfl, ?_⟩
  intro absent
  have kept : id.toList.all (· != '"') = true := by
    rw [List.all_eq_true]
    intro c member
    rw [bne_iff_ne]
    rintro rfl
    exact absent member
  rw [Text.dropWhile_word kept (Text.stops_cons tail (by decide)), List.drop_one, List.tail_cons]

/-- A public identifier may be followed by a system one. -/
theorem identifiers_public (rest : List Char) :
    identifiers (Text.trimStart (" PUBLIC".toList ++ rest)) =
      ((takeQuoted rest).1, (takeQuoted (takeQuoted rest).2).1) := by
  have keyword : "public".toList = ['p', 'u', 'b', 'l', 'i', 'c'] := by decide
  have written : " PUBLIC".toList = [' ', 'P', 'U', 'B', 'L', 'I', 'C'] := by decide
  have found : afterKeyword? "public" (['P', 'U', 'B', 'L', 'I', 'C'] ++ rest) = some rest := by
    rw [afterKeyword?, keyword]
    rfl
  rw [written]
  show identifiers (['P', 'U', 'B', 'L', 'I', 'C'] ++ rest) = _
  rw [identifiers, found]

/-- A system identifier stands alone. -/
theorem identifiers_system (rest : List Char) :
    identifiers (Text.trimStart (" SYSTEM".toList ++ rest)) = (none, (takeQuoted rest).1) := by
  have keyword : "public".toList = ['p', 'u', 'b', 'l', 'i', 'c'] := by decide
  have system : "system".toList = ['s', 'y', 's', 't', 'e', 'm'] := by decide
  have written : " SYSTEM".toList = [' ', 'S', 'Y', 'S', 'T', 'E', 'M'] := by decide
  have missed : afterKeyword? "public" (['S', 'Y', 'S', 'T', 'E', 'M'] ++ rest) = none := by
    rw [afterKeyword?, keyword]
    rfl
  have found : afterKeyword? "system" (['S', 'Y', 'S', 'T', 'E', 'M'] ++ rest) = some rest := by
    rw [afterKeyword?, system]
    rfl
  rw [written]
  show identifiers (['S', 'Y', 'S', 'T', 'E', 'M'] ++ rest) = _
  rw [identifiers, missed, found]

/-- The doctype that is read from the written one. -/
def reread (declared : Doctype) : Doctype :=
  let ids := identifiers (Text.trimStart declared.idChars)
  ⟨declared.name, ids.1, ids.2⟩

theorem takeQuoted_elim (id : Option String) :
    (takeQuoted (id.elim [] quoted)).1 = id.map beforeMark := by
  cases id with
  | none => rfl
  | some id =>
      have last := (takeQuoted_quoted id []).1
      rwa [List.append_nil] at last

/-- Without a public identifier the system one is read. -/
theorem identifiers_without_public (name : String) (systemId : Option String) :
    identifiers (Text.trimStart (idChars ⟨name, none, systemId⟩)) = (none, systemId.map beforeMark) := by
  cases systemId with
  | none => rfl
  | some systemId =>
      exact (identifiers_system (quoted systemId)).trans
        (congrArg (Prod.mk none) (takeQuoted_elim (some systemId)))

/-- A public identifier is read back up to its quote. -/
theorem publicId_reread (declared : Doctype) :
    declared.reread.publicId = declared.publicId.map beforeMark := by
  rcases declared with ⟨name, publicId, systemId⟩
  cases publicId with
  | some publicId => rw [reread, idChars, identifiers_public, (takeQuoted_quoted publicId _).1, Option.map_some]
  | none => rw [reread, identifiers_without_public, Option.map_none]

/-- A system identifier is found only after a whole public one. -/
theorem systemId_reread (declared : Doctype) (whole : ∀ id ∈ declared.publicId, '"' ∉ id.toList) :
    declared.reread.systemId = declared.systemId.map beforeMark := by
  rcases declared with ⟨name, publicId, systemId⟩
  cases publicId with
  | some publicId =>
      rw [reread, idChars, identifiers_public, (takeQuoted_quoted publicId _).2 (whole publicId rfl),
        takeQuoted_elim]
  | none => rw [reread, identifiers_without_public]

/-- An identifier comes back as it is only without a mark. -/
theorem map_beforeMark_eq_iff (id : Option String) :
    id.map beforeMark = id ↔ ∀ text ∈ id, '"' ∉ text.toList := by
  cases id with
  | none => simp
  | some text => simp [beforeMark_eq_iff]

/-- A doctype is read back unless an identifier has a quote. -/
theorem reread_eq_iff (declared : Doctype) :
    declared.reread = declared ↔
      (∀ id ∈ declared.publicId, '"' ∉ id.toList) ∧ ∀ id ∈ declared.systemId, '"' ∉ id.toList := by
  have same : declared.reread = declared ↔
      declared.reread.publicId = declared.publicId ∧ declared.reread.systemId = declared.systemId := by
    rw [Doctype.mk.injEq]
    exact and_iff_right rfl
  rw [same, publicId_reread, map_beforeMark_eq_iff]
  refine and_congr_right fun whole => ?_
  rw [systemId_reread declared whole, map_beforeMark_eq_iff]

theorem trimStart_space {chars : List Char} (stops : Text.Stops Text.isWhiteSpace chars) :
    Text.trimStart (' ' :: chars) = chars := by
  rw [Text.trimStart, List.dropWhile_cons_of_pos (by decide)]
  exact @Text.dropWhile_word Text.isWhiteSpace [] chars rfl stops

theorem afterKeyword?_doctype (rest : List Char) :
    afterKeyword? "doctype" ("DOCTYPE ".toList ++ rest) = some (' ' :: rest) := by
  have keyword : "doctype".toList = ['d', 'o', 'c', 't', 'y', 'p', 'e'] := by decide
  have opening : "DOCTYPE ".toList = ['D', 'O', 'C', 'T', 'Y', 'P', 'E', ' '] := by decide
  rw [afterKeyword?, keyword, opening]
  rfl

/-- The identifiers follow the name after a blank. -/
theorem stops_idChars (declared : Doctype) : Text.Stops (fun c => !Text.isBlank c) declared.idChars := by
  have publicWord : " PUBLIC".toList = [' ', 'P', 'U', 'B', 'L', 'I', 'C'] := by decide
  have systemWord : " SYSTEM".toList = [' ', 'S', 'Y', 'S', 'T', 'E', 'M'] := by decide
  rcases declared with ⟨name, publicId, systemId⟩
  cases publicId with
  | some publicId =>
      rw [idChars, publicWord]
      exact Text.stops_cons _ (by decide)
  | none =>
      cases systemId with
      | some systemId =>
          rw [idChars, Option.elim_some, systemWord]
          exact Text.stops_cons _ (by decide)
      | none => simp [Text.Stops, idChars]

/-- A doctype that was read is written as one of the same name. -/
theorem ofDeclaration?_inside {declared : Doctype} (isRead : declared.IsRead) :
    ofDeclaration? declared.inside = some declared.reread := by
  have named := isRead.named
  have kept : declared.name.toList.all (fun c => !Text.isBlank c) = true := by
    rw [List.all_eq_true]
    intro c member
    rw [named.noBlank c member]
    rfl
  have stops := stops_idChars declared
  have start : Text.trimStart (' ' :: (declared.name.toList ++ declared.idChars)) =
      declared.name.toList ++ declared.idChars :=
    trimStart_space (named.opens.append named.filled _)
  have filled : declared.name.toList.isEmpty = false := by simpa using named.filled
  have name : (if declared.name.toList.isEmpty then "html" else
      String.ofList (Text.lower declared.name.toList)) = declared.name := by
    rw [filled, if_neg Bool.false_ne_true, isRead.lowered, String.ofList_toList]
  unfold ofDeclaration? inside
  rw [afterKeyword?_doctype, Option.map_some]
  dsimp only
  rw [start, Text.takeWhile_word kept stops, Text.dropWhile_word kept stops, name]
  rfl

theorem noBracket_quoted {id : String} (absent : '>' ∉ id.toList) : '>' ∉ quoted id := by
  simp [quoted, absent]

/-- The identifiers hold no closing angle bracket. -/
theorem noBracket_idChars {declared : Doctype} (isRead : declared.IsRead) : '>' ∉ declared.idChars := by
  have publicWord : '>' ∉ " PUBLIC".toList := by decide
  have systemWord : '>' ∉ " SYSTEM".toList := by decide
  have first : ∀ id ∈ declared.publicId, '>' ∉ quoted id := fun id isId =>
    noBracket_quoted (isRead.identified id (.inl isId))
  have second : ∀ id ∈ declared.systemId, '>' ∉ quoted id := fun id isId =>
    noBracket_quoted (isRead.identified id (.inr isId))
  rcases declared with ⟨name, publicId, systemId⟩
  cases publicId with
  | some publicId =>
      have rest : '>' ∉ systemId.elim [] quoted := by
        cases systemId with
        | none => exact List.not_mem_nil
        | some systemId => exact second systemId rfl
      rw [idChars, List.mem_append, List.mem_append]
      exact not_or.mpr ⟨publicWord, not_or.mpr ⟨first publicId rfl, rest⟩⟩
  | none =>
      cases systemId with
      | none => exact List.not_mem_nil
      | some systemId =>
          exact fun member => (List.mem_append.mp member).elim systemWord (second systemId rfl)

/-- No closing angle bracket stands inside of the declaration. -/
theorem noBracket_inside {declared : Doctype} (isRead : declared.IsRead) : '>' ∉ declared.inside := by
  have word : '>' ∉ "DOCTYPE ".toList := by decide
  intro member
  rcases List.mem_append.mp member with inWord | inRest
  · exact word inWord
  · rcases List.mem_append.mp inRest with inName | inIds
    · exact isRead.named.noBracket inName
    · exact noBracket_idChars isRead inIds

end Doctype

/-- A written doctype is read as one doctype. -/
theorem Construction.run_written (source : Source) (options : ReadOptions) (state : Construction)
    (offset : Nat) {declared : Doctype} (isRead : declared.IsRead) (tail : List Char) :
    ∃ location later, run source options state ⟨offset, declared.write.toList ++ tail⟩ =
      run source options (state.add (.doctype declared.reread location)) ⟨later, tail⟩ := by
  have kept : declared.inside.all (· != '>') = true := by
    rw [List.all_eq_true]
    intro c member
    rw [bne_iff_ne]
    rintro rfl
    exact Doctype.noBracket_inside isRead member
  have opens : ∀ c ∈ declared.inside.head?, c ≠ '-' ∧ c ≠ '[' := by
    have start : declared.inside.head? = some 'D' := rfl
    intro c isHead
    rw [start, Option.mem_some_iff] at isHead
    rw [← isHead]
    decide
  have written : declared.write.toList ++ tail = '<' :: '!' :: (declared.inside ++ '>' :: tail) := by
    rw [Doctype.toList_write]
    simp only [List.cons_append, List.append_assoc, List.nil_append]
  have read := readToken_declaration offset declared.inside tail opens kept
  rw [written, run_token source options state (List.cons_ne_nil _ _) read rfl, take, addDeclaration,
    Doctype.ofDeclaration?_inside isRead]
  exact ⟨_, _, rfl⟩

end HtmlTemplate.Markup
