/-
This file shows that the doctypes of a tree survive being written and read again. Only an identifier with a
double quote in it does not come back.
-/

import HtmlTemplate.Proofs.Markup.Declarations
import HtmlTemplate.Proofs.Markup.Names

namespace HtmlTemplate.Markup

/-- A declaration ends at its first closing angle bracket. -/
def Token.IsBracketed : Token → Prop
  | .declaration content => '>' ∉ content.chars
  | _ => True

/-- What is read up to a bracket holds none. -/
theorem isBracketed_readBracketed (token : Lexeme → Token) (cutOff : Unfinished) (cursor : Cursor)
    (closed : ∀ content, '>' ∉ content.chars → (token content).IsBracketed) :
    (readBracketed token cutOff cursor).1.IsBracketed := by
  unfold readBracketed
  dsimp only
  split
  · trivial
  · apply closed
    intro member
    exact absurd (List.mem_takeWhile_imp member) (by decide)

/-- Every token is read up to its bracket. -/
theorem isBracketed_readToken (cursor : Cursor) : (readToken cursor).1.IsBracketed := by
  unfold readToken
  split
  · unfold readDeclaration readComment
    dsimp only
    split
    · split <;> trivial
    · exact isBracketed_readBracketed _ _ _ fun _ _ => trivial
    · exact isBracketed_readBracketed _ _ _ fun _ _ => trivial
    · exact isBracketed_readBracketed _ _ _ fun _ absent => absent
  · exact isBracketed_readBracketed _ _ _ fun _ _ => trivial
  · unfold readEndTag readAfterEndTagName
    dsimp only
    split
    · trivial
    · trivial
    · split
      · trivial
      · exact isBracketed_readBracketed _ _ _ fun _ _ => trivial
  · split
    · unfold readStartTag
      dsimp only
      split
      · trivial
      · split <;> trivial
    · trivial
  · trivial

/-- Only a declaration makes a doctype. -/
theorem Token.exists_declaration {token : Token} {options : ReadOptions} {declared : Doctype}
    (member : .doctype declared ∈ token.outlines options) :
    ∃ content, token = .declaration content ∧ Doctype.ofDeclaration? content.chars = some declared := by
  cases token with
  | declaration content =>
      refine ⟨content, rfl, ?_⟩
      rw [outlines] at member
      split at member
      · rename_i found same
        obtain rfl := Outline.doctype.inj (List.mem_singleton.mp member)
        exact same
      · split at member <;> simp at member
  | comment content =>
      rw [outlines] at member
      split at member <;> simp at member
  | _ => simp [outlines] at member

namespace Construction

/-- A text makes no doctype. -/
theorem doctype_mem_addText {source : Source} {content : Lexeme} {state : Construction}
    {declared : Doctype} (member : .doctype declared ∈ (state.addText source content).outline) :
    .doctype declared ∈ state.outline := by
  have added (location : Location) (text : String) (older : List Node)
      (inside : .doctype declared ∈ (state.withSiblings (.text text location :: older)).outline) :
      .doctype declared ∈ (state.withSiblings older).outline := by
    rw [outline_withSiblings_cons] at inside
    rcases List.mem_append.mp inside with before | here
    · exact before
    · exact absurd here (by simp [outlineAll, preorderAll, Node.preorder, Node.outline])
  unfold addText at member
  split at member
  · rename_i before location older newest
    split at member
    · rw [← withSiblings_siblings state, newest, outline_withSiblings_cons]
      exact List.mem_append_left _ (added _ _ _ member)
    · rw [← withSiblings_siblings state]
      exact added _ _ _ member
  · rw [← withSiblings_siblings state]
    exact added _ _ _ member

/-- Every doctype comes from a declaration. -/
theorem exists_declaration (source : Source) (options : ReadOptions) (tokens : List Token)
    {state : Construction} {declared : Doctype}
    (member : .doctype declared ∈ (tokens.foldl (take source options) state).outline) :
    .doctype declared ∈ state.outline ∨
      ∃ content, .declaration content ∈ tokens ∧ Doctype.ofDeclaration? content.chars = some declared := by
  induction tokens generalizing state with
  | nil => exact .inl member
  | cons token later inductionHypothesis =>
      rcases inductionHypothesis member with earlier | ⟨content, inLater, found⟩
      · by_cases isText : ∃ content, token = .text content
        · obtain ⟨content, rfl⟩ := isText
          exact .inl (doctype_mem_addText earlier)
        · have apart : ∀ content, token ≠ .text content := fun content same => isText ⟨content, same⟩
          rw [(extends_take source options state apart).outline] at earlier
          rcases List.mem_append.mp earlier with before | here
          · exact .inl before
          · obtain ⟨content, rfl, found⟩ := Token.exists_declaration here
            exact .inr ⟨content, List.mem_cons_self, found⟩
      · exact .inr ⟨content, List.mem_cons_of_mem token inLater, found⟩

end Construction

/-- Every doctype of a tree can be written so that it is read again. -/
theorem Doctype.isRead_of_mem {source : Source} {options : ReadOptions} {declared : Doctype}
    {location : Location}
    (member : .doctype declared location ∈ preorderAll (Document.ofSource source options).nodes) :
    declared.IsRead := by
  have outlined : .doctype declared ∈ outlineAll (Document.ofSource source options).nodes :=
    List.mem_map.mpr ⟨_, member, rfl⟩
  have nodes : outlineAll (Document.ofSource source options).nodes = _ :=
    Construction.outline_finish _
  rw [nodes] at outlined
  rcases Construction.exists_declaration source options _ outlined with absent | ⟨content, inTokens, found⟩
  · exact absurd absent List.not_mem_nil
  · have closed : '>' ∉ content.chars :=
      forall_mem_tokens isBracketed_readToken (fun _ => trivial) source.chars _ inTokens
    exact isRead_ofDeclaration? closed found

/-- A written doctype is read back exactly if its identifiers have no quotes. -/
theorem Document.read_doctype {source : Source} {options : ReadOptions} {declared : Doctype}
    {location : Location}
    (member : .doctype declared location ∈ preorderAll (Document.ofSource source options).nodes)
    (reading : ReadOptions) :
    ∃ reread place, Document.read (declared.render true) reading = ⟨[.doctype reread place], []⟩ ∧
      reread.name = declared.name ∧
      reread.publicId = declared.publicId.map Doctype.beforeMark ∧
      ((∀ id ∈ declared.publicId, '"' ∉ id.toList) →
        reread.systemId = declared.systemId.map Doctype.beforeMark) ∧
      (reread = declared ↔
        (∀ id ∈ declared.publicId, '"' ∉ id.toList) ∧ ∀ id ∈ declared.systemId, '"' ∉ id.toList) := by
  have isRead := Doctype.isRead_of_mem member
  obtain ⟨place, later, taken⟩ :=
    Construction.run_written (Source.ofString declared.write) reading {} 0 isRead []
  rw [List.append_nil, Construction.run_finished] at taken
  refine ⟨declared.reread, place, ?_, rfl, declared.publicId_reread, declared.systemId_reread,
    declared.reread_eq_iff⟩
  have state : (tokens (Source.ofString declared.write).chars).foldl
      (Construction.take (Source.ofString declared.write) reading) {} =
        { roots := [.doctype declared.reread place] } := taken
  show Document.ofSource (Source.ofString declared.write) reading = _
  rw [Document.ofSource, state]
  rfl

/-- A doctype in the outline is a node of the tree. -/
theorem exists_doctype_of_outline {nodes : List Node} {declared : Doctype}
    (member : .doctype declared ∈ outlineAll nodes) :
    ∃ location, .doctype declared location ∈ preorderAll nodes := by
  obtain ⟨node, inNodes, same⟩ := List.mem_map.mp member
  cases node with
  | doctype found location =>
      obtain rfl := Outline.doctype.inj same
      exact ⟨location, inNodes⟩
  | _ => contradiction

/-- The first identifier stands in single quotes, and the second one is not closed. -/
theorem Document.read_doctype_singleQuotes :
    let declared : Doctype := ⟨"x'", some "-//a//b", some "it's"⟩
    ∃ location,
      .doctype declared location ∈
        preorderAll (Document.read "<p><!docType X'\tpublic'-//a//b'\"it's></p>").nodes ∧
      ∃ place, Document.read (declared.render true) = ⟨[.doctype declared place], []⟩ := by
  intro declared
  obtain ⟨location, member⟩ := @exists_doctype_of_outline
    (Document.read "<p><!docType X'\tpublic'-//a//b'\"it's></p>").nodes declared (by decide +kernel)
  obtain ⟨reread, place, document, _, _, _, same⟩ := Document.read_doctype member {}
  obtain rfl := same.mpr (by decide)
  exact ⟨location, member, place, document⟩

/-- A double quote in an identifier ends it when the doctype is read again. -/
theorem Document.read_doctype_cuts_identifier :
    let declared : Doctype := ⟨"html", some "a\"b", none⟩
    outlineAll (Document.read "<!DOCTYPE html PUBLIC 'a\"b'>").nodes = [.doctype declared] ∧
      declared.render true = "<!DOCTYPE html PUBLIC \"a\"b\">" ∧
      outlineAll (Document.read (declared.render true)).nodes = [.doctype ⟨"html", some "a", none⟩] := by
  decide +kernel

end HtmlTemplate.Markup
