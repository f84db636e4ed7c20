/-
This file shows what the one-pass emitter writes: the layout of the block of a template. What a node
does to an emitter is what its statements do, and an emitter that has taken statements one after
another stands for their joined block.
-/

import HtmlTemplate.Proofs.Script.Literals
import HtmlTemplate.Script.Emitter

namespace HtmlTemplate.Script

open Template

/-- Blocks in a row are written in a row. -/
theorem writeBlock_append (options : Options) (depth : Nat) (first second : List Statement) :
    writeBlock options depth (first ++ second) =
      writeBlock options depth first ++ writeBlock options depth second := by
  induction first with
  | nil => simp [writeBlock]
  | cons statement rest inductionHypothesis =>
      simp [writeBlock, inductionHypothesis, String.append_assoc]

namespace Emitter

/-- Takes one statement: a literal is held back, and any other statement is written. -/
def take (options : Options) (depth : Nat) (emitter : Emitter) : Statement → Emitter
  | .literal html => emitter.pushLiteral html
  | other => emitter.pushStatement options depth other

/-- Takes statements in order. -/
def takeAll (options : Options) (depth : Nat) (emitter : Emitter)
    (statements : List Statement) : Emitter :=
  statements.foldl (take options depth) emitter

/-- Notes diagnostics after those so far. -/
def note (emitter : Emitter) (diagnostics : List Diagnostic) : Emitter :=
  { emitter with diagnostics := emitter.diagnostics ++ diagnostics }

/-- Takes the statements of a template and notes their diagnostics. -/
def takeLowered (options : Options) (depth : Nat) (emitter : Emitter)
    (lowered : Lowered (List Statement)) : Emitter :=
  (emitter.takeAll options depth lowered.output).note lowered.diagnostics

/-- Anything but a literal is written at once. -/
theorem take_other (options : Options) (depth : Nat) (emitter : Emitter) {statement : Statement}
    (other : statement.isLiteral = false) :
    emitter.take options depth statement = emitter.pushStatement options depth statement := by
  cases statement with
  | literal html => simp [Statement.isLiteral] at other
  | escaped expression => rfl
  | loop iterator source block => rfl
  | conditional arms => rfl
  | marker directive => rfl

/-- Flushing writes the literal that is held back. -/
theorem flush_eq (options : Options) (depth : Nat) (emitter : Emitter) :
    emitter.flush options depth =
      ⟨emitter.code ++ writeBlock options depth (literalStatement emitter.pending), "",
        emitter.diagnostics⟩ := by
  by_cases empty : emitter.pending = ""
  · rcases emitter with ⟨code, pending, diagnostics⟩
    simp_all [flush, writeBlock]
  · simp [flush, literalStatement_of_ne empty, writeBlock, empty]

/-- A statement is written behind the literal held back. -/
theorem pushStatement_eq (options : Options) (depth : Nat) (emitter : Emitter)
    (statement : Statement) :
    emitter.pushStatement options depth statement =
      ⟨emitter.code ++ writeBlock options depth (literalStatement emitter.pending ++ [statement]),
        "", emitter.diagnostics⟩ := by
  simp [pushStatement, flush_eq, writeBlock_append, writeBlock, String.append_assoc]

/-- Once flushed, the emitter has written the joined block of what it took. -/
theorem flush_takeAll (options : Options) (depth : Nat) (emitter : Emitter)
    (statements : List Statement) :
    (emitter.takeAll options depth statements).flush options depth =
      ⟨emitter.code ++ writeBlock options depth (joinLiterals emitter.pending statements), "",
        emitter.diagnostics⟩ := by
  induction statements generalizing emitter with
  | nil => exact flush_eq options depth emitter
  | cons statement rest inductionHypothesis =>
      rw [takeAll, List.foldl_cons, ← takeAll, inductionHypothesis]
      rcases statement.literal_or_other with ⟨html, rfl⟩ | other
      · rfl
      · rw [take_other options depth emitter other, pushStatement_eq,
          joinLiterals_cons _ _ other]
        simp [writeBlock_append, writeBlock, String.append_assoc]

theorem take_note (options : Options) (depth : Nat) (emitter : Emitter)
    (diagnostics : List Diagnostic) (statement : Statement) :
    (emitter.note diagnostics).take options depth statement =
      (emitter.take options depth statement).note diagnostics := by
  rcases statement.literal_or_other with ⟨html, rfl⟩ | other
  · rfl
  · simp only [take_other options depth _ other, pushStatement_eq, note]

/-- Notes do not change what is written. -/
theorem takeAll_note (options : Options) (depth : Nat) (emitter : Emitter)
    (diagnostics : List Diagnostic) (statements : List Statement) :
    (emitter.note diagnostics).takeAll options depth statements =
      (emitter.takeAll options depth statements).note diagnostics := by
  induction statements generalizing emitter with
  | nil => rfl
  | cons statement rest inductionHypothesis =>
      rw [takeAll, List.foldl_cons, take_note, ← takeAll, inductionHypothesis]
      rfl

/-- Results in a row are taken in a row. -/
theorem takeLowered_combine (options : Options) (depth : Nat) (emitter : Emitter)
    (first second : Lowered (List Statement)) :
    emitter.takeLowered options depth (Lowered.combine (· ++ ·) first second) =
      (emitter.takeLowered options depth first).takeLowered options depth second := by
  simp only [takeLowered, Lowered.combine, takeAll_note]
  simp [takeAll, note, List.append_assoc]

/-- The parts of a text are taken one by one. -/
theorem takeAll_parts (options : Options) (depth : Nat) (emitter : Emitter)
    (parts : List TextPart) :
    emitter.takeAll options depth (parts.map partStatement) =
      parts.foldl (pushPart options depth) emitter := by
  rw [takeAll, List.foldl_map]
  congr 1
  funext emitter part
  cases part <;> rfl

/-- A flushed emitter has written a joined block and all diagnostics. -/
theorem flush_takeLowered (options : Options) (depth : Nat) (emitter : Emitter)
    (lowered : Lowered (List Statement)) :
    (emitter.takeLowered options depth lowered).flush options depth =
      ⟨emitter.code ++ writeBlock options depth (joinLiterals emitter.pending lowered.output), "",
        emitter.diagnostics ++ lowered.diagnostics⟩ := by
  have flushed := flush_takeAll options depth emitter lowered.output
  rw [flush_eq] at flushed ⊢
  simp only [Emitter.mk.injEq] at flushed
  simp only [takeLowered, note, flushed.1, flushed.2.2]

theorem takeLowered_literal (options : Options) (depth : Nat) (emitter : Emitter) (html : String) :
    emitter.takeLowered options depth (.plain [.literal html]) = emitter.pushLiteral html := by
  simp [takeLowered, takeAll, note, take, Lowered.plain]

/-- An element is taken as its content between its tags. -/
theorem takeLowered_element (options : Options) (depth : Nat) (emitter : Emitter)
    (before after : String) (content : Lowered (List Statement)) :
    emitter.takeLowered options depth
        (content.map fun statements => .literal before :: (statements ++ [.literal after])) =
      ((emitter.pushLiteral before).takeLowered options depth content).pushLiteral after := by
  simp [takeLowered, takeAll, Lowered.map, take, note, pushLiteral]

/-- The body of a loop is written one level deeper, between its lines. -/
theorem takeLowered_loop (options : Options) (depth : Nat) (emitter : Emitter)
    (iterator source : String) (content : Lowered (List Statement)) :
    emitter.takeLowered options depth
        (content.map fun statements => [.loop iterator source (joinLiterals "" statements)]) =
      ((((emitter.flush options depth).pushLine options depth
        ("for (const " ++ iterator ++ " of " ++ source ++ ") \x7b")).takeLowered options (depth + 1)
          content).flush options (depth + 1)).pushLine options depth "\x7d" := by
  rw [flush_takeLowered]
  simp [takeLowered, takeAll, Lowered.map, take, note, pushStatement, pushLine, flush_eq, write,
    String.append_assoc]

end Emitter

mutual

/-- A node does to an emitter what its statements do. -/
theorem emit_eq_takeLowered (options : Options) :
    ∀ (depth : Nat) (node : Node) (emitter : Emitter),
      emit options depth node emitter =
        (do return emitter.takeLowered options depth (← lower options node))
  | depth, .root children location, emitter => by
      simp only [emit, lower, emitAll_eq_takeLowered options depth children]
  | depth, .doctype doctype location, emitter => by
      simp [emit, lower, Emitter.takeLowered_literal]
  | depth, .text content location, emitter => by
      simp [emit, lower, Emitter.takeLowered_literal]
  | depth, .interpolated parts location, emitter => by
      simp [emit, lower, Emitter.takeLowered, Emitter.takeAll_parts, Emitter.note, Lowered.plain]
  | depth, .element tag attributes children location, emitter => by
      simp only [emit, lower, emitAll_eq_takeLowered options depth children]
      simp [Emitter.takeLowered_element]
  | depth, .loop iterator source body location, emitter => by
      simp only [emit, lower, emitAll_eq_takeLowered options (depth + 1) body]
      simp [Emitter.takeLowered_loop]
  | depth, .branch branch, emitter => by
      simp only [emit, lower]
      split
      · rfl
      · rfl
  | depth, .chain branches location, emitter => by
      simp only [emit, lower, Emitter.flush_eq, emitBranches_eq options depth true branches]
      simp [Emitter.takeLowered, Emitter.takeAll, Emitter.take, Emitter.pushStatement_eq,
        Emitter.pushLine, Emitter.note, Lowered.map, writeBlock_append, writeBlock, write,
        String.append_assoc]
  | depth, .staticBlock children html, emitter => by
      simp [emit, lower, Emitter.takeLowered_literal]

/-- Writing siblings takes what they are lowered to. -/
theorem emitAll_eq_takeLowered (options : Options) :
    ∀ (depth : Nat) (nodes : List Node) (emitter : Emitter),
      emitAll options depth nodes emitter =
        (do return emitter.takeLowered options depth (← lowerAll options nodes))
  | depth, [], emitter => by
      simp [emitAll, lowerAll, Emitter.takeLowered, Emitter.takeAll, Emitter.note, Lowered.plain]
  | depth, node :: rest, emitter => by
      simp only [emitAll, lowerAll, emit_eq_takeLowered options depth node,
        emitAll_eq_takeLowered options depth rest]
      simp [Emitter.takeLowered_combine]

/-- The arms of a conditional are written at once. -/
theorem emitBranches_eq (options : Options) :
    ∀ (depth : Nat) (isFirst : Bool) (branches : List (Branch Node)) (code : String)
      (diagnostics : List Diagnostic),
      emitBranches options depth isFirst branches ⟨code, "", diagnostics⟩ = (do
        let arms ← lowerBranches options isFirst branches
        return ⟨code ++ writeArms options depth arms.output, "", diagnostics ++ arms.diagnostics⟩)
  | depth, isFirst, [], code, diagnostics => by
      simp [emitBranches, lowerBranches, writeArms, Lowered.plain]
  | depth, isFirst, branch :: rest, code, diagnostics => by
      simp only [emitBranches, lowerBranches, emitAll_eq_takeLowered options (depth + 1) branch.body]
      simp [Emitter.flush_takeLowered, Emitter.pushLine, emitBranches_eq options depth false rest,
        Lowered.combine, writeArms, String.append_assoc]

end

/-- The module of a template is the layout of its block. -/
theorem generate_eq_writeModule (options : Options) (name : String) (template : Node) :
    generate options name template = (do
      let block ← blockOf options template
      return ⟨writeModule options name block.output, block.diagnostics⟩) := by
  simp [generate, blockOf, emit_eq_takeLowered, Emitter.flush_takeLowered, Lowered.map, writeModule]

end HtmlTemplate.Script
