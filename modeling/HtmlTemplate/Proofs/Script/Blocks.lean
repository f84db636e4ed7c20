/-
This file looks into the blocks of render functions: the lines that they are laid out in, and what
holds of every block at every depth.
-/

import Mathlib.Data.List.Chain
import HtmlTemplate.Proofs.Script.Literals
import HtmlTemplate.Proofs.Script.Lowering
import HtmlTemplate.Proofs.Template.Chain
import HtmlTemplate.Script.Layout

namespace HtmlTemplate.Script

open Template

/-- A line of code with the depth of the block that it belongs to. -/
structure Line where
  depth : Nat
  text : String
  deriving DecidableEq, Repr

/-- A line after the spaces of its depth. -/
def Line.write (width : Nat) (line : Line) : String :=
  String.ofList (List.replicate (line.depth * width) ' ') ++ line.text ++ "\n"

mutual

/-- The lines of a statement at the given depth. -/
def Statement.lines (depth : Nat) : Statement → List Line
  | .literal html => [⟨depth, "__html.push(" ++ Text.quoted html ++ ");"⟩]
  | .escaped expression => [⟨depth, "__html.push(__escape(" ++ expression ++ "));"⟩]
  | .loop iterator source block =>
      ⟨depth, "for (const " ++ iterator ++ " of " ++ source ++ ") \x7b"⟩ ::
        (blockLines (depth + 1) block ++ [⟨depth, "\x7d"⟩])
  | .conditional arms => armLines depth arms ++ [⟨depth, "\x7d"⟩]
  | .marker directive => [⟨depth, "/* litewing: stray '" ++ directive ++ "' branch skipped */"⟩]

def blockLines (depth : Nat) : List Statement → List Line
  | [] => []
  | statement :: rest => statement.lines depth ++ blockLines depth rest

def armLines (depth : Nat) : List (Arm Statement) → List Line
  | [] => []
  | arm :: rest =>
      ⟨depth, arm.clause.write⟩ :: (blockLines (depth + 1) arm.block ++ armLines depth rest)

end

/-- Writes lines with the indentation of the module. -/
def writeLines (options : Options) (lines : List Line) : String :=
  String.join (lines.map fun written => line options written.depth written.text)

mutual

/-- A statement is written line by line. -/
theorem write_eq_writeLines (options : Options) :
    ∀ (depth : Nat) (statement : Statement),
      write options depth statement = writeLines options (statement.lines depth)
  | depth, .literal html => by simp [write, writeLines, Statement.lines]
  | depth, .escaped expression => by simp [write, writeLines, Statement.lines]
  | depth, .loop iterator source block => by
      simp [write, writeLines, Statement.lines, writeBlock_eq_writeLines options (depth + 1) block,
        String.append_assoc]
  | depth, .conditional arms => by
      simp [write, writeLines, Statement.lines, writeArms_eq_writeLines options depth arms]
  | depth, .marker directive => by simp [write, writeLines, Statement.lines]

/-- A block is written line by line. -/
theorem writeBlock_eq_writeLines (options : Options) :
    ∀ (depth : Nat) (block : List Statement),
      writeBlock options depth block = writeLines options (blockLines depth block)
  | depth, [] => by simp [writeBlock, writeLines, blockLines]
  | depth, statement :: rest => by
      simp [writeBlock, writeLines, blockLines, write_eq_writeLines options depth statement,
        writeBlock_eq_writeLines options depth rest]

/-- The arms of a conditional are written line by line. -/
theorem writeArms_eq_writeLines (options : Options) :
    ∀ (depth : Nat) (arms : List (Arm Statement)),
      writeArms options depth arms = writeLines options (armLines depth arms)
  | depth, [] => by simp [writeArms, writeLines, armLines]
  | depth, arm :: rest => by
      simp [writeArms, writeLines, armLines, writeBlock_eq_writeLines options (depth + 1) arm.block,
        writeArms_eq_writeLines options depth rest, String.append_assoc]

end

mutual

/-- The blocks inside a statement, at every depth. -/
def Statement.innerBlocks : Statement → List (List Statement)
  | .literal _ => []
  | .escaped _ => []
  | .loop _ _ block => block :: blocksInside block
  | .conditional arms => armBlocks arms
  | .marker _ => []

def blocksInside : List Statement → List (List Statement)
  | [] => []
  | statement :: rest => statement.innerBlocks ++ blocksInside rest

def armBlocks : List (Arm Statement) → List (List Statement)
  | [] => []
  | arm :: rest => arm.block :: (blocksInside arm.block ++ armBlocks rest)

end

/-- A block with the blocks inside it. -/
def allBlocks (block : List Statement) : List (List Statement) := block :: blocksInside block

/-- The clauses that may follow the first one of a conditional. -/
def continuesClauses : List Clause → Bool
  | [] => true
  | [.otherwise] => true
  | .elseIf _ :: rest => continuesClauses rest
  | _ => false

/-- An if, then else-if clauses, and at most one else at the end. -/
def isClauseChain : List Clause → Bool
  | .ifTrue _ :: rest => continuesClauses rest
  | _ => false

/-- No literal of a block is empty, and none directly follows another one. -/
structure LiteralsApart (block : List Statement) : Prop where
  filled : ∀ html, .literal html ∈ block → html ≠ ""
  apart : block.IsChain fun first second => ¬(first.isLiteral = true ∧ second.isLiteral = true)

def ConditionalsWhole (block : List Statement) : Prop :=
  ∀ arms, .conditional arms ∈ block → isClauseChain (arms.map (·.clause)) = true

/-- The blocks inside statements are those inside each part. -/
theorem blocksInside_append (first second : List Statement) :
    blocksInside (first ++ second) = blocksInside first ++ blocksInside second := by
  induction first with
  | nil => simp [blocksInside]
  | cons statement rest inductionHypothesis =>
      simp [blocksInside, inductionHypothesis, List.append_assoc]

theorem blocksInside_literalStatement (html : String) : blocksInside (literalStatement html) = [] := by
  by_cases empty : html = ""
  · simp [empty, blocksInside]
  · simp [literalStatement_of_ne empty, blocksInside, Statement.innerBlocks]

/-- Joining literals leaves the blocks inside as they are. -/
theorem blocksInside_joinLiterals (pending : String) (statements : List Statement) :
    blocksInside (joinLiterals pending statements) = blocksInside statements := by
  induction statements generalizing pending with
  | nil => simp [joinLiterals, blocksInside_literalStatement, blocksInside]
  | cons statement rest inductionHypothesis =>
      rcases statement.literal_or_other with ⟨html, rfl⟩ | other
      · simp [joinLiterals, inductionHypothesis, blocksInside, Statement.innerBlocks]
      · rw [joinLiterals_cons _ _ other, blocksInside_append, blocksInside_literalStatement]
        simp [blocksInside, inductionHypothesis]

/-- A statement that is no literal ends the run of literals before it. -/
theorem LiteralsApart.cons {statement : Statement} {block : List Statement} (pending : String)
    (other : statement.isLiteral = false) (later : LiteralsApart block) :
    LiteralsApart (literalStatement pending ++ statement :: block) := by
  have tail : LiteralsApart (statement :: block) := by
    constructor
    · intro html member
      rcases List.mem_cons.mp member with rfl | member
      · simp [Statement.isLiteral] at other
      · exact later.filled html member
    · refine List.isChain_cons.mpr ⟨?_, later.apart⟩
      intro next _ both
      simp [other] at both
  by_cases empty : pending = ""
  · simpa [empty] using tail
  · rw [literalStatement_of_ne empty, List.singleton_append]
    constructor
    · intro html member
      rcases List.mem_cons.mp member with same | member
      · simp only [Statement.literal.injEq] at same
        rw [same]
        exact empty
      · exact tail.filled html member
    · refine List.isChain_cons.mpr ⟨?_, tail.apart⟩
      intro next isNext both
      simp only [List.head?_cons, Option.mem_some_iff] at isNext
      rw [← isNext, other] at both
      exact Bool.false_ne_true both.2

/-- A joined block has its literals apart. -/
theorem literalsApart_joinLiterals (pending : String) (statements : List Statement) :
    LiteralsApart (joinLiterals pending statements) := by
  induction statements generalizing pending with
  | nil =>
      by_cases empty : pending = ""
      · rw [joinLiterals, empty]
        exact ⟨by simp, by simp⟩
      · rw [joinLiterals, literalStatement_of_ne empty]
        exact ⟨by simp [empty], by simp⟩
  | cons statement rest inductionHypothesis =>
      rcases statement.literal_or_other with ⟨html, rfl⟩ | other
      · exact inductionHypothesis (pending ++ html)
      · rw [joinLiterals_cons _ _ other]
        exact (inductionHypothesis "").cons pending other

/-- Joining literals keeps every conditional. -/
theorem conditional_mem_joinLiterals (pending : String) (statements : List Statement)
    (arms : List (Arm Statement)) :
    .conditional arms ∈ joinLiterals pending statements ↔ .conditional arms ∈ statements := by
  have notPending (html : String) : ¬.conditional arms ∈ literalStatement html := by
    unfold literalStatement
    split <;> simp
  induction statements generalizing pending with
  | nil => simp [joinLiterals, notPending]
  | cons statement rest inductionHypothesis =>
      rcases statement.literal_or_other with ⟨html, rfl⟩ | other
      · simp [joinLiterals, inductionHypothesis]
      · rw [joinLiterals_cons _ _ other]
        simp [notPending, inductionHypothesis]

/-- The literals of a block are apart, and its conditionals are whole. -/
def Tidy (block : List Statement) : Prop := LiteralsApart block ∧ ConditionalsWhole block

/-- Statements before they are joined, with tidy blocks inside. -/
structure WellBuilt (statements : List Statement) : Prop where
  inside : ∀ block ∈ blocksInside statements, Tidy block
  whole : ConditionalsWhole statements

namespace WellBuilt

theorem nil : WellBuilt [] := ⟨by simp [blocksInside], by simp [ConditionalsWhole]⟩

/-- Statements that are well built are so in a row. -/
theorem append {first second : List Statement} (before : WellBuilt first)
    (after : WellBuilt second) : WellBuilt (first ++ second) := by
  constructor
  · intro block member
    rw [blocksInside_append] at member
    rcases List.mem_append.mp member with member | member
    · exact before.inside block member
    · exact after.inside block member
  · intro arms member
    rcases List.mem_append.mp member with member | member
    · exact before.whole arms member
    · exact after.whole arms member

theorem literal (html : String) : WellBuilt [.literal html] :=
  ⟨by simp [blocksInside, Statement.innerBlocks], by simp [ConditionalsWhole]⟩

theorem escaped (expression : String) : WellBuilt [.escaped expression] :=
  ⟨by simp [blocksInside, Statement.innerBlocks], by simp [ConditionalsWhole]⟩

theorem marker (directive : String) : WellBuilt [.marker directive] :=
  ⟨by simp [blocksInside, Statement.innerBlocks], by simp [ConditionalsWhole]⟩

/-- The parts of a text are well built. -/
theorem parts (parts : List TextPart) : WellBuilt (parts.map partStatement) := by
  induction parts with
  | nil => exact nil
  | cons part rest inductionHypothesis =>
      rw [List.map_cons, ← List.singleton_append]
      cases part
      · exact (literal _).append inductionHypothesis
      · exact (escaped _).append inductionHypothesis

/-- Joined statements form a tidy block, with tidy blocks inside. -/
theorem joined {statements : List Statement} (built : WellBuilt statements) :
    ∀ block ∈ allBlocks (joinLiterals "" statements), Tidy block := by
  intro block member
  rcases List.mem_cons.mp member with rfl | member
  · refine ⟨literalsApart_joinLiterals "" statements, ?_⟩
    intro arms member
    exact built.whole arms ((conditional_mem_joinLiterals "" statements arms).mp member)
  · rw [blocksInside_joinLiterals] at member
    exact built.inside block member

/-- A loop over joined statements is well built. -/
theorem loop (iterator source : String) {statements : List Statement}
    (built : WellBuilt statements) :
    WellBuilt [.loop iterator source (joinLiterals "" statements)] := by
  constructor
  · simpa [blocksInside, Statement.innerBlocks, allBlocks] using built.joined
  · simp [ConditionalsWhole]

/-- A conditional of tidy arms with whole clauses is well built. -/
theorem conditional {arms : List (Arm Statement)} (inside : ∀ block ∈ armBlocks arms, Tidy block)
    (whole : isClauseChain (arms.map (·.clause)) = true) : WellBuilt [.conditional arms] := by
  constructor
  · simpa [blocksInside, Statement.innerBlocks] using inside
  · intro others member
    simp only [List.mem_singleton, Statement.conditional.injEq] at member
    rw [member]
    exact whole

end WellBuilt

/-- The clauses of the arms that branches are lowered to. -/
def clausesOf : Bool → List (Branch Node) → List Clause
  | _, [] => []
  | isFirst, branch :: rest => clauseOf isFirst branch :: clausesOf false rest

/-- Branches that continue a conditional have clauses that do. -/
theorem continuesClauses_clausesOf (branches : List (Branch Node))
    (continues : continuesConditional branches = true) :
    continuesClauses (clausesOf false branches) = true := by
  induction branches with
  | nil => rfl
  | cons branch rest inductionHypothesis =>
      rcases branch with ⟨kind, condition, body, location⟩
      cases kind <;> cases condition <;>
        simp_all [continuesConditional, clausesOf, clauseOf, continuesClauses]

/-- The branches of a conditional have whole clauses. -/
theorem isClauseChain_clausesOf (branches : List (Branch Node))
    (conditional : isConditional branches = true) :
    isClauseChain (clausesOf true branches) = true := by
  cases branches with
  | nil => simp [isConditional] at conditional
  | cons branch rest =>
      rcases branch with ⟨kind, condition, body, location⟩
      simp only [isConditional, Bool.and_eq_true] at conditional
      obtain ⟨text, rfl⟩ := Option.isSome_iff_exists.mp conditional.1.2
      exact continuesClauses_clausesOf rest conditional.2

/-- Each arm has the clause of its branch. -/
theorem clauses_lowerBranches (options : Options) (isFirst : Bool) (branches : List (Branch Node))
    (arms : Lowered (List (Arm Statement)))
    (success : lowerBranches options isFirst branches = .ok arms) :
    arms.output.map (·.clause) = clausesOf isFirst branches := by
  induction branches generalizing isFirst arms with
  | nil =>
      obtain rfl := Except.ok.inj success
      rfl
  | cons branch rest inductionHypothesis =>
      obtain ⟨content, others, _, lowered, rfl⟩ := lowerBranches_cons_ok success
      simp only [Lowered.combine, List.map_cons, clausesOf, inductionHypothesis false others lowered]

mutual

/-- The statements of a template are well built. -/
theorem wellBuilt_lower (options : Options) :
    ∀ (node : Node) (lowered : Lowered (List Statement)), wellChained node = true →
      lower options node = .ok lowered → WellBuilt lowered.output
  | .root children location, lowered, chained, success =>
      wellBuilt_lowerAll options children lowered chained success
  | .doctype doctype location, lowered, _, success => by
      obtain rfl := Except.ok.inj success
      exact WellBuilt.literal _
  | .text content location, lowered, _, success => by
      obtain rfl := Except.ok.inj success
      exact WellBuilt.literal _
  | .interpolated parts location, lowered, _, success => by
      obtain rfl := Except.ok.inj success
      exact WellBuilt.parts parts
  | .element tag attributes children location, lowered, chained, success => by
      obtain ⟨content, found, rfl⟩ := lower_element_ok success
      have inner := wellBuilt_lowerAll options children content chained found
      exact ((WellBuilt.literal _).append inner).append (WellBuilt.literal _)
  | .loop iterator source body location, lowered, chained, success => by
      obtain ⟨content, found, rfl⟩ := lower_loop_ok success
      have inner := wellBuilt_lowerAll options body content chained found
      exact inner.loop iterator source
  | .branch branch, lowered, _, success => by
      obtain rfl := lower_branch_ok success
      exact WellBuilt.marker _
  | .chain branches location, lowered, chained, success => by
      rw [wellChained, Bool.and_eq_true] at chained
      obtain ⟨arms, found, rfl⟩ := lower_chain_ok success
      have inside := tidy_lowerBranches options true branches arms chained.2 found
      have whole := isClauseChain_clausesOf branches chained.1
      rw [← clauses_lowerBranches options true branches arms found] at whole
      exact WellBuilt.conditional inside whole
  | .staticBlock children html, lowered, _, success => by
      obtain rfl := Except.ok.inj success
      exact WellBuilt.literal _

/-- Siblings are lowered to well-built statements. -/
theorem wellBuilt_lowerAll (options : Options) :
    ∀ (nodes : List Node) (lowered : Lowered (List Statement)), allWellChained nodes = true →
      lowerAll options nodes = .ok lowered → WellBuilt lowered.output
  | [], lowered, _, success => by
      obtain rfl := Except.ok.inj success
      exact WellBuilt.nil
  | node :: rest, lowered, chained, success => by
      rw [allWellChained, Bool.and_eq_true] at chained
      obtain ⟨first, others, foundFirst, foundOthers, rfl⟩ := lowerAll_cons_ok success
      exact (wellBuilt_lower options node first chained.1 foundFirst).append
        (wellBuilt_lowerAll options rest others chained.2 foundOthers)

/-- Branches are lowered to tidy blocks. -/
theorem tidy_lowerBranches (options : Options) :
    ∀ (isFirst : Bool) (branches : List (Branch Node)) (arms : Lowered (List (Arm Statement))),
      branchesWellChained branches = true → lowerBranches options isFirst branches = .ok arms →
      ∀ block ∈ armBlocks arms.output, Tidy block
  | isFirst, [], arms, _, success => by
      obtain rfl := Except.ok.inj success
      simp [armBlocks, Lowered.plain]
  | isFirst, branch :: rest, arms, chained, success => by
      rw [branchesWellChained, Bool.and_eq_true] at chained
      obtain ⟨content, others, foundContent, foundOthers, rfl⟩ := lowerBranches_cons_ok success
      have built := wellBuilt_lowerAll options branch.body content chained.1 foundContent
      have later := tidy_lowerBranches options false rest others chained.2 foundOthers
      intro block member
      simp only [Lowered.combine, armBlocks, List.mem_cons, List.mem_append] at member
      rcases member with same | inner | member
      · exact built.joined block (same ▸ List.mem_cons_self)
      · exact built.joined block (List.mem_cons_of_mem _ inner)
      · exact later block member

end

end HtmlTemplate.Script
