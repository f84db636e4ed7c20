/-
This file says what merging static runs makes of a template without static blocks. With the nodes of its blocks back in
their places it is the template before. The blocks hold static markup only, they are as long as can be, and their number
is the one that is logged.
-/

import Mathlib.Data.List.Chain
import HtmlTemplate.Compile.Basic
import HtmlTemplate.Proofs.Template.Merging
import HtmlTemplate.Proofs.Template.Visits

namespace HtmlTemplate.Template

def Node.isStaticBlock : Node → Bool
  | .staticBlock _ _ => true
  | _ => false

mutual

/-- The nodes that a node stands for without static blocks. -/
def Node.spliced : Node → List Node
  | .root children location => [.root (splicedAll children) location]
  | .doctype doctype location => [.doctype doctype location]
  | .text content location => [.text content location]
  | .interpolated parts location => [.interpolated parts location]
  | .element tag attributes children location =>
      [.element tag attributes (splicedAll children) location]
  | .loop iterator source body location => [.loop iterator source (splicedAll body) location]
  | .branch branch => [.branch { branch with body := splicedAll branch.body }]
  | .chain branches location => [.chain (splicedBodies branches) location]
  | .staticBlock children _ => splicedAll children

def splicedAll : List Node → List Node
  | [] => []
  | node :: rest => node.spliced ++ splicedAll rest

def splicedBodies : List (Branch Node) → List (Branch Node)
  | [] => []
  | branch :: rest => { branch with body := splicedAll branch.body } :: splicedBodies rest

end

/-- The nodes of siblings are those of both parts. -/
@[simp] theorem splicedAll_append (first second : List Node) :
    splicedAll (first ++ second) = splicedAll first ++ splicedAll second := by
  induction first with
  | nil => rfl
  | cons node rest inductionHypothesis => simp [splicedAll, inductionHypothesis]

/-- The nodes of a block are those of its run. -/
theorem splicedAll_staticBlockOf (run : List Node) :
    splicedAll (staticBlockOf run) = splicedAll run.reverse := by
  cases run <;> simp [staticBlockOf, splicedAll, Node.spliced]

mutual

/-- Merging loses nothing. -/
theorem spliced_mergeStatic : ∀ node : Node, (mergeStatic node).spliced = node.spliced
  | .root children _ => by
      simp [mergeStatic, Node.spliced, splicedAll_mergeSiblings [] children, splicedAll]
  | .doctype _ _ => rfl
  | .text _ _ => rfl
  | .interpolated _ _ => rfl
  | .element _ _ children _ => by
      simp [mergeStatic, Node.spliced, splicedAll_mergeSiblings [] children, splicedAll]
  | .loop _ _ body _ => by
      simp [mergeStatic, Node.spliced, splicedAll_mergeSiblings [] body, splicedAll]
  | .branch branch => by
      simp [mergeStatic, Node.spliced, splicedAll_mergeSiblings [] branch.body, splicedAll]
  | .chain branches _ => by simp [mergeStatic, Node.spliced, splicedBodies_mergeBranches branches]
  | .staticBlock _ _ => rfl

/-- Merging siblings keeps their nodes. -/
theorem splicedAll_mergeSiblings : ∀ run nodes : List Node,
    splicedAll (mergeSiblings run nodes) = splicedAll run.reverse ++ splicedAll nodes
  | run, [] => by rw [mergeSiblings, splicedAll_staticBlockOf, splicedAll, List.append_nil]
  | run, node :: rest => by
      cases static : isStatic node with
      | true =>
          rw [mergeSiblings_static static, splicedAll_mergeSiblings (node :: run) rest,
            List.reverse_cons, splicedAll_append]
          simp [splicedAll]
      | false =>
          rw [mergeSiblings_dynamic static, splicedAll_append, splicedAll_staticBlockOf, splicedAll,
            spliced_mergeStatic node, splicedAll_mergeSiblings [] rest]
          rfl

/-- Merging branches keeps the nodes of their bodies. -/
theorem splicedBodies_mergeBranches : ∀ branches : List (Branch Node),
    splicedBodies (mergeBranches branches) = splicedBodies branches
  | [] => rfl
  | branch :: rest => by
      simp [mergeBranches, splicedBodies, splicedAll_mergeSiblings [] branch.body, splicedAll,
        splicedBodies_mergeBranches rest]

end

/-- Whether none of the nodes is a static block. -/
def NoStaticBlocks (nodes : List Node) : Prop := ∀ node ∈ nodes, node.isStaticBlock = false

mutual

/-- A template without static blocks stands for itself. -/
theorem spliced_of_noStaticBlocks : ∀ node : Node, NoStaticBlocks node.preorder →
    node.spliced = [node]
  | .root children _, plain => by
      rw [Node.spliced, splicedAll_of_noStaticBlocks children (List.forall_mem_cons.mp plain).2]
  | .doctype _ _, _ => rfl
  | .text _ _, _ => rfl
  | .interpolated _ _, _ => rfl
  | .element _ _ children _, plain => by
      rw [Node.spliced, splicedAll_of_noStaticBlocks children (List.forall_mem_cons.mp plain).2]
  | .loop _ _ body _, plain => by
      rw [Node.spliced, splicedAll_of_noStaticBlocks body (List.forall_mem_cons.mp plain).2]
  | .branch branch, plain => by
      rw [Node.spliced, splicedAll_of_noStaticBlocks branch.body (List.forall_mem_cons.mp plain).2]
  | .chain branches _, plain => by
      rw [Node.spliced, splicedBodies_of_noStaticBlocks branches (List.forall_mem_cons.mp plain).2]
  | .staticBlock _ _, plain => absurd (plain _ List.mem_cons_self) (by simp [Node.isStaticBlock])

/-- Siblings without static blocks stand for themselves. -/
theorem splicedAll_of_noStaticBlocks : ∀ nodes : List Node, NoStaticBlocks (preorderAll nodes) →
    splicedAll nodes = nodes
  | [], _ => rfl
  | node :: rest, plain => by
      obtain ⟨here, later⟩ := List.forall_mem_append.mp plain
      rw [splicedAll, spliced_of_noStaticBlocks node here, splicedAll_of_noStaticBlocks rest later]
      rfl

/-- Branches without static blocks stand for themselves. -/
theorem splicedBodies_of_noStaticBlocks : ∀ branches : List (Branch Node),
    NoStaticBlocks (preorderBodies branches) → splicedBodies branches = branches
  | [], _ => rfl
  | branch :: rest, plain => by
      obtain ⟨here, later⟩ := List.forall_mem_append.mp plain
      rw [splicedBodies, splicedAll_of_noStaticBlocks branch.body here,
        splicedBodies_of_noStaticBlocks rest later]

end

/-- What the children and the markup of a static block are. -/
structure IsStaticRun (children : List Node) (html : String) : Prop where
  filled : children ≠ []
  plain : ∀ part ∈ preorderAll children, part.nodeType = .text ∨ part.nodeType = .element
  rendered : html = String.join (children.map staticHtml)

/-- What a child list outside of static blocks is. -/
structure AreMerged (siblings : List Node) : Prop where
  dynamic : ∀ node ∈ siblings, isStatic node = false
  apart : siblings.IsChain fun first second =>
    ¬(first.isStaticBlock = true ∧ second.isStaticBlock = true)

/-- Siblings are static if each of them is. -/
theorem allStatic_iff {nodes : List Node} :
    allStatic nodes = true ↔ ∀ node ∈ nodes, isStatic node = true := by
  induction nodes with
  | nil => simp [allStatic]
  | cons node rest inductionHypothesis => simp [allStatic, inductionHypothesis]

/-- Static nodes are texts and elements throughout. -/
theorem nodeType_of_isStatic {node part : Node} (static : isStatic node = true)
    (member : part ∈ node.preorder) : part.nodeType = .text ∨ part.nodeType = .element := by
  induction node using Node.bodyInduction with
  | step node inductionHypothesis =>
      rcases Node.mem_preorder.mp member with rfl | ⟨body, isBody, child, isChild, inside⟩
      · cases part <;> simp_all [isStatic, Node.nodeType]
      · refine inductionHypothesis body isBody child isChild ?_ inside
        cases node with
        | element tag attributes children location =>
            obtain rfl : body = children := by simpa [Node.bodies, Node.children?] using isBody
            exact allStatic_iff.mp static child isChild
        | _ => contradiction

/-- The markup of static siblings is joined. -/
theorem allStaticHtml_eq_join (nodes : List Node) :
    allStaticHtml nodes = String.join (nodes.map staticHtml) := by
  induction nodes with
  | nil => rw [allStaticHtml, List.map_nil, String.join_nil]
  | cons node rest inductionHypothesis =>
      rw [allStaticHtml, List.map_cons, String.join_cons, inductionHypothesis]

/-- Static siblings are a static run. -/
theorem isStaticRun_of_allStatic {children : List Node} (filled : children ≠ [])
    (static : allStatic children = true) : IsStaticRun children (allStaticHtml children) where
  filled := filled
  plain := by
    intro part member
    obtain ⟨child, isChild, inChild⟩ := mem_preorderAll.mp member
    exact nodeType_of_isStatic (allStatic_iff.mp static child isChild) inChild
  rendered := allStaticHtml_eq_join children

/-- The block of a static run holds that run. -/
theorem isStaticRun_of_mem_staticBlockOf {run : List Node} {part : Node} (static : allStatic run = true)
    (member : part ∈ staticBlockOf run) :
    ∃ children html, part = .staticBlock children html ∧ IsStaticRun children html := by
  unfold staticBlockOf at member
  split at member
  · contradiction
  · rename_i filled
    refine ⟨_, _, List.mem_singleton.mp member, isStaticRun_of_allStatic ?_ (by simpa using static)⟩
    simpa using filled

/-- Merged siblings are static blocks and siblings that data may change. -/
theorem mem_mergeSiblings {run nodes : List Node} {part : Node} (static : allStatic run = true)
    (member : part ∈ mergeSiblings run nodes) :
    (∃ node ∈ nodes, isStatic node = false ∧ part = mergeStatic node) ∨
      ∃ children html, part = .staticBlock children html ∧ IsStaticRun children html := by
  induction nodes generalizing run with
  | nil =>
      rw [mergeSiblings] at member
      exact .inr (isStaticRun_of_mem_staticBlockOf static member)
  | cons node rest inductionHypothesis =>
      have later : (∃ other ∈ rest, isStatic other = false ∧ part = mergeStatic other) →
          ∃ other ∈ node :: rest, isStatic other = false ∧ part = mergeStatic other := by
        rintro ⟨other, isOther, dynamic, rfl⟩
        exact ⟨other, List.mem_cons_of_mem node isOther, dynamic, rfl⟩
      cases kind : isStatic node with
      | true =>
          rw [mergeSiblings_static kind] at member
          exact (inductionHypothesis (by rw [allStatic, kind, static]; rfl) member).imp_left later
      | false =>
          rw [mergeSiblings_dynamic kind, List.mem_append, List.mem_cons] at member
          rcases member with block | rfl | inRest
          · exact .inr (isStaticRun_of_mem_staticBlockOf static block)
          · exact .inl ⟨node, List.mem_cons_self, kind, rfl⟩
          · exact (inductionHypothesis rfl inRest).imp_left later

/-- Merging makes no other node a block. -/
theorem isStaticBlock_mergeStatic (node : Node) :
    (mergeStatic node).isStaticBlock = node.isStaticBlock := by
  cases node <;> rfl

/-- No two static blocks follow each other, if there was none before. -/
theorem isChain_mergeSiblings (run : List Node) {nodes : List Node} (plain : NoStaticBlocks nodes) :
    (mergeSiblings run nodes).IsChain fun first second =>
      ¬(first.isStaticBlock = true ∧ second.isStaticBlock = true) := by
  have alone (run : List Node) : (staticBlockOf run).IsChain fun first second =>
      ¬(first.isStaticBlock = true ∧ second.isStaticBlock = true) := by
    cases run <;> simp [staticBlockOf]
  induction nodes generalizing run with
  | nil =>
      rw [mergeSiblings]
      exact alone run
  | cons node rest inductionHypothesis =>
      obtain ⟨here, later⟩ := List.forall_mem_cons.mp plain
      cases kind : isStatic node with
      | true =>
          rw [mergeSiblings_static kind]
          exact inductionHypothesis (node :: run) later
      | false =>
          rw [mergeSiblings_dynamic kind]
          refine (alone run).append (List.isChain_cons.mpr ⟨?_, inductionHypothesis [] later⟩) ?_
          · simp [isStaticBlock_mergeStatic, here]
          · simp [isStaticBlock_mergeStatic, here]

/-- Merging siblings without blocks merges them. -/
theorem areMerged_mergeSiblings {nodes : List Node} (plain : NoStaticBlocks nodes) :
    AreMerged (mergeSiblings [] nodes) where
  dynamic := by
    intro part member
    rcases mem_mergeSiblings rfl member with ⟨node, -, dynamic, rfl⟩ | ⟨children, html, rfl, -⟩
    · exact isStatic_mergeStatic dynamic
    · rfl
  apart := isChain_mergeSiblings [] plain

/-- Merging a node merges its child lists. -/
theorem bodies_mergeStatic {node : Node} (other : node.isStaticBlock = false) :
    (mergeStatic node).bodies = node.bodies.map (mergeSiblings []) := by
  have branchBodies (branches : List (Branch Node)) :
      (mergeBranches branches).map (·.body) = (branches.map (·.body)).map (mergeSiblings []) := by
    induction branches with
    | nil => rfl
    | cons branch rest inductionHypothesis => simp [mergeBranches, inductionHypothesis]
  cases node with
  | chain branches location => exact branchBodies branches
  | staticBlock => contradiction
  | _ => rfl

/-- A static block is a run of static nodes, and other lists are merged. -/
structure IsMergedVisit (visit : Visit Node) : Prop where
  block : ∀ children html, visit.node = .staticBlock children html → IsStaticRun children html
  lists : (∀ outer ∈ visit.node :: visit.around, outer.isStaticBlock = false) →
    ∀ siblings ∈ visit.node.bodies, AreMerged siblings

/-- Every visit inside a static run is as in merged templates. -/
theorem isMergedVisit_of_isStaticRun {children : List Node} {html : String} {around : List Node}
    {visit : Visit Node} (isRun : IsStaticRun children html)
    (member : visit ∈ (Node.staticBlock children html).visits around) : IsMergedVisit visit := by
  rcases Node.mem_visits.mp member with rfl | ⟨body, isBody, child, isChild, inside⟩
  · refine ⟨?_, fun outside => absurd (outside _ List.mem_cons_self) (by simp [Node.isStaticBlock])⟩
    intro others written same
    obtain ⟨rfl, rfl⟩ := Node.staticBlock.inj same
    exact isRun
  · obtain rfl : body = children := by simpa [Node.bodies, Node.children?] using isBody
    have around : .staticBlock body html ∈ visit.around :=
      (Node.around_suffix_of_mem_visits inside).subset List.mem_cons_self
    refine ⟨?_, fun outside => absurd (outside _ (List.mem_cons_of_mem _ around))
      (by simp [Node.isStaticBlock])⟩
    intro others written same
    have kind := isRun.plain visit.node (mem_preorderAll.mpr ⟨child, isChild, Node.node_mem_preorder inside⟩)
    simp [same, Node.nodeType] at kind

/-- All visits in a merged template. The induction is on the template before merging. -/
theorem isMergedVisit_mergeStatic {node : Node} {around : List Node} {visit : Visit Node}
    (plain : NoStaticBlocks node.preorder) (member : visit ∈ (mergeStatic node).visits around) :
    IsMergedVisit visit := by
  induction node using Node.bodyInduction generalizing around with
  | step node inductionHypothesis =>
      have other : node.isStaticBlock = false := plain node (Node.mem_preorder.mpr (.inl rfl))
      have inside {body : List Node} (isBody : body ∈ node.bodies) {child : Node} (isChild : child ∈ body) :
          NoStaticBlocks child.preorder := fun part isPart =>
        plain part (Node.mem_preorder.mpr (.inr ⟨body, isBody, child, isChild, isPart⟩))
      rcases Node.mem_visits.mp member with rfl | ⟨merged, isMerged, part, isPart, inPart⟩
      · refine ⟨?_, ?_⟩
        · intro children html same
          have isBlock := isStaticBlock_mergeStatic node
          rw [other, show mergeStatic node = _ from same] at isBlock
          contradiction
        · intro _ siblings isList
          rw [bodies_mergeStatic other] at isList
          obtain ⟨body, isBody, rfl⟩ := List.mem_map.mp isList
          exact areMerged_mergeSiblings fun child isChild =>
            inside isBody isChild child (Node.mem_preorder.mpr (.inl rfl))
      · rw [bodies_mergeStatic other] at isMerged
        obtain ⟨body, isBody, rfl⟩ := List.mem_map.mp isMerged
        rcases mem_mergeSiblings rfl isPart with ⟨child, isChild, -, rfl⟩ | ⟨children, html, rfl, isRun⟩
        · exact inductionHypothesis body isBody child isChild (inside isBody isChild) inPart
        · exact isMergedVisit_of_isStaticRun isRun inPart

/-- No block stands inside a static node. -/
theorem countP_preorder_of_isStatic {node : Node} (static : isStatic node = true) :
    node.preorder.countP Node.isStaticBlock = 0 := by
  rw [List.countP_eq_zero]
  intro part member isBlock
  cases part with
  | staticBlock children html =>
      have kind := nodeType_of_isStatic static member
      simp [Node.nodeType] at kind
  | _ => contradiction

/-- No block stands among static siblings. -/
theorem countP_preorderAll_of_allStatic {nodes : List Node} (static : allStatic nodes = true) :
    (preorderAll nodes).countP Node.isStaticBlock = 0 := by
  induction nodes with
  | nil => rfl
  | cons node rest inductionHypothesis =>
      rw [allStatic, Bool.and_eq_true] at static
      rw [preorderAll, List.countP_append, countP_preorder_of_isStatic static.1,
        inductionHypothesis static.2]

/-- A run gives one static block, unless it is empty. -/
theorem countP_staticBlockOf {run : List Node} (static : allStatic run = true) :
    (preorderAll (staticBlockOf run)).countP Node.isStaticBlock = (staticBlockOf run).length := by
  have inside : (preorderAll run.reverse).countP Node.isStaticBlock = 0 :=
    countP_preorderAll_of_allStatic (by simpa using static)
  unfold staticBlockOf
  split
  · rfl
  · rw [preorderAll, preorderAll, Node.preorder, List.append_nil, List.countP_cons, inside]
    rfl

/-- A static sibling counts if it opens a run. -/
theorem siblingRuns_static {node : Node} (static : isStatic node = true) (inRun : Bool)
    (rest : List Node) :
    siblingRuns inRun (node :: rest) = (if inRun then 0 else 1) + siblingRuns true rest := by
  rw [siblingRuns, if_pos static]

/-- A sibling that data may change counts the runs inside it. -/
theorem siblingRuns_dynamic {node : Node} (dynamic : isStatic node = false) (inRun : Bool)
    (rest : List Node) :
    siblingRuns inRun (node :: rest) = staticRuns node + siblingRuns false rest := by
  rw [siblingRuns, if_neg (by simp [dynamic])]

mutual

/-- Merging makes one static block for each run that is counted. -/
theorem countP_mergeStatic : ∀ node : Node,
    (mergeStatic node).preorder.countP Node.isStaticBlock =
      node.preorder.countP Node.isStaticBlock + staticRuns node
  | .root children _ => countP_mergeSiblings [] children rfl
  | .doctype _ _ => rfl
  | .text _ _ => rfl
  | .interpolated _ _ => rfl
  | .element _ _ children _ => countP_mergeSiblings [] children rfl
  | .loop _ _ body _ => countP_mergeSiblings [] body rfl
  | .branch branch => countP_mergeSiblings [] branch.body rfl
  | .chain branches _ => countP_mergeBranches branches
  | .staticBlock _ _ => rfl

/-- The run before the siblings is not counted again. -/
theorem countP_mergeSiblings : ∀ run nodes : List Node, allStatic run = true →
    (preorderAll (mergeSiblings run nodes)).countP Node.isStaticBlock =
      (preorderAll nodes).countP Node.isStaticBlock + siblingRuns (!run.isEmpty) nodes +
        (staticBlockOf run).length
  | run, [], static => by
      rw [mergeSiblings, countP_staticBlockOf static, siblingRuns]
      exact (Nat.zero_add _).symm
  | run, node :: rest, static => by
      cases kind : isStatic node with
      | true =>
          have later := countP_mergeSiblings (node :: run) rest (by rw [allStatic, kind, static]; rfl)
          have one : (staticBlockOf (node :: run)).length = 1 := rfl
          have ended : (if (!run.isEmpty) = true then 0 else 1) + (staticBlockOf run).length = 1 := by
            cases run <;> rfl
          rw [mergeSiblings_static kind, later, preorderAll, List.countP_append,
            countP_preorder_of_isStatic kind, siblingRuns_static kind, one, List.isEmpty_cons,
            Bool.not_false]
          omega
      | false =>
          have later : (preorderAll (mergeSiblings [] rest)).countP Node.isStaticBlock =
              (preorderAll rest).countP Node.isStaticBlock + siblingRuns false rest :=
            countP_mergeSiblings [] rest rfl
          rw [mergeSiblings_dynamic kind, preorderAll_append, List.countP_append,
            countP_staticBlockOf static, preorderAll, List.countP_append, countP_mergeStatic node,
            later, preorderAll, List.countP_append, siblingRuns_dynamic kind]
          omega

/-- Merging branches adds a block for every run. -/
theorem countP_mergeBranches : ∀ branches : List (Branch Node),
    (preorderBodies (mergeBranches branches)).countP Node.isStaticBlock =
      (preorderBodies branches).countP Node.isStaticBlock + branchRuns branches
  | [] => rfl
  | branch :: rest => by
      have here : (preorderAll (mergeSiblings [] branch.body)).countP Node.isStaticBlock =
          (preorderAll branch.body).countP Node.isStaticBlock + siblingRuns false branch.body :=
        countP_mergeSiblings [] branch.body rfl
      rw [mergeBranches, preorderBodies, preorderBodies, List.countP_append, List.countP_append, here,
        countP_mergeBranches rest, branchRuns]
      omega

end

/-- Generating logs no merging. -/
theorem mergedStatic_notMem_generating (options : Options) (name : String) (template : Node)
    (blocks : Nat) : .mergedStatic blocks ∉ Trace.generating options name template := by
  unfold Trace.generating Trace.stage
  split <;> simp

/-- What is logged when a folded template is merged. -/
theorem mergedStatic_mem_folding {options : Options} {node folded : Node}
    (success : fold options.strict node = .ok folded) (name : String) (blocks : Nat) :
    .mergedStatic blocks ∈ Trace.folding options name node ↔ blocks = staticRuns folded := by
  simp [Trace.folding, Trace.stage, success, mergedStatic_notMem_generating]

/-- Merging loses nothing, and its blocks are the longest static runs. -/
theorem mergeStatic_canonical (node : Node) (plain : ∀ part ∈ node.preorder, part.isStaticBlock = false) :
    (mergeStatic node).spliced = [node] ∧
      (∀ children html, .staticBlock children html ∈ (mergeStatic node).preorder →
        IsStaticRun children html) ∧
      (∀ visit ∈ (mergeStatic node).visits [],
        (∀ outer ∈ visit.node :: visit.around, outer.isStaticBlock = false) →
          ∀ siblings ∈ visit.node.bodies, AreMerged siblings) ∧
      staticRuns node = (mergeStatic node).preorder.countP Node.isStaticBlock ∧
      ∀ options name template, fold options.strict template = .ok node → ∀ blocks,
        .mergedStatic blocks ∈ Trace.folding options name template ↔
          blocks = (mergeStatic node).preorder.countP Node.isStaticBlock := by
  have counted : staticRuns node = (mergeStatic node).preorder.countP Node.isStaticBlock := by
    have before : node.preorder.countP Node.isStaticBlock = 0 := by
      simpa [List.countP_eq_zero] using plain
    rw [countP_mergeStatic, before, Nat.zero_add]
  refine ⟨?_, ?_, ?_, counted, ?_⟩
  · rw [spliced_mergeStatic, spliced_of_noStaticBlocks node plain]
  · intro children html member
    rw [← Node.map_node_visits []] at member
    obtain ⟨visit, visited, isBlock⟩ := List.mem_map.mp member
    exact (isMergedVisit_mergeStatic plain visited).block children html isBlock
  · intro visit visited
    exact (isMergedVisit_mergeStatic plain visited).lists
  · intro options name template success blocks
    rw [mergedStatic_mem_folding success, counted]

/-- Static runs at every level of a template. -/
def staticRunsAround (conditional : List Node) : Node :=
  .root
    ([.text "a" .stub, .element "p" [] [.text "b" .stub] .stub,
      .element "div" [] [.text "c" .stub, .interpolated [.variable "x"] .stub, .text "d" .stub] .stub,
      .loop "item" "items" [.element "br" [] [] .stub, .text "e" .stub] .stub] ++ conditional ++
     [.branch ⟨.elseCase, none, [.text "g" .stub, .text "h" .stub], .stub⟩]) .stub

/-- The branches of a conditional, one of them with static content. -/
def conditionalBranches : List (Branch Node) :=
  [⟨.ifCase, some "y", [.text "f" .stub], .stub⟩, ⟨.elseCase, none, [], .stub⟩]

/-- A template with static runs at every level merges so. -/
theorem mergeStatic_canonical_staticRunsAround :
    let node := staticRunsAround [.chain conditionalBranches .stub]
    let template := staticRunsAround (conditionalBranches.map .branch)
    (∀ part ∈ node.preorder, part.isStaticBlock = false) ∧
      (mergeStatic node).spliced = [node] ∧
      (∀ children html, .staticBlock children html ∈ (mergeStatic node).preorder →
        IsStaticRun children html) ∧
      (∀ visit ∈ (mergeStatic node).visits [],
        (∀ outer ∈ visit.node :: visit.around, outer.isStaticBlock = false) →
          ∀ siblings ∈ visit.node.bodies, AreMerged siblings) ∧
      (mergeStatic node).preorder.countP Node.isStaticBlock = 6 ∧
      fold Options.lenient.strict template = .ok node ∧
      .mergedStatic 6 ∈ Trace.folding .lenient "render" template := by
  intro node template
  have plain : ∀ part ∈ node.preorder, part.isStaticBlock = false := by decide
  have folded : fold Options.lenient.strict template = .ok node := rfl
  obtain ⟨spliced, blocks, lists, counted, logged⟩ := mergeStatic_canonical node plain
  have six : (mergeStatic node).preorder.countP Node.isStaticBlock = 6 := counted.symm.trans rfl
  exact ⟨plain, spliced, blocks, lists, six, folded,
    (logged .lenient "render" template folded 6).mpr six.symm⟩

end HtmlTemplate.Template
