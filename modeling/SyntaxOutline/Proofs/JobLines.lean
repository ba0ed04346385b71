import SyntaxOutline.Outline.Printer
import SyntaxOutline.Proofs.Traversal

/-!
# The lines of a job

A printer can be asked to print a tree, to write it as if it stood at a
depth, or to write what stands below a node. Whichever it is, the job comes
down to a list of lines (`Job.lines`), which are written one after the other,
and for a print to a flush at the end. This module says which lines those
are, and that a printer does just that (`Printer.run_eq`); how much of it a
sink takes is another matter.

The lines can be written down without any fault, since in a forest nothing
that a line tells has to be looked for in vain: the node is there, and so is
the node that decorates it. The one thing that can go wrong before a line is
written is that the handle given to the job is unknown, and then nothing at
all happens (`Printer.run_of_not_mem`).
-/

namespace SyntaxOutline

/-- **Lines as a text**, each with a newline after it. -/
def unlines : List String → String
  | [] => ""
  | line :: rest => line ++ "\n" ++ unlines rest

theorem unlines_append (first second : List String) :
    unlines (first ++ second) = unlines first ++ unlines second := by
  induction first with
  | nil => rw [unlines, List.nil_append, String.empty_append]
  | cons line rest ih =>
    rw [List.cons_append, unlines, unlines, ih, ← String.append_assoc]

namespace Line

/-- The bytes that lines come to when they are written one after the other. -/
def bytes (lines : List Line) : ByteArray :=
  (unlines (lines.map text)).toUTF8

@[simp] theorem bytes_nil : bytes [] = .empty := rfl

theorem bytes_append (first second : List Line) :
    bytes (first ++ second) = bytes first ++ bytes second := by
  unfold bytes
  rw [List.map_append, unlines_append, String.toUTF8_eq_toByteArray, String.toByteArray_append]
  rfl

/-- The first line and its newline come first. -/
theorem bytes_cons (line : Line) (rest : List Line) :
    bytes (line :: rest) = (line.text ++ "\n").toUTF8 ++ bytes rest := by
  unfold bytes
  rw [List.map_cons, unlines, String.toUTF8_eq_toByteArray, String.toByteArray_append]
  rfl

end Line

namespace Arena

variable {arena : Arena} {handle root : Handle}

/-- The number of a node. -/
def numberOf (arena : Arena) (handle : Handle) : Nat :=
  (arena.node? handle).elim 0 Node.number

/-- What stands for a node in an outline, if it is not given a heading of its own. -/
def headingOf (arena : Arena) (handle : Handle) : String :=
  (arena.node? handle).elim "" (fun node => node.kind.baseLabel)

/-- **The line of a node** under a heading, at a depth. -/
def lineOf (arena : Arena) (handle : Handle) (heading : String) (depth : Nat) : Line where
  number := arena.numberOf handle
  depth := depth
  heading := heading
  decoration := (arena.decoration? handle).map arena.numberOf
  label := (arena.node? handle).elim "" Node.label
  address := (arena.node? handle).elim none (fun node => node.kind.frameOffset)

/-- **The lines of a tree** whose root stands at a depth, each under the node's own heading. -/
def treeLines (arena : Arena) (root : Handle) (depth : Nat) : List Line :=
  ((arena.tree root).visits depth).map
    (fun visit => arena.lineOf visit.1 (arena.headingOf visit.1) visit.2)

/-- The lines of a tree whose root has a heading of its own. -/
def outlineLines (arena : Arena) (heading : String) (root : Handle) : List Line :=
  arena.lineOf root heading 0 :: (arena.treeLines root 0).tail

theorem lineOf_of_node? {node : Node} (h : arena.node? handle = some node) (heading : String)
    (depth : Nat) :
    arena.lineOf handle heading depth
      = ⟨node.number, depth, heading, node.decoration.map arena.numberOf, node.label,
          node.kind.frameOffset⟩ := by
  rw [lineOf, decoration?_of_node? h, numberOf, h]
  rfl

theorem number_eq_ok (h : handle ∈ arena) : arena.number handle = .ok (arena.numberOf handle) := by
  obtain ⟨node, hnode⟩ := exists_node? h
  rw [number, numberOf, node_eq_ok_iff.2 hnode, hnode]
  rfl

theorem baseLabel_eq_ok (h : handle ∈ arena) :
    arena.baseLabel handle = .ok (arena.headingOf handle) := by
  obtain ⟨node, hnode⟩ := exists_node? h
  rw [baseLabel, kind, headingOf, node_eq_ok_iff.2 hnode, hnode]
  rfl

/-- **A line never fails for a node of a forest**: what decorates it is there to be named. -/
theorem IsForest.line_eq_ok (hforest : arena.IsForest) (h : handle ∈ arena) (heading : String)
    (depth : Nat) : arena.line handle heading depth = .ok (arena.lineOf handle heading depth) := by
  obtain ⟨node, hnode⟩ := exists_node? h
  have hdecoration := decoration?_of_node? hnode
  rw [line, lineOf_of_node? hnode, node_bind_eq_ok_iff]
  refine ⟨node, hnode, ?_⟩
  cases htarget : node.decoration with
  | none => rfl
  | some target =>
    have hnumber := number_eq_ok (hforest.decoration_mem (hdecoration.trans htarget))
    dsimp only
    rw [hnumber]
    rfl

theorem line_of_not_mem (h : handle ∉ arena) (heading : String) (depth : Nat) :
    arena.line handle heading depth = .error (.unknownNode handle) := by
  rw [line, node_of_not_mem h]
  rfl

theorem IsForest.treeLines_eq (hforest : arena.IsForest) (h : root ∈ arena) (depth : Nat) :
    arena.treeLines root depth
      = arena.lineOf root (arena.headingOf root) depth :: (arena.treeLines root depth).tail := by
  rw [treeLines, hforest.visits_tree_eq h, List.map_cons, List.tail_cons]

/-- The lines of a tree begin with the numbers of its nodes. -/
theorem map_number_treeLines (arena : Arena) (root : Handle) (depth : Nat) :
    (arena.treeLines root depth).map Line.number
      = (arena.tree root).preorder.map arena.numberOf := by
  rw [treeLines, List.map_map, ← Tree.map_fst_visits depth, List.map_map]
  rfl

theorem IsForest.map_number_outlineLines (hforest : arena.IsForest) (h : root ∈ arena)
    (heading : String) :
    (arena.outlineLines heading root).map Line.number
      = (arena.tree root).preorder.map arena.numberOf := by
  rw [← map_number_treeLines arena root 0, hforest.treeLines_eq h]
  rfl

end Arena

namespace Printer

variable {arena : Arena} {node root : Handle}

/-- Writes lines one after the other, up to the first that is refused. -/
def writeLines (lines : List Line) : Printing Unit := forM lines writeLine

theorem emit_eq (hforest : arena.IsForest) (h : node ∈ arena) (heading : String) (depth : Nat) :
    emit arena heading node depth = writeLine (arena.lineOf node heading depth) := by
  rw [emit, hforest.line_eq_ok h]
  rfl

theorem emitOwn_eq (hforest : arena.IsForest) (h : node ∈ arena) (depth : Nat) :
    emitOwn arena node depth
      = writeLine (arena.lineOf node (arena.headingOf node) depth) := by
  rw [emitOwn, Arena.baseLabel_eq_ok h]
  exact emit_eq hforest h (arena.headingOf node) depth

/-- On a walk through a tree, to write each node's own line is to write the lines of the tree. -/
theorem forM_emitOwn (hforest : arena.IsForest) (h : root ∈ arena) {visits : List (Handle × Nat)}
    {depth : Nat} (hvisits : visits ⊆ (arena.tree root).visits depth) :
    forM visits (fun visit => emitOwn arena visit.1 visit.2)
      = writeLines (visits.map fun visit =>
          arena.lineOf visit.1 (arena.headingOf visit.1) visit.2) := by
  rw [writeLines, List.forM_map]
  refine forM_congr (fun visit hvisit => emitOwn_eq hforest ?_ visit.2)
  exact hforest.mem_of_mem_visits h (hvisits hvisit)

theorem visit_eq (hforest : arena.IsForest) (h : root ∈ arena) (depth : Nat) :
    visit arena root depth = writeLines (arena.treeLines root depth) := by
  rw [visit, hforest.visit_eq _ h, forM_emitOwn hforest h (List.Subset.refl _)]
  rfl

theorem walk_eq (hforest : arena.IsForest) (h : root ∈ arena) (depth : Nat) :
    walk arena root depth = writeLines (arena.treeLines root depth).tail := by
  show arena.walkChildren (arena.visit (emitOwn arena)) root depth = _
  rw [hforest.walkChildren_visit_eq _ h, forM_emitOwn hforest h (fun _ => List.mem_of_mem_tail),
    Arena.treeLines, List.map_tail]

theorem outline_eq (hforest : arena.IsForest) (h : root ∈ arena) (heading : String) :
    outline arena heading root
      = (do
          writeLines (arena.outlineLines heading root)
          flush) := by
  rw [outline, emit_eq hforest h, walk_eq hforest h, writeLines, Arena.outlineLines, writeLines,
    List.forM_cons, bind_assoc]

end Printer

namespace Job

/-- The handle that a job is about. -/
def handle : Job → Handle
  | print _ root | printTree root => root
  | visit node _ | walk node _ => node

/-- Whether a job ends with a flush. -/
def flushes : Job → Bool
  | print _ _ | printTree _ => true
  | visit _ _ | walk _ _ => false

/-- The lines of a job about a node that is there. -/
def ownLines (arena : Arena) : Job → List Line
  | print heading root => arena.outlineLines heading root
  | printTree root => arena.treeLines root 0
  | visit node depth => arena.treeLines node depth
  | walk node depth => (arena.treeLines node depth).tail

/-- **The lines of a job**, none if it is about a node that is not there. -/
def lines (arena : Arena) (job : Job) : List Line :=
  if job.handle ∈ arena then job.ownLines arena else []

/-- What a job about a node that is there comes down to. -/
def script (arena : Arena) (job : Job) : Printing Unit := do
  Printer.writeLines (job.ownLines arena)
  if job.flushes then Printer.flush

end Job

namespace Printer

variable {arena : Arena} {root : Handle}

/-- How a printer ends up, and whether it has failed. -/
def conclude : EStateM.Result Fault Printer Unit → Except Fault Unit × Printer
  | .ok _ printer => (.ok (), printer)
  | .error fault printer => (.error fault, printer)

/-- What is told of a print decides neither its outcome nor what becomes of the printer, as long as
there is no fault in telling it. -/
theorem print_eq (hforest : arena.IsForest) (h : root ∈ arena) (threshold : Threshold)
    (heading : String) (printer : Printer) :
    ((printer.print threshold arena heading root).outcome,
        (printer.print threshold arena heading root).printer)
      = conclude ((Job.print heading root).script arena printer) := by
  have hconsult : ∃ opening,
      threshold.consult .debug ((arena.number root).map .printing) = .ok opening := by
    rw [Arena.number_eq_ok h, Threshold.consult]
    split
    · exact ⟨_, rfl⟩
    · exact ⟨_, rfl⟩
  obtain ⟨opening, hopening⟩ := hconsult
  have hscript : (Job.print heading root).script arena = outline arena heading root :=
    (outline_eq hforest h heading).symm
  rw [print, hopening, hscript]
  cases outline arena heading root printer <;> rfl

/-- **A printer does what the job comes down to**, if the job is about a node that is there. -/
theorem run_eq (hforest : arena.IsForest) (job : Job) (h : job.handle ∈ arena)
    (threshold : Threshold) (printer : Printer) :
    ((printer.run threshold arena job).outcome, (printer.run threshold arena job).printer)
      = conclude (job.script arena printer) := by
  cases job with
  | print heading root => exact print_eq hforest h threshold heading printer
  | printTree root =>
    have hroot : root ∈ arena := h
    have hlines : arena.outlineLines (arena.headingOf root) root = arena.treeLines root 0 :=
      (hforest.treeLines_eq hroot 0).symm
    rw [run, printTree, Arena.baseLabel_eq_ok hroot]
    refine (print_eq hforest hroot threshold _ printer).trans ?_
    rw [Job.script, Job.script, Job.ownLines, Job.ownLines, hlines]
    rfl
  | visit node depth =>
    have hscript : (Job.visit node depth).script arena = visit arena node depth :=
      (bind_pure _).trans (visit_eq hforest h depth).symm
    rw [run, perform, hscript]
    cases visit arena node depth printer <;> rfl
  | walk node depth =>
    have hscript : (Job.walk node depth).script arena = walk arena node depth :=
      (bind_pure _).trans (walk_eq hforest h depth).symm
    rw [run, perform, hscript]
    cases walk arena node depth printer <;> rfl

theorem perform_of_error {step : Printing Unit} {printer stopped : Printer} {fault : Fault}
    (h : step printer = .error fault stopped) :
    printer.perform step = ⟨.error fault, stopped, [], []⟩ := by
  unfold perform
  rw [h]

theorem emitOwn_of_not_mem (h : root ∉ arena) (depth : Nat) (printer : Printer) :
    emitOwn arena root depth printer = .error (.unknownNode root) printer := by
  rw [emitOwn, Arena.baseLabel, Arena.kind, Arena.node_of_not_mem h]
  rfl

theorem visit_of_not_mem (h : root ∉ arena) (depth : Nat) (printer : Printer) :
    visit arena root depth printer = .error (.unknownNode root) printer :=
  bind_of_error (emitOwn_of_not_mem h depth printer)

theorem outline_of_not_mem (h : root ∉ arena) (heading : String) (printer : Printer) :
    outline arena heading root printer = .error (.unknownNode root) printer := by
  unfold outline emit
  rw [Arena.line_of_not_mem h]
  rfl

theorem print_of_not_mem (h : root ∉ arena) (threshold : Threshold) (heading : String)
    (printer : Printer) :
    printer.print threshold arena heading root
      = ⟨.error (.unknownNode root), printer, [], []⟩ := by
  have hnumber : arena.number root = .error (.unknownNode root) := by
    rw [Arena.number, Arena.node_of_not_mem h]
    rfl
  unfold print Threshold.consult
  rw [hnumber, outline_of_not_mem h]
  cases threshold.admits .debug <;> rfl

/-- **A job about a node that is not there does nothing**, and says that the node is not there. -/
theorem run_of_not_mem (job : Job) (h : job.handle ∉ arena) (threshold : Threshold)
    (printer : Printer) :
    printer.run threshold arena job = ⟨.error (.unknownNode job.handle), printer, [], []⟩ := by
  cases job with
  | print heading root => exact print_of_not_mem h threshold heading printer
  | printTree root =>
    have hnode : arena.node root = .error (.unknownNode root) :=
      Arena.node_of_not_mem h
    rw [run, printTree, Arena.baseLabel, Arena.kind, hnode]
    rfl
  | visit node depth => exact perform_of_error (visit_of_not_mem h depth printer)
  | walk node depth =>
    exact perform_of_error (Arena.walkChildren_of_not_mem h (visit arena) depth printer)

end Printer

end SyntaxOutline
