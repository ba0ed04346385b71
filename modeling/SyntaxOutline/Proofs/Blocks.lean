import SyntaxOutline.Proofs.Grafts
import SyntaxOutline.Proofs.MachineLines

/-!
# The block of a tree within an outline

The outline of a tree is found again in the outline of every greater tree, in
one piece. It is only set off: on each of its lines some more blanks stand
after the number field, and on all of them equally many, namely two for every
level between the two roots. Nothing that a line says depends on where the
line stands, and no number is so wide that it would take part in the
indentation, since the blanks of a number field are counted by its digits
alone.

So there are three ways to come by the lines of a tree: as an outline of its
own, where the root is written by itself, as a visit that begins at some
depth, and as a block within another outline. For the block everything rests
on the walk through the greater tree, which goes through the inner one without
a break and leaves it for what stands after it
(`Arena.IsForest.exists_visits_eq`).
-/

namespace SyntaxOutline

theorem blanks_add (count more : Nat) : blanks (count + more) = blanks count ++ blanks more := by
  unfold blanks
  rw [← List.replicate_append_replicate, String.ofList_append]

namespace Line

/-- The line so many levels deeper. -/
def deepen (levels : Nat) (line : Line) : Line :=
  { line with depth := levels + line.depth }

/-- **Whether a text is that of a line set off by some blanks**, which stand right after the number
field. -/
def IsSetOff (line : Line) (count : Nat) (text : String) : Prop :=
  ∃ rest, line.text = numberField line.number ++ rest ∧
    text = numberField line.number ++ blanks count ++ rest

/-- A line that stands deeper is set off by two blanks for each level. -/
theorem isSetOff_deepen (line : Line) (levels : Nat) :
    line.IsSetOff (2 * levels) (line.deepen levels).text := by
  have hindentation : indentation (levels + line.depth)
      = blanks (2 * levels) ++ indentation line.depth := by
    rw [indentation, Nat.mul_add, blanks_add]
    rfl
  refine ⟨indentation line.depth ++ line.heading ++ decorationPart line.decoration ++
    labelPart line.label ++ addressPart line.address, ?_, ?_⟩
  · simp only [text, String.append_assoc]
  · show numberField line.number ++ indentation (levels + line.depth) ++ line.heading ++
      decorationPart line.decoration ++ labelPart line.label ++ addressPart line.address = _
    simp only [hindentation, String.append_assoc]

end Line

namespace Printer

/-- **What becomes of a printer that writes lines**, one by one, and flushes its sink afterwards if
it is to. A sink that takes everything has got their bytes. -/
structure Writes (printer : Printer) (lines : List Line) (flushes : Bool) (printed : Printed) :
    Prop where
  ended : (printed.outcome, printed.printer) = conclude ((do
    writeLines lines
    if flushes then flush) printer)
  of_takesAll : printer.sink.TakesAll →
    printed.outcome = .ok () ∧
    printed.printer.sink.contents = printer.sink.contents ++ Line.bytes lines ∧
    printed.printer.lines = printer.lines + lines.length ∧
    printed.printer.sink.flushes = printer.sink.flushes + if flushes then 1 else 0

end Printer

namespace Arena

variable {arena : Arena} {inner root : Handle}

/-- **Whether a line is the line of a node** under its base label. -/
def IsLineOf (arena : Arena) (line : Line) (node : Handle) : Prop :=
  ∃ heading, arena.baseLabel node = .ok heading ∧ arena.line node heading line.depth = .ok line

/-- A tree whose root stands deeper has the same lines, as much deeper. -/
theorem treeLines_add (arena : Arena) (root : Handle) (levels depth : Nat) :
    arena.treeLines root (levels + depth)
      = (arena.treeLines root depth).map (Line.deepen levels) := by
  unfold treeLines
  rw [Tree.visits_add, List.map_map, List.map_map]
  rfl

namespace IsForest

/-- On a walk through a tree each line is the line of the node that is met. -/
theorem isLineOf_lineOf (hforest : arena.IsForest) {visit : Handle × Nat} (h : visit.1 ∈ arena) :
    arena.IsLineOf (arena.lineOf visit.1 (arena.headingOf visit.1) visit.2) visit.1 :=
  ⟨_, baseLabel_eq_ok h, hforest.line_eq_ok h _ visit.2⟩

/-- **The lines of a tree are one block of the lines of a greater one**, with the lines of what
stands before its root in front of it, and those of what stands after it behind. -/
theorem exists_treeLines_eq (hforest : arena.IsForest) (h : root ∈ arena)
    (hinner : inner ∈ (arena.tree root).preorder) (depth : Nat) :
    ∃ before after,
      arena.treeLines root depth = before
        ++ arena.treeLines inner (depth + (arena.level inner - arena.level root)) ++ after ∧
      (∀ line ∈ before, ∃ node, arena.IsLineOf line node ∧ arena.Before node inner) ∧
      ∀ line ∈ after, ∃ node, arena.IsLineOf line node ∧ arena.After node inner := by
  obtain ⟨before, after, hvisits, -, hfirst, hlast⟩ :=
    hforest.exists_visits_eq hforest h hinner (hforest.sameBut_self h) depth
  have hmem : ∀ visit ∈ (arena.tree root).visits depth, visit.1 ∈ arena :=
    fun _ hvisit => hforest.mem_of_mem_visits h hvisit
  rw [hvisits] at hmem
  refine ⟨before.map fun visit => arena.lineOf visit.1 (arena.headingOf visit.1) visit.2,
    after.map fun visit => arena.lineOf visit.1 (arena.headingOf visit.1) visit.2, ?_, ?_, ?_⟩
  · rw [treeLines, hvisits, List.map_append, List.map_append, treeLines]
  · intro line hline
    obtain ⟨visit, hvisit, rfl⟩ := List.mem_map.1 hline
    refine ⟨visit.1, hforest.isLineOf_lineOf (hmem visit ?_), hfirst visit hvisit⟩
    exact List.mem_append_left _ (List.mem_append_left _ hvisit)
  · intro line hline
    obtain ⟨visit, hvisit, rfl⟩ := List.mem_map.1 hline
    exact ⟨visit.1, hforest.isLineOf_lineOf (hmem visit (List.mem_append_right _ hvisit)),
      hlast visit hvisit⟩

end IsForest

/-- A job about a node that is there writes its lines. -/
theorem IsForest.run_writes (hforest : arena.IsForest) {job : Job} (h : job.handle ∈ arena)
    (threshold : Threshold) (printer : Printer) :
    printer.Writes (job.lines arena) job.flushes (printer.run threshold arena job) where
  ended := by rw [Printer.run_eq hforest job h, Job.script, Job.lines, if_pos h]
  of_takesAll htakes := Printer.run_of_takesAll htakes hforest job h threshold

/-- **The outline of a tree is one block in the outline of every greater tree.** The block has a
line for each node of the inner tree and consists of the lines that a visit to its root writes at
the depth at which the root stands below the greater one. Before it there are only lines of nodes
above the root and of trees of elder siblings, of the root or of a node above it, and after it only
lines of trees of younger siblings. At whatever depth such a visit begins, its lines are those of
the outline of the inner tree, each with two blanks more for each level right after its number
field; at depth zero they are those of the outline itself.

What a machine does for a job is to write the lines that are told of here: for a print it always
does, and for a visit or a walk if it has room for them. At a sink that takes everything that is the
one condition; otherwise the program stops. Where calculations wrap, the lines are first set off
anew, by what is left of their depths. -/
theorem outline_holds_block (hreach : arena.Reachable) (h : root ∈ arena)
    (hinner : inner ∈ arena.subtree root) :
    ∃ size deep top,
      arena.subtreeSize inner = .ok size ∧ arena.depth inner = .ok deep ∧
      arena.depth root = .ok top ∧ top ≤ deep ∧
      (∃ before after,
        (Job.printTree root).lines arena
          = before ++ (Job.visit inner (deep - top)).lines arena ++ after ∧
        (∀ line ∈ before, ∃ node, arena.IsLineOf line node ∧ arena.Before node inner) ∧
        ∀ line ∈ after, ∃ node, arena.IsLineOf line node ∧ arena.After node inner) ∧
      (∀ depth,
        ((Job.visit inner depth).lines arena).length = size ∧
        List.Forall₂ (fun own other => own.IsSetOff (2 * depth) other.text)
          ((Job.printTree inner).lines arena) ((Job.visit inner depth).lines arena)) ∧
      (Job.visit inner 0).lines arena = (Job.printTree inner).lines arena ∧
      ∀ (machine : Machine) (job : Job), job.handle ∈ arena → job.depth < machine.words →
        ∀ threshold (printer : Printer),
          (job.flushes = true ∨ (∀ line ∈ job.lines arena, machine.Holds line) →
            ∃ printed, machine.run threshold arena printer job = some printed ∧
              printer.Writes (job.lines arena) job.flushes printed) ∧
          (job.flushes = false → printer.sink.TakesAll →
            machine.run threshold arena printer job
              = if ∀ line ∈ (job.lines arena).map machine.setOff, machine.Holds line then
                  some ⟨.ok (), printer.advance
                    (Line.bytes ((job.lines arena).map machine.setOff))
                    (job.lines arena).length, [], []⟩
                else none) := by
  have hforest := hreach.isForest
  rw [hforest.mem_subtree_iff h] at hinner
  have hmem := hforest.mem_of_mem_preorder_tree h hinner
  have hroot : (Job.printTree root).lines arena = arena.treeLines root 0 := if_pos h
  have hown : (Job.printTree inner).lines arena = arena.treeLines inner 0 := if_pos hmem
  have hvisit (depth : Nat) :
      (Job.visit inner depth).lines arena = arena.treeLines inner depth := if_pos hmem
  refine ⟨_, _, _, hforest.subtreeSize_eq_ok hmem, depth_eq_ok hmem, depth_eq_ok h,
    hforest.level_le_of_mem_preorder_tree h hinner, ?_, fun depth => ⟨?_, ?_⟩, ?_,
    fun machine job hjob hdepth threshold printer => ⟨fun hroom => ?_, fun hflushes htakes =>
      Printer.machine_run_of_capacity_none hforest hjob hflushes hdepth htakes.1 threshold⟩⟩
  · have hblock := hforest.exists_treeLines_eq h hinner 0
    rw [Nat.zero_add] at hblock
    rw [hroot, hvisit]
    exact hblock
  · rw [hvisit, treeLines, List.length_map, Tree.length_visits]
  · rw [hown, hvisit, ← Nat.add_zero depth, treeLines_add, List.forall₂_map_right_iff,
      List.forall₂_same]
    exact fun line _ => line.isSetOff_deepen depth
  · rw [hvisit, hown]
  · refine ⟨printer.run threshold arena job, ?_, hforest.run_writes hjob threshold printer⟩
    obtain hprints | hlines := hroom
    · exact Printer.machine_run_of_flushes hprints threshold printer
    · exact Printer.machine_run_of_holds hforest hdepth hlines threshold printer

/-- The statement and its literal are a block in the outline of what is above them, with the line of
the block above in front and that of the literal beside behind. In words of eight bits they can be
visited at depth one, but not at depth sixty-four. -/
theorem outline_holds_block_stock :
    ((Job.printTree ⟨7, 3⟩).lines stock).map Line.text
        = ["4:  Block", "2:    Return", "1:      Int: 1", "3:    Int: 2"] ∧
      ((Job.printTree ⟨7, 1⟩).lines stock).map Line.text = ["2:  Return", "1:    Int: 1"] ∧
      (∃ before after,
        (Job.printTree ⟨7, 3⟩).lines stock
          = before ++ (Job.visit ⟨7, 1⟩ 1).lines stock ++ after ∧
        (∀ line ∈ before, ∃ node, stock.IsLineOf line node ∧ stock.Before node ⟨7, 1⟩) ∧
        ∀ line ∈ after, ∃ node, stock.IsLineOf line node ∧ stock.After node ⟨7, 1⟩) ∧
      List.Forall₂ (fun own other => own.IsSetOff 2 other.text)
        ((Job.printTree ⟨7, 1⟩).lines stock) ((Job.visit ⟨7, 1⟩ 1).lines stock) ∧
      (∃ printed, octet.run .off stock (.start .unbounded) (.visit ⟨7, 1⟩ 1) = some printed ∧
        printed.printer.sink.contents = "2:    Return\n1:      Int: 1\n".toUTF8) ∧
      octet.run .off stock (.start .unbounded) (.visit ⟨7, 1⟩ 64) = none := by
  have hreach : stock.Reachable := (Reachable.empty 7).applyAll _
  have hinner : (⟨7, 3⟩ : Handle) ∈ stock.ancestors ⟨7, 1⟩ := by decide
  have htakes : (Printer.start .unbounded).sink.TakesAll := ⟨rfl, rfl⟩
  have hbytes : Line.bytes ((Job.visit ⟨7, 1⟩ 1).lines stock)
      = "2:    Return\n1:      Int: 1\n".toUTF8 := congrArg String.toUTF8 (by decide +kernel)
  obtain ⟨size, deep, top, -, hdeep, htop, -, hblock, hvisit, -, hrun⟩ :=
    outline_holds_block hreach (by decide) hinner
  cases (show stock.depth ⟨7, 1⟩ = .ok 1 by rfl).symm.trans hdeep
  cases (show stock.depth ⟨7, 3⟩ = .ok 0 by rfl).symm.trans htop
  refine ⟨by decide +kernel, by decide +kernel, hblock, (hvisit 1).2, ?_, ?_⟩
  · obtain ⟨printed, hprinted, hwrites⟩ := (hrun octet (.visit ⟨7, 1⟩ 1) (by decide) (by decide) .off
      (.start .unbounded)).1 (Or.inr (by decide +kernel))
    exact ⟨printed, hprinted, (hwrites.of_takesAll htakes).2.1.trans
      ((congrArg (ByteArray.empty ++ ·) hbytes).trans ByteArray.empty_append)⟩
  · exact ((hrun octet (.visit ⟨7, 1⟩ 64) (by decide) (by decide) .off (.start .unbounded)).2 rfl
      htakes).trans (if_neg (by decide +kernel))

end Arena

end SyntaxOutline
