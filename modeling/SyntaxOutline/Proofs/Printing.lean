import SyntaxOutline.Proofs.JobLines
import SyntaxOutline.Proofs.Reachable

/-!
# What an outline says

Here the text of an outline is told once more, from the nodes of the tree and
without a printer (`Arena.outlineText`): the nodes in pre-order, for each the
number and a colon filled up to four characters, two blanks for each level
between the root and the node, a heading, and then whatever there is to say
of the decoration, the label and the address.

The printer arrives at its lines in another way. It hands the depth down on a
walk that goes link by link, writes the root by itself, and looks up every
decoration as it comes by. The main statement is that all this comes to the
text just told, whatever the tree: a print to a sink that takes everything
adds that text and nothing else, counts as many lines as the tree has nodes,
and flushes once.
-/

namespace SyntaxOutline

/-- Whether a sink takes all bytes and every flush. -/
def Sink.TakesAll (sink : Sink) : Prop :=
  sink.capacity = none ∧ sink.flushRefusal = none

namespace Arena

variable {arena : Arena} {handle root : Handle}

/-- **What an outline says of a node** under a heading, so many levels below the root. -/
def entryText (arena : Arena) (heading : String) (depth : Nat) (node : Node) : String :=
  let digits := node.number.repr
  digits ++ ":" ++ blanks (4 - (digits.length + 1)) ++ blanks (2 * depth) ++ heading ++
    (match node.decoration with
      | some target => "  Dec: " ++ (arena.numberOf target).repr
      | none => "") ++
    (if node.label = "" then "" else "  Label: " ++ node.label) ++
    (match node.kind with
      | .ident _ (some offset) => "  Addr: " ++ offset.repr
      | _ => "")

/-- **The text of an outline** whose root has the given heading. -/
def outlineText (arena : Arena) (heading : String) (root : Handle) : String :=
  unlines ((arena.tree root).preorder.map fun handle =>
    (arena.node? handle).elim "" fun node =>
      arena.entryText (if handle = root then heading else node.kind.baseLabel)
        (arena.level handle - arena.level root) node)

/-- A line, put together, says what an outline says of its node. -/
theorem text_lineOf {node : Node} (h : arena.node? handle = some node) (heading : String)
    (depth : Nat) :
    (arena.lineOf handle heading depth).text = arena.entryText heading depth node := by
  have hfield : numberField node.number
      = node.number.repr ++ ":" ++ blanks (4 - (node.number.repr.length + 1)) :=
    congrArg (fun count => node.number.repr ++ ":" ++ blanks count)
      (Nat.succ_sub_succ 3 node.number.repr.length).symm
  have hdecoration : Line.decorationPart (node.decoration.map arena.numberOf)
      = match node.decoration with
        | some target => "  Dec: " ++ (arena.numberOf target).repr
        | none => "" := by
    cases node.decoration <;> rfl
  have haddress : Line.addressPart node.kind.frameOffset
      = match node.kind with
        | .ident _ (some offset) => "  Addr: " ++ offset.repr
        | _ => "" := by
    cases node.kind with
    | ident symbol offset => cases offset <;> rfl
    | _ => rfl
  rw [lineOf_of_node? h]
  show numberField node.number ++ indentation depth ++ heading ++ Line.decorationPart _ ++
    Line.labelPart node.label ++ Line.addressPart node.kind.frameOffset = _
  rw [hfield, hdecoration, haddress]
  rfl

/-- **The lines of an outline are its text.** -/
theorem IsForest.outlineText_eq (hforest : arena.IsForest) (h : root ∈ arena) (heading : String) :
    arena.outlineText heading root
      = unlines ((arena.outlineLines heading root).map Line.text) := by
  have hnodup := hforest.nodup_preorder_tree h
  have hmem : ∀ node ∈ (arena.tree root).preorder, node ∈ arena := by
    intro node hnode
    exact hforest.mem_of_mem_preorder_tree h hnode
  unfold outlineText outlineLines treeLines
  rw [hforest.visits_tree h]
  rw [hforest.preorder_tree_eq h] at hnodup hmem ⊢
  refine congrArg unlines ?_
  rw [List.map_cons, List.map_cons, List.map_cons, List.map_cons, List.tail_cons, List.map_map,
    List.map_map]
  refine congrArg₂ List.cons ?_ (List.map_congr_left (fun handle hbelow => ?_))
  · obtain ⟨node, hnode⟩ := exists_node? h
    rw [text_lineOf hnode, hnode, Nat.sub_self]
    show arena.entryText (if root = root then heading else _) 0 node = _
    rw [if_pos rfl]
  · -- the root itself is not met again
    have hne : handle ≠ root := by
      intro heq
      rw [heq] at hbelow
      exact (List.nodup_cons.1 hnodup).1 hbelow
    obtain ⟨node, hnode⟩ := exists_node? (hmem handle (List.mem_cons_of_mem root hbelow))
    show _ = (arena.lineOf handle (arena.headingOf handle)
      (0 + (arena.level handle - arena.level root))).text
    rw [text_lineOf hnode, headingOf, hnode, Nat.zero_add]
    show arena.entryText (if handle = root then heading else _) _ node = _
    rw [if_neg hne]
    rfl

theorem IsForest.toUTF8_outlineText (hforest : arena.IsForest) (h : root ∈ arena)
    (heading : String) :
    (arena.outlineText heading root).toUTF8 = Line.bytes (arena.outlineLines heading root) := by
  rw [hforest.outlineText_eq h]
  rfl

/-- An outline has a line for each node of its tree. -/
theorem IsForest.length_outlineLines (hforest : arena.IsForest) (h : root ∈ arena)
    (heading : String) :
    (arena.outlineLines heading root).length = (arena.tree root).preorder.length := by
  rw [← List.length_map Line.number, hforest.map_number_outlineLines h, List.length_map]

/-- **The lists that name the nodes of each tree in pre-order**: the node itself, and then the trees
of its children in the order in which they are stored. They name what has the node among its
ancestors, and nothing twice. -/
structure IsPreorder (arena : Arena) (order : Handle → List Handle) : Prop where
  order_eq {node : Handle} : node ∈ arena →
    ∃ children, arena.children node = .ok children ∧ order node = node :: children.flatMap order
  mem_order_iff {root node : Handle} : root ∈ arena →
    (node ∈ order root ↔ root ∈ arena.ancestors node)
  nodup_order {root : Handle} : root ∈ arena → (order root).Nodup

theorem IsForest.isPreorder (hforest : arena.IsForest) :
    arena.IsPreorder (fun root => (arena.tree root).preorder) where
  order_eq h := ⟨_, children_eq_ok h, hforest.preorder_tree_eq h⟩
  mem_order_iff h := hforest.mem_preorder_tree_iff_mem_ancestors h
  nodup_order h := hforest.nodup_preorder_tree h

end Arena

namespace Printer

variable {arena : Arena} {root : Handle}

/-- A printer that has got further, by some bytes and a number of lines. -/
def advance (bytes : ByteArray) (count : Nat) (printer : Printer) : Printer :=
  ⟨{ printer.sink with contents := printer.sink.contents ++ bytes }, printer.lines + count⟩

theorem advance_advance (first second : ByteArray) (count more : Nat) (printer : Printer) :
    (printer.advance first count).advance second more
      = printer.advance (first ++ second) (count + more) := by
  unfold advance
  rw [← ByteArray.append_assoc, ← Nat.add_assoc]

theorem writeLine_of_capacity_none {printer : Printer} (h : printer.sink.capacity = none)
    (line : Line) :
    writeLine line printer = .ok () (printer.advance (line.text ++ "\n").toUTF8 1) := by
  unfold writeLine writeText
  rw [Sink.write_of_capacity_none h]
  rfl

/-- A sink without a limit gets all the lines. -/
theorem writeLines_of_capacity_none {printer : Printer} (h : printer.sink.capacity = none)
    (lines : List Line) :
    writeLines lines printer = .ok () (printer.advance (Line.bytes lines) lines.length) := by
  induction lines generalizing printer with
  | nil =>
    unfold advance
    rw [Line.bytes_nil, ByteArray.append_empty]
    rfl
  | cons line rest ih =>
    have hcapacity : (printer.advance (line.text ++ "\n").toUTF8 1).sink.capacity = none := h
    show (writeLine line >>= fun _ => writeLines rest) printer = _
    rw [bind_of_ok (writeLine_of_capacity_none h line), ih hcapacity, advance_advance,
      Line.bytes_cons, List.length_cons, Nat.add_comm 1]

theorem flush_eq_ok {printer : Printer} (h : printer.sink.flushRefusal = none) :
    flush printer = .ok () { printer with sink := printer.sink.flush.2 } := by
  unfold flush Sink.flush
  rw [h]

/-- **What a job brings about at a sink that takes everything**: all its lines, and a flush if it
ends with one. -/
theorem run_of_takesAll {printer : Printer} (h : printer.sink.TakesAll) (hforest : arena.IsForest)
    (job : Job) (hmem : job.handle ∈ arena) (threshold : Threshold) :
    (printer.run threshold arena job).outcome = .ok () ∧
      (printer.run threshold arena job).printer.sink.contents
        = printer.sink.contents ++ Line.bytes (job.lines arena) ∧
      (printer.run threshold arena job).printer.lines
        = printer.lines + (job.lines arena).length ∧
      (printer.run threshold arena job).printer.sink.flushes
        = printer.sink.flushes + if job.flushes then 1 else 0 := by
  have hrun := run_eq hforest job hmem threshold printer
  have hscript : job.script arena printer = (if job.flushes then flush else pure ())
      (printer.advance (Line.bytes (job.ownLines arena)) (job.ownLines arena).length) :=
    bind_of_ok (writeLines_of_capacity_none h.1 (job.ownLines arena))
  rw [hscript] at hrun
  rw [Job.lines, if_pos hmem]
  cases hflushes : job.flushes with
  | false =>
    rw [hflushes] at hrun
    obtain ⟨houtcome, hprinter⟩ := Prod.mk.inj hrun
    rw [houtcome, hprinter]
    exact ⟨rfl, rfl, rfl, rfl⟩
  | true =>
    rw [hflushes, if_pos rfl, flush_eq_ok (by exact h.2)] at hrun
    obtain ⟨houtcome, hprinter⟩ := Prod.mk.inj hrun
    rw [houtcome, hprinter]
    exact ⟨rfl, rfl, rfl, rfl⟩

/-- **What a print brings about at a sink that takes everything**: the text of the outline, a line
counted for each node, and a flush. -/
theorem print_of_takesAll (hforest : arena.IsForest) (h : root ∈ arena) {printer : Printer}
    (hsink : printer.sink.TakesAll) (threshold : Threshold) (heading : String) :
    (printer.print threshold arena heading root).outcome = .ok () ∧
      (printer.print threshold arena heading root).printer.sink.contents
        = printer.sink.contents ++ (arena.outlineText heading root).toUTF8 ∧
      (printer.print threshold arena heading root).printer.lines
        = printer.lines + (arena.tree root).preorder.length ∧
      (printer.print threshold arena heading root).printer.sink.flushes
        = printer.sink.flushes + 1 := by
  obtain ⟨houtcome, hcontents, hlines, hflushes⟩ :=
    run_of_takesAll hsink hforest (.print heading root) h threshold
  rw [Job.lines, if_pos (by exact h)] at hcontents hlines
  rw [hforest.toUTF8_outlineText h, ← hforest.length_outlineLines h heading]
  exact ⟨houtcome, hcontents, hlines, hflushes⟩

/-- **A rendered outline is the text of the outline**, and reading its bytes never fails. -/
theorem render_eq (hforest : arena.IsForest) (h : root ∈ arena) (threshold : Threshold) :
    (arena.render threshold root).1 = .ok (arena.outlineText (arena.headingOf root) root) := by
  have hsink : (start .unbounded).sink.TakesAll := ⟨rfl, rfl⟩
  obtain ⟨houtcome, hcontents, -, -⟩ := run_of_takesAll hsink hforest (.printTree root) h threshold
  change ((start .unbounded).printTree threshold arena root).outcome = _ at houtcome
  change ((start .unbounded).printTree threshold arena root).printer.sink.contents = _ at hcontents
  have hlines : Line.bytes ((Job.printTree root).lines arena)
      = (arena.outlineText (arena.headingOf root) root).toUTF8 := by
    rw [Job.lines, if_pos (by exact h), hforest.outlineText_eq h]
    exact congrArg Line.bytes (hforest.treeLines_eq h 0)
  have hempty : (start .unbounded).sink.contents = .empty := rfl
  rw [hlines, hempty, ByteArray.empty_append] at hcontents
  unfold Arena.render
  simp only [houtcome, hcontents, Utf8.decode_toUTF8]

/-- A rendered outline is the lines of the tree. -/
theorem render_eq_treeLines (hforest : arena.IsForest) (h : root ∈ arena) (threshold : Threshold) :
    (arena.render threshold root).1
      = .ok (unlines ((arena.treeLines root 0).map Line.text)) := by
  rw [render_eq hforest h, hforest.outlineText_eq h, hforest.treeLines_eq h]
  rfl

/-- **A print writes the outline of the tree**, whatever the tree, and nothing else. To a sink that
takes everything it adds the text of the outline, one line for each node, and it flushes once;
rendering makes the same text. Of a handle that is not there nothing is written. -/
theorem print_writes_outline (hreach : arena.Reachable) {printer : Printer}
    (hsink : printer.sink.TakesAll) (threshold : Threshold) (heading : String) (root : Handle) :
    (root ∈ arena →
      (printer.print threshold arena heading root).outcome = .ok () ∧
      (printer.print threshold arena heading root).printer.sink.contents
        = printer.sink.contents ++ (arena.outlineText heading root).toUTF8 ∧
      (printer.print threshold arena heading root).printer.sink.flushes
        = printer.sink.flushes + 1 ∧
      (∃ count, arena.subtreeSize root = .ok count ∧
        (printer.print threshold arena heading root).printer.lines = printer.lines + count) ∧
      (∃ label, arena.baseLabel root = .ok label ∧
        (arena.render threshold root).1 = .ok (arena.outlineText label root))) ∧
    (root ∉ arena →
      printer.print threshold arena heading root
        = ⟨.error (.unknownNode root), printer, [], []⟩ ∧
      printer.printTree threshold arena root = ⟨.error (.unknownNode root), printer, [], []⟩ ∧
      arena.render threshold root = (.error (.unknownNode root), [])) ∧
    arena.IsPreorder (fun node => (arena.tree node).preorder) ∧
    (∀ node ∈ arena,
      arena.number node = .ok (arena.numberOf node) ∧
      arena.depth node = .ok (arena.level node) ∧
      ∀ target, arena.decoration? node = some target → target ∈ arena) := by
  have hforest := hreach.isForest
  refine ⟨fun h => ?_, fun h => ?_, hforest.isPreorder, fun node hnode => ?_⟩
  · have hlength := hforest.length_outlineLines h heading
    obtain ⟨houtcome, hcontents, hlines, hflushes⟩ := run_of_takesAll hsink hforest
      (.print heading root) h threshold
    rw [Job.lines, if_pos (by exact h)] at hcontents hlines
    refine ⟨houtcome, ?_, hflushes, ?_, ?_⟩
    · rw [hforest.outlineText_eq h]
      exact hcontents
    · refine ⟨_, hforest.subtreeSize_eq_ok h, ?_⟩
      rw [← hlength]
      exact hlines
    · exact ⟨_, Arena.baseLabel_eq_ok h, render_eq hforest h threshold⟩
  · refine ⟨print_of_not_mem h threshold heading printer,
      run_of_not_mem (.printTree root) h threshold printer, ?_⟩
    have hprint : (start .unbounded).printTree threshold arena root
        = ⟨.error (.unknownNode root), start .unbounded, [], []⟩ :=
      run_of_not_mem (.printTree root) h threshold (start .unbounded)
    unfold Arena.render
    rw [hprint]
    rfl
  · exact ⟨Arena.number_eq_ok hnode, Arena.depth_eq_ok hnode,
      fun _ htarget => hforest.decoration_mem htarget⟩

/-- An arena with an assignment that has a label, and under it a literal and an identifier that has
an address and is decorated with the assignment. A link that would close a cycle was refused. -/
def adorned : Arena :=
  (Arena.empty 3).applyAll [.add (.ident ⟨"x"⟩ none), .add (.int ⟨"5"⟩),
    .addOver .assign [⟨3, 0⟩, ⟨3, 1⟩], .attach ⟨3, 0⟩ ⟨3, 2⟩, .decorate ⟨3, 0⟩ ⟨3, 2⟩,
    .setLabel ⟨3, 2⟩ "top", .setFrameOffset ⟨3, 0⟩ 4]

theorem print_writes_outline_adorned :
    ((start .unbounded).print .off adorned "Root" ⟨3, 2⟩).outcome = .ok () ∧
      ((start .unbounded).print .off adorned "Root" ⟨3, 2⟩).printer.sink.contents
        = "3:  Root  Label: top\n1:    Id: x  Dec: 3  Addr: 4\n2:    Int: 5\n".toUTF8 := by
  have htext : adorned.outlineText "Root" ⟨3, 2⟩
      = "3:  Root  Label: top\n1:    Id: x  Dec: 3  Addr: 4\n2:    Int: 5\n" := by
    decide +kernel
  have hreach : adorned.Reachable := (Arena.Reachable.empty 3).applyAll _
  have hsink : (start .unbounded).sink.TakesAll := ⟨rfl, rfl⟩
  obtain ⟨houtcome, hcontents, -⟩ :=
    (print_writes_outline hreach hsink .off "Root" ⟨3, 2⟩).1 (by decide)
  refine ⟨houtcome, ?_⟩
  rw [hcontents, htext]
  rfl

end Printer

end SyntaxOutline
