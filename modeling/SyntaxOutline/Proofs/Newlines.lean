import Mathlib.Algebra.GroupWithZero.Nat
import SyntaxOutline.Proofs.ReadBack

/-!
# Lines as a reader counts them

A printer counts the lines that it has written, and whoever reads the outline
counts newlines. The two agree as long as newlines are found only at the ends
of lines. But the heading, the spellings and the labels are written as they
are, and a newline in one of them breaks the line that it stands in.

So an outline has two sorts of newlines: those that end its lines, one for
each node, and the **stray** ones that are written as part of a node. What
is stray can be told node by node (`Arena.strayNewlines`), and the number of
all newlines follows (`Arena.IsForest.newlines_outlineText`). The printer's
count is the reader's just if no node has a stray one.
-/

namespace SyntaxOutline

/-- **How many newlines a text has.** -/
def newlines (text : String) : Nat :=
  text.toList.count '\n'

@[simp] theorem newlines_append (first second : String) :
    newlines (first ++ second) = newlines first + newlines second := by
  rw [newlines, String.toList_append, List.count_append]
  rfl

theorem newlines_eq_zero_iff {text : String} : newlines text = 0 ↔ OneLine text :=
  List.count_eq_zero

/-- Lines have a newline each, and those within them. -/
theorem newlines_unlines (lines : List String) :
    newlines (unlines lines) = lines.length + (lines.map newlines).sum := by
  induction lines with
  | nil => rfl
  | cons line rest ih =>
    have hend : newlines "\n" = 1 := rfl
    rw [unlines, newlines_append, newlines_append, ih, hend, List.length_cons, List.map_cons,
      List.sum_cons]
    omega

/-- Of the parts of a line only the heading and the label can have newlines. -/
theorem Line.newlines_text (line : Line) :
    newlines line.text = newlines line.heading + newlines line.label := by
  have hlabel : newlines (labelPart line.label) = newlines line.label := by
    by_cases h : line.label = ""
    · rw [h, labelPart_empty]
    · have hprefix : newlines "  Label: " = 0 := rfl
      rw [labelPart_of_ne h, newlines_append, hprefix, Nat.zero_add]
  have hindentation : OneLine (indentation line.depth) := oneLine_blanks _
  rw [text, newlines_append, newlines_append, newlines_append, newlines_append, newlines_append,
    newlines_eq_zero_iff.2 (oneLine_numberField _), newlines_eq_zero_iff.2 hindentation,
    newlines_eq_zero_iff.2 (oneLine_decorationPart _),
    newlines_eq_zero_iff.2 (oneLine_addressPart _), hlabel]
  omega

/-- A base label has the newlines of the spelling. -/
theorem Kind.newlines_baseLabel (kind : Kind) :
    newlines kind.baseLabel = kind.payload.elim 0 (fun symbol => newlines symbol.text) := by
  have hname := newlines_eq_zero_iff.2 kind.oneLine_name
  unfold baseLabel
  cases kind.payload with
  | none => exact hname
  | some symbol =>
    have hseparator : newlines ": " = 0 := rfl
    rw [newlines_append, newlines_append, hname, hseparator, Nat.zero_add, Option.elim_some]

namespace Arena

variable {arena : Arena} {handle root : Handle}

/-- **The newlines that are written as part of a node** in the outline of a root: those of its
label, and those of its spelling, or of the heading if it is the root. -/
def strayNewlines (arena : Arena) (heading : String) (root handle : Handle) : Nat :=
  (arena.node? handle).elim 0 fun node =>
    newlines node.label +
      if handle = root then newlines heading
      else node.kind.payload.elim 0 (fun symbol => newlines symbol.text)

/-- Whether all that is written of a node in the outline of a root stays on one line. -/
def StaysOnLine (arena : Arena) (heading : String) (root handle : Handle) : Prop :=
  ∀ node ∈ arena.node? handle, OneLine node.label ∧
    if handle = root then OneLine heading
    else ∀ symbol ∈ node.kind.payload, OneLine symbol.text

theorem strayNewlines_eq_zero_iff {heading : String} :
    arena.strayNewlines heading root handle = 0 ↔ arena.StaysOnLine heading root handle := by
  unfold strayNewlines StaysOnLine
  cases arena.node? handle with
  | none => exact ⟨nofun, fun _ => rfl⟩
  | some node =>
    rw [Option.elim_some, Nat.add_eq_zero_iff, newlines_eq_zero_iff]
    simp only [Option.mem_some_iff, forall_eq']
    refine and_congr_right (fun _ => ?_)
    by_cases hroot : handle = root
    · rw [if_pos hroot, if_pos hroot, newlines_eq_zero_iff]
    · rw [if_neg hroot, if_neg hroot]
      cases node.kind.payload with
      | none => exact ⟨nofun, fun _ => rfl⟩
      | some symbol =>
        simp only [Option.elim_some, Option.mem_some_iff, forall_eq']
        exact newlines_eq_zero_iff

/-- What an outline says of a node has the newlines that are written as part of it. -/
theorem newlines_entryText {node : Node} (h : arena.node? handle = some node) (heading : String)
    (depth : Nat) :
    newlines (arena.entryText (if handle = root then heading else node.kind.baseLabel) depth node)
      = arena.strayNewlines heading root handle := by
  rw [← text_lineOf h, Line.newlines_text, lineOf_of_node? h, strayNewlines, h, Option.elim_some,
    Nat.add_comm, apply_ite newlines, Kind.newlines_baseLabel]

/-- **An outline has a newline for each node, and the stray ones.** -/
theorem IsForest.newlines_outlineText (hforest : arena.IsForest) (h : root ∈ arena)
    (heading : String) :
    newlines (arena.outlineText heading root)
      = (arena.tree root).preorder.length
        + ((arena.tree root).preorder.map (arena.strayNewlines heading root)).sum := by
  unfold outlineText
  rw [newlines_unlines, List.length_map, List.map_map]
  refine congrArg (fun counts => _ + List.sum counts) (List.map_congr_left fun node hnode => ?_)
  obtain ⟨entry, hentry⟩ := exists_node? (hforest.mem_of_mem_preorder_tree h hnode)
  rw [Function.comp_apply, hentry]
  exact newlines_entryText hentry heading _

end Arena

namespace Printer

variable {arena : Arena} {root : Handle}

/-- **The newlines that a print writes.** A print counts a line for each node, and the text that it
adds has a newline for each of these lines; but it has besides the newlines of the heading, of the
spellings below the root and of all labels. So there are as many newlines as lines were counted just
if all of these stay on one line. -/
theorem newlines_of_print (hreach : arena.Reachable) {printer : Printer}
    (hsink : printer.sink.TakesAll) (threshold : Threshold) (heading : String) (h : root ∈ arena) :
    ∃ (size : Nat) (text : String), arena.subtreeSize root = .ok size ∧
      (printer.print threshold arena heading root).outcome = .ok () ∧
      (printer.print threshold arena heading root).printer.sink.contents
        = printer.sink.contents ++ text.toUTF8 ∧
      (printer.print threshold arena heading root).printer.lines = printer.lines + size ∧
      newlines text
        = size + ((arena.tree root).preorder.map (arena.strayNewlines heading root)).sum ∧
      (newlines text = size ↔
        ∀ node ∈ (arena.tree root).preorder, arena.StaysOnLine heading root node) := by
  have hforest := hreach.isForest
  have hcount := hforest.newlines_outlineText h heading
  obtain ⟨houtcome, hcontents, hlines, -⟩ :=
    print_of_takesAll hforest h hsink threshold heading
  refine ⟨_, arena.outlineText heading root, hforest.subtreeSize_eq_ok h, houtcome, hcontents,
    hlines, hcount, ?_⟩
  rw [hcount, Nat.add_eq_left, List.sum_eq_zero_iff_forall_eq_nat, List.forall_mem_map]
  exact forall₂_congr fun node _ => Arena.strayNewlines_eq_zero_iff

/-- An arena with a block whose label is on two lines, over an identifier that is spelled on two
lines. -/
def torn : Arena :=
  (Arena.empty 0).applyAll [.add (.ident ⟨"a\nb"⟩ none), .addOver .block [⟨0, 0⟩],
    .setLabel ⟨0, 1⟩ "top\nmost"]

theorem newlines_of_print_torn :
    ∃ text : String,
      ((start .unbounded).print .off torn "Root" ⟨0, 1⟩).printer.sink.contents
        = ByteArray.empty ++ text.toUTF8 ∧
      ((start .unbounded).print .off torn "Root" ⟨0, 1⟩).printer.lines = 2 ∧
      newlines text = 4 := by
  have hreach : torn.Reachable := (Arena.Reachable.empty 0).applyAll _
  have hsink : (start .unbounded).sink.TakesAll := ⟨rfl, rfl⟩
  have hstray : ((torn.tree ⟨0, 1⟩).preorder.map (torn.strayNewlines "Root" ⟨0, 1⟩)).sum = 2 := by
    decide +kernel
  have hsize : torn.subtreeSize ⟨0, 1⟩ = .ok 2 := by decide +kernel
  have hmem : (⟨0, 1⟩ : Handle) ∈ torn := by decide
  obtain ⟨size, text, hok, -, hcontents, hlines, hnewlines, -⟩ :=
    newlines_of_print hreach hsink .off "Root" hmem
  obtain rfl : 2 = size := Except.ok.inj (hsize.symm.trans hok)
  rw [hstray] at hnewlines
  exact ⟨text, hcontents, hlines, hnewlines⟩

/-- An arena with a single block, whose label is on two lines. -/
def brokenLabel : Arena :=
  (Arena.empty 0).applyAll [.add .block, .setLabel ⟨0, 0⟩ "a\nb"]

/-- **A node may take more than one line to read.** To the printer a single block is one line,
whatever its label; but if there is a newline in the label, the text has two. -/
theorem print_breaks_line :
    brokenLabel.Reachable ∧ (⟨0, 0⟩ : Handle) ∈ brokenLabel ∧
      brokenLabel.subtreeSize ⟨0, 0⟩ = .ok 1 ∧
      (start .unbounded).sink.TakesAll ∧
      ((start .unbounded).print .off brokenLabel "Block" ⟨0, 0⟩).outcome = .ok () ∧
      ((start .unbounded).print .off brokenLabel "Block" ⟨0, 0⟩).printer.sink.contents
        = "1:  Block  Label: a\nb\n".toUTF8 ∧
      ((start .unbounded).print .off brokenLabel "Block" ⟨0, 0⟩).printer.lines = 1 ∧
      newlines "1:  Block  Label: a\nb\n" = 2 := by
  refine ⟨(Arena.Reachable.empty 0).applyAll _, by decide, by decide, ⟨rfl, rfl⟩, ?_, ?_, ?_,
    by decide⟩
  · decide +kernel
  · decide +kernel
  · decide +kernel

end Printer

end SyntaxOutline
