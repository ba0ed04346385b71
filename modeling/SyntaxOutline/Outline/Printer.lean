import SyntaxOutline.Arena.Walk
import SyntaxOutline.Journal.Event
import SyntaxOutline.Outline.Line
import SyntaxOutline.Outline.Sink
import SyntaxOutline.Text.Utf8

/-!
# Printing

A **printer** writes the outlines of trees to a sink, one after the other, and counts the lines it
has written. A line is counted once the newline that ends it has been taken, so a line that the sink
cuts short is not.

To print a tree is to walk it and write a line at every node; the root line alone may be given a
heading of its own. Afterwards the sink is flushed. A printer tells of a tree when it begins and
when it has come to the end. The first account names the number of the root, which has to be looked
up; that is done only if the account is wanted, and if the root is unknown it is the look-up that
fails, with the fault that printing it would have met with anyway.
-/

namespace SyntaxOutline

/-- **The line of a node** under a heading, set off by a depth. -/
def Arena.line (arena : Arena) (node : Handle) (heading : String) (depth : Nat) :
    Except Fault Line := do
  let entry ← arena.node node
  let decoration ← match entry.decoration with
    | some target => (arena.number target).map some
    | none => .ok none
  .ok {
    number := entry.number
    depth := depth
    heading := heading
    decoration := decoration
    label := entry.label
    address := entry.kind.frameOffset
  }

/-- The base label of a node's kind. -/
def Arena.baseLabel (arena : Arena) (node : Handle) : Except Fault String :=
  (arena.kind node).map Kind.baseLabel

/-- **A printer**: a sink, and how many lines have gone there. -/
structure Printer where
  sink : Sink
  /-- The lines whose newline the sink has taken. -/
  lines : Nat

/-- A step of a printer, which may fail and then leaves the printer as it has become. -/
abbrev Printing := EStateM Fault Printer

namespace Printer

/-- A printer to a sink, with no line written yet. -/
def start (sink : Sink) : Printer := ⟨sink, 0⟩

/-- Writes a text and a newline after it, which counts as a line. -/
def writeText (text : String) : Printing Unit := fun printer =>
  match printer.sink.write (text ++ "\n").toUTF8 with
  | (none, sink) => .ok () ⟨sink, printer.lines + 1⟩
  | (some refusal, sink) => .error (.io refusal) ⟨sink, printer.lines⟩

/-- Writes a line and the newline that ends it. -/
def writeLine (line : Line) : Printing Unit := writeText line.text

/-- Flushes the sink. -/
def flush : Printing Unit := fun printer =>
  match printer.sink.flush with
  | (none, sink) => .ok () { printer with sink := sink }
  | (some refusal, sink) => .error (.io refusal) { printer with sink := sink }

/-- Writes the line of a node under a heading. -/
def emit (arena : Arena) (heading : String) : Act Printer := fun node depth => do
  writeLine (← MonadExcept.ofExcept (arena.line node heading depth))

/-- Writes the line of a node under its base label. -/
def emitOwn (arena : Arena) : Act Printer := fun node depth => do
  emit arena (← MonadExcept.ofExcept (arena.baseLabel node)) node depth

/-- Writes the lines of a node and all its descendants. -/
def visit (arena : Arena) : Act Printer :=
  arena.visit (emitOwn arena)

/-- Writes the lines of all descendants of a node, but not its own. -/
def walk (arena : Arena) : Act Printer :=
  arena.walkChildren (visit arena)

/-- Writes the outline of a tree, its root line under the given heading, and flushes the sink. -/
def outline (arena : Arena) (heading : String) (root : Handle) : Printing Unit := do
  emit arena heading root 0
  walk arena root 0
  flush

end Printer

/-- **How a print ended**: what became of it, the printer, and what was told before the sink was
asked to flush and afterwards. -/
structure Printed where
  outcome : Except Fault Unit
  printer : Printer
  opening : List Event
  closing : List Event

/-- What was told in the course of a print. -/
def Printed.events (printed : Printed) : List Event := printed.opening ++ printed.closing

namespace Printer

/-- **Prints a tree** with the given heading on its root line. -/
def print (threshold : Threshold) (arena : Arena) (heading : String) (root : Handle)
    (printer : Printer) : Printed :=
  match threshold.consult .debug ((arena.number root).map .printing) with
  | .error fault => ⟨.error fault, printer, [], []⟩
  | .ok opening =>
    match outline arena heading root printer with
    | .error fault stopped => ⟨.error fault, stopped, opening, []⟩
    | .ok _ finished =>
      ⟨.ok (), finished, opening, threshold.keep [.printed (finished.lines - printer.lines)]⟩

/-- **Prints a tree** with the base label of its root. -/
def printTree (threshold : Threshold) (arena : Arena) (root : Handle) (printer : Printer) :
    Printed :=
  match arena.baseLabel root with
  | .error fault => ⟨.error fault, printer, [], []⟩
  | .ok heading => printer.print threshold arena heading root

/-- Carries out a step that tells nothing. -/
def perform (step : Printing Unit) (printer : Printer) : Printed :=
  match step printer with
  | .ok _ finished => ⟨.ok (), finished, [], []⟩
  | .error fault stopped => ⟨.error fault, stopped, [], []⟩

end Printer

/-- **What a printer can be asked to do** with an arena. -/
inductive Job where
  /-- Print a tree with a heading of its own. -/
  | print (heading : String) (root : Handle)
  /-- Print a tree with the base label of its root. -/
  | printTree (root : Handle)
  /-- Write the lines of a tree as if it stood at a depth. -/
  | visit (node : Handle) (depth : Nat)
  /-- Write the lines of all that stands below a node. -/
  | walk (node : Handle) (depth : Nat)

/-- Carries out a job. -/
def Printer.run (threshold : Threshold) (arena : Arena) (printer : Printer) : Job → Printed
  | .print heading root => printer.print threshold arena heading root
  | .printTree root => printer.printTree threshold arena root
  | .visit node depth => printer.perform (Printer.visit arena node depth)
  | .walk node depth => printer.perform (Printer.walk arena node depth)

/-- **The outline of a tree as text**, and what was told while it was made. -/
def Arena.render (threshold : Threshold) (arena : Arena) (root : Handle) :
    Except Fault String × List Event :=
  let printed := (Printer.start .unbounded).printTree threshold arena root
  match printed.outcome with
  | .error fault => (.error fault, printed.events)
  | .ok _ =>
    match Utf8.decode printed.printer.sink.contents with
    | .ok text => (.ok text, printed.events)
    | .error flaw => (.error (.output flaw.message), printed.events)

end SyntaxOutline
