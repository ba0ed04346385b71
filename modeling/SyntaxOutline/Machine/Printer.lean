import SyntaxOutline.Machine.Walk
import SyntaxOutline.Outline.Printer
import SyntaxOutline.Session

/-!
# Printing on a machine

A line that is set off by a depth of the caller's choice may come to be too long. The blanks are
worked out first, two for each level, and then the line is put together part by part, from left to
right; and at any of these steps the program may stop. That a node is unknown is found out before,
and that its decoration is, in between.

A print of a tree begins at depth zero, and goes down no further than the tree does, which has been
in memory all the while. It is only with the jobs that begin at a given depth that numbers may
become too great, so on a machine these are the jobs that are different.
-/

namespace SyntaxOutline

/-- The number of what decorates a node, if it is decorated. -/
def Arena.decorationNumber (arena : Arena) (entry : Node) : Except Fault (Option Nat) :=
  match entry.decoration with
  | some target => (arena.number target).map some
  | none => .ok none

namespace Machine

/-- So many blanks, unless they are too many for a text. -/
def spaces (machine : Machine) (count : Nat) : Except Stop String :=
  if count < machine.room then .ok (blanks count) else .error .overflow

/-- **The blanks that set a line off** by its depth. -/
def indentation (machine : Machine) (depth : Nat) : Except Stop String := do
  machine.spaces (← machine.fit (depth * 2))

/-- Puts a further part to a text. -/
def append (machine : Machine) (text part : String) : Except Stop String :=
  machine.hold (text ++ part)

/-- **The text of a node's line** under a heading, set off by a depth. -/
def formatLine (machine : Machine) (arena : Arena) (node : Handle) (heading : String)
    (depth : Nat) : Except Stop String := do
  let entry ← Stop.ofAnswer (arena.node node)
  let text ← machine.append (numberField entry.number) (← machine.indentation depth)
  let text ← machine.append text heading
  let decoration ← Stop.ofAnswer (arena.decorationNumber entry)
  let text ← machine.append text (Line.decorationPart decoration)
  let text ← machine.append text (Line.labelPart entry.label)
  machine.append text (Line.addressPart entry.kind.frameOffset)

/-- Writes the line of a node under a heading. -/
def emit (machine : Machine) (arena : Arena) (heading : String) : MachineAct Printer :=
  fun node depth => do
    let text ← MonadExcept.ofExcept (machine.formatLine arena node heading depth)
    (Printer.writeText text).adaptExcept .fault

/-- Writes the line of a node under its base label. -/
def emitOwn (machine : Machine) (arena : Arena) : MachineAct Printer := fun node depth => do
  let heading ← MonadExcept.ofExcept (Stop.ofAnswer (arena.baseLabel node))
  machine.emit arena heading node depth

/-- Carries out a step that tells nothing. It has no end if the program stops. -/
def perform (step : EStateM Stop Printer Unit) (printer : Printer) : Option Printed :=
  match step printer with
  | .ok _ finished => some ⟨.ok (), finished, [], []⟩
  | .error (.fault fault) stopped => some ⟨.error fault, stopped, [], []⟩
  | .error .overflow _ => none

/-- **Carries out a job.** -/
def run (machine : Machine) (threshold : Threshold) (arena : Arena) (printer : Printer) :
    Job → Option Printed
  | .visit node depth => perform (machine.visit arena (machine.emitOwn arena) node depth) printer
  | .walk node depth =>
    perform (machine.walkChildren arena (machine.visit arena (machine.emitOwn arena)) node depth)
      printer
  | job => some (printer.run threshold arena job)

end Machine

/-- **Carries out a command on a machine**, which has no end if the program stops. -/
def Session.performOn (machine : Machine) (threshold : Threshold) (command : Command)
    (session : Session) : Option Step :=
  match command with
  | .print printerNumber number job =>
    match session.printer? printerNumber, session.arena? number with
    | some printer, some arena =>
      (machine.run threshold arena printer job).map fun printed =>
        session.takePrint printerNumber printer printed
    | _, _ => some session.idle
  | other => some (session.perform threshold other)

end SyntaxOutline
