import SyntaxOutline.Outline.Printer
import SyntaxOutline.Sample

/-!
# Sessions

A **session** keeps several arenas and several printers, each known by its number in the order in
which they came up. Commands add to them, change them and print; reading an arena needs no command.
What a session is for is that handles travel: a command may bring any handle to any arena.

An arena that is created, or built as a sample, gets a tag that no arena of the session has had
before, and later tags are greater. A copy keeps the tag of what it was copied from, so that every
handle of the one is a handle of the other.
-/

namespace SyntaxOutline

/-- **A command to a session.** -/
inductive Command where
  /-- Start a new arena. -/
  | create
  /-- Copy an arena as it stands. -/
  | copy (arena : Nat)
  /-- Build a sample in an arena of its own. -/
  | plant (sample : Sample)
  | edit (arena : Nat) (edit : Edit)
  /-- Carry out edits in turn, up to the first that is refused. -/
  | editEach (arena : Nat) (edits : List Edit)
  /-- Make the text of an outline. -/
  | render (arena : Nat) (root : Handle)
  /-- Start a printer to a sink. -/
  | start (sink : Sink)
  | print (printer arena : Nat) (job : Job)
  /-- Give a printer up for its sink. -/
  | finish (printer : Nat)

/-- **What a session answers.** -/
inductive Reply where
  /-- The number of the arena created. -/
  | created (arena : Nat)
  /-- The number of the arena and the root of the sample in it. -/
  | planted (arena : Nat) (root : Handle)
  | edited (outcome : Except Fault Handle)
  /-- How many edits were carried out, and what the last of them answered. -/
  | editedEach (done : Nat) (outcome : Except Fault (Option Handle))
  | rendered (outcome : Except Fault String)
  /-- The number of the printer started. -/
  | started (printer : Nat)
  /-- What became of a job, and what the sink has taken meanwhile; then the lines and flushes of the
  printer so far. -/
  | printed (outcome : Except Fault Unit) (taken : ByteArray) (lines flushes : Nat)
  | finished (sink : Sink)
  /-- The sample could not be built. -/
  | failed (fault : Fault)
  /-- There is no such arena, or no such printer any more. -/
  | missing

/-- **A session.** -/
structure Session where
  /-- The tag that the next new arena gets. -/
  nextTag : Nat
  arenas : Array Arena
  /-- The printers by number, without those that were given up. -/
  printers : Array (Option Printer)

/-- What a command has brought about. -/
structure Step where
  reply : Reply
  /-- What was told meanwhile. -/
  events : List Event
  session : Session

namespace Session

/-- A session without arenas and printers. -/
def empty : Session := ⟨0, #[], #[]⟩

/-- The arena of the given number. -/
def arena? (session : Session) (arena : Nat) : Option Arena := session.arenas[arena]?

/-- The printer of the given number, unless it was given up. -/
def printer? (session : Session) (printer : Nat) : Option Printer :=
  session.printers[printer]?.join

/-- The handle that speaks of a position in the arena of the given number. -/
def handle? (session : Session) (arena index : Nat) : Option Handle :=
  (session.arena? arena).map fun found => ⟨found.tag, index⟩

/-- Takes a further arena in. -/
def addArena (arena : Arena) (session : Session) : Session :=
  { session with arenas := session.arenas.push arena }

/-- Replaces an arena by what has become of it. -/
def putArena (number : Nat) (arena : Arena) (session : Session) : Session :=
  { session with arenas := session.arenas.modify number fun _ => arena }

/-- Replaces a printer by what has become of it. -/
def putPrinter (number : Nat) (printer : Option Printer) (session : Session) : Session :=
  { session with printers := session.printers.modify number fun _ => printer }

/-- The session after a tag was given out. -/
def useTag (session : Session) : Session :=
  { session with nextTag := session.nextTag + 1 }

/-- What a job of a printer has brought about, given how it ended. -/
def takePrint (number : Nat) (printer : Printer) (printed : Printed) (session : Session) : Step :=
  let before := printer.sink.contents.size
  let after := printed.printer.sink
  ⟨.printed printed.outcome (after.contents.extract before after.contents.size)
      printed.printer.lines after.flushes,
    printed.events, session.putPrinter number (some printed.printer)⟩

/-- Nothing has happened, for want of an arena or a printer. -/
def idle (session : Session) : Step := ⟨.missing, [], session⟩

/-- **Carries out a command.** The threshold decides what is told, and must not decide anything
else. -/
def perform (threshold : Threshold) (command : Command) (session : Session) : Step :=
  match command with
  | .create =>
    ⟨.created session.arenas.size, [],
      session.useTag.addArena (.empty session.nextTag)⟩
  | .copy number =>
    match session.arena? number with
    | none => session.idle
    | some arena => ⟨.created session.arenas.size, [], session.addArena arena⟩
  | .plant sample =>
    match sample.build session.nextTag with
    | .ok root draft =>
      ⟨.planted session.arenas.size root, threshold.keep draft.events,
        session.useTag.addArena draft.arena⟩
    | .error fault draft => ⟨.failed fault, threshold.keep draft.events, session.useTag⟩
  | .edit number edit =>
    match session.arena? number with
    | none => session.idle
    | some arena =>
      let (outcome, changed) := arena.apply edit
      ⟨.edited outcome, threshold.keep (arena.events edit), session.putArena number changed⟩
  | .editEach number edits =>
    match session.arena? number with
    | none => session.idle
    | some arena =>
      let progress := Draft.performEach 0 none edits (.start arena)
      ⟨.editedEach progress.done progress.outcome, threshold.keep progress.draft.events,
        session.putArena number progress.draft.arena⟩
  | .render number root =>
    match session.arena? number with
    | none => session.idle
    | some arena =>
      let (outcome, events) := arena.render threshold root
      ⟨.rendered outcome, events, session⟩
  | .start sink =>
    ⟨.started session.printers.size, [],
      { session with printers := session.printers.push (some (.start sink)) }⟩
  | .print printerNumber number job =>
    match session.printer? printerNumber, session.arena? number with
    | some printer, some arena =>
      session.takePrint printerNumber printer (printer.run threshold arena job)
    | _, _ => session.idle
  | .finish number =>
    match session.printer? number with
    | none => session.idle
    | some printer => ⟨.finished printer.sink, [], session.putPrinter number none⟩

/-- The session that a list of commands leaves behind. -/
def performAll (threshold : Threshold) (commands : List Command) (session : Session) : Session :=
  commands.foldl (fun session command => (session.perform threshold command).session) session

@[simp] theorem performAll_nil (threshold : Threshold) (session : Session) :
    session.performAll threshold [] = session := rfl

@[simp] theorem performAll_cons (threshold : Threshold) (command : Command)
    (commands : List Command) (session : Session) :
    session.performAll threshold (command :: commands) =
      (session.perform threshold command).session.performAll threshold commands := rfl

theorem performAll_append (threshold : Threshold) (first second : List Command)
    (session : Session) :
    session.performAll threshold (first ++ second)
      = (session.performAll threshold first).performAll threshold second :=
  List.foldl_append

end Session

end SyntaxOutline
