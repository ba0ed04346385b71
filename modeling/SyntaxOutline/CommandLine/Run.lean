import SyntaxOutline.Arena.Measure
import SyntaxOutline.CommandLine.Host
import SyntaxOutline.CommandLine.Usage
import SyntaxOutline.Outline.Printer

/-!
# Running the program

The program builds a sample, tallies it, chooses the heading of its root line, opens the file that
the outline goes to if there is one, and prints. What comes of that is a **report**: an exit code
and what is shown, some of it as output and some as errors. Among the errors is what the journal
shows of all that has happened. What it says of its filter comes before that, and a fault last.

An outline that goes to a file is gathered first. The file may refuse the bytes at any moment, but
whenever it does, it is the print that fails, and with the same fault; so here it is the flush, which
passes on what was gathered.

The statistics that may follow the outline report the tally, the lines printed and two times. How
long things take is not for this library to say, so the texts of the times are given from outside.
-/

namespace SyntaxOutline

/-- **What the statistics are about.** -/
structure Statistics where
  /-- The tally of the tree. -/
  tally : Tally
  /-- The lines printed. -/
  lines : Nat
  deriving DecidableEq

/-- The texts of two times in seconds. -/
structure Times where
  /-- How long it took to build the tree. -/
  build : String
  /-- How long it took to print it. -/
  print : String

/-- The statistics as they are shown. -/
def Statistics.text (times : Times) (statistics : Statistics) : String :=
  ofLines [
    "",
    " Tree Statistics:",
    "  Nodes:           " ++ statistics.tally.nodes.repr,
    "  Lines printed:   " ++ statistics.lines.repr,
    "  Max depth:       " ++ statistics.tally.maxDepth.repr,
    "  Decorated nodes: " ++ statistics.tally.decorated.repr,
    "  Build time (s):  " ++ times.build,
    "  Print time (s):  " ++ times.print]

/-- **A tree that is ready to be printed.** -/
structure Prepared where
  arena : Arena
  root : Handle
  /-- The heading of the root line. -/
  heading : String
  tally : Tally

/-- **How a run ended**: what became of it, what happened meanwhile, and the sink that the outline
went to, if it came to that. What happened is parted by the moment when the outline is passed on,
since a device may show it then. -/
structure Run where
  outcome : Except Fault Statistics
  opening : List Event
  closing : List Event
  sink : Option Sink

/-- What happened in a run. -/
def Run.events (run : Run) : List Event := run.opening ++ run.closing

namespace Invocation

/-- Builds the sample and takes its measures, telling what it does. -/
def prepare (invocation : Invocation) : EStateM Fault (List Event) Prepared := fun told =>
  match invocation.sample.build 0 with
  | .error fault draft => .error fault (told ++ draft.events)
  | .ok root draft =>
    let arena := draft.arena
    let told := told ++ draft.events
    match arena.tally root with
    | .error fault => .error fault told
    | .ok tally =>
      let told := told ++ [.built invocation.sample.name tally.nodes arena.size]
      let heading : Except Fault String := match invocation.rootLabel with
        | some label => .ok label
        | none => arena.baseLabel root
      match heading with
      | .error fault => .error fault told
      | .ok heading => .ok ⟨arena, root, heading, tally⟩ (told ++ [.headed heading])

/-- What is told once a run has gone well. -/
def farewell (invocation : Invocation) : List Event :=
  match invocation.output with
  | some path => [.written path]
  | none => []

/-- **Runs an invocation**, given the sink that the outline goes to, or why it cannot be opened. -/
def run (destination : Except Fault Sink) (invocation : Invocation) : Run :=
  match invocation.prepare [] with
  | .error fault told => ⟨.error fault, told, [], none⟩
  | .ok prepared told =>
    match destination with
    | .error fault => ⟨.error fault, told, [], none⟩
    | .ok sink =>
      let printed :=
        (Printer.start sink).print (.upTo .trace) prepared.arena prepared.heading prepared.root
      let opening := told ++ printed.opening
      match printed.outcome with
      | .error fault => ⟨.error fault, opening, printed.closing, some printed.printer.sink⟩
      | .ok _ =>
        ⟨.ok ⟨prepared.tally, printed.printer.lines⟩, opening,
          printed.closing ++ invocation.farewell, some printed.printer.sink⟩

end Invocation

/-- What the sink of a run has taken, if there is one. -/
def Run.taken (run : Run) : ByteArray :=
  match run.sink with
  | some sink => sink.contents
  | none => .empty

/-- What is shown as errors of a run before the outline is passed on. -/
def Run.openingText (journal : Journal) (filter : Filter) (run : Run) : String :=
  journal.complaints filter ++ journal.records filter [] run.opening

/-- What is shown as errors of a run after the outline was passed on. -/
def Run.closingText (journal : Journal) (filter : Filter) (run : Run) : String :=
  let fault := match run.outcome with
    | .error fault => "Error: Printing failed: " ++ fault.message ++ "\n"
    | .ok _ => ""
  journal.records filter run.opening run.closing ++ fault

/-- The statistics of a run as they are shown, if they are asked for and there are any. -/
def Run.statisticsText (times : Times) (timing : Bool) (run : Run) : String :=
  match run.outcome with
  | .ok statistics => if timing then statistics.text times else ""
  | .error _ => ""

/-- The code that the program exits with after a run. -/
def Run.code (run : Run) : Nat :=
  match run.outcome with
  | .ok _ => 0
  | .error _ => 1

/-- **The report of a run**, where the outline may have been shown on a stream. -/
def Run.report (journal : Journal) (filter : Filter) (times : Times) (timing : Bool)
    (stream : Option Stream) (run : Run) : Report where
  code := run.code
  output :=
    (if stream = some .output then run.taken else .empty) ++
      (run.statisticsText times timing).toUTF8
  errors :=
    (run.openingText journal filter).toUTF8 ++
      (if stream = some .errors then run.taken else .empty) ++
      (run.closingText journal filter).toUTF8

/-- The fault of a file that cannot be created, with the words of the system. -/
def Fault.cannotCreate (path words : String) : Fault :=
  .output ("cannot create '" ++ path ++ "': " ++ words)

/-- The sink that stands for a file. It takes all bytes in, and shows only when it is flushed that
some of them are refused. -/
def Sink.gathering (refusal : Option String) : Sink :=
  { Sink.unbounded with flushRefusal := refusal }

namespace Host

variable {State File Opened : Type}

/-- **Carries an invocation out**: the run, the stream that the outline is shown on, and the state
that the files are in afterwards. No file is created before there is a tree to be printed. -/
def carryOut (host : Host State File Opened) (invocation : Invocation) (state : State) :
    Run × Option Stream × State :=
  match invocation.output, invocation.prepare [] with
  | some path, .ok _ _ =>
    match host.files.create path state with
    | (.error words, after) => (invocation.run (.error (.cannotCreate path words)), none, after)
    | (.ok opened, created) =>
      let gathered := (invocation.run (.ok (.gathering none))).taken
      let (refusal, after) := host.files.deliver opened gathered created
      (invocation.run (.ok (.gathering refusal)), host.files.stream? opened, after)
  | _, _ => (invocation.run (.ok .unbounded), some .output, state)

/-- **Runs the program** with the given arguments, and gives the state that the files are in
afterwards. -/
def runProgram (host : Host State File Opened) (setting : Option String) (times : Times)
    (arguments : List String) (state : State) : Report × State :=
  match host.read arguments with
  | .error report => (report, state)
  | .ok invocation =>
    let (run, stream, after) := host.carryOut invocation state
    (run.report host.journal (.ofRun setting invocation.verbose) times invocation.timing stream,
      after)

end Host

end SyntaxOutline
