import SyntaxOutline.Journal.Event
import SyntaxOutline.Sample

/-!
# Hosts

The program does three things by the hands of others. What the command line means is found out
before it begins, by a **reader** of command lines, which may also end the run by itself, for instance
to show help. What happens is told to a **journal**, which decides what of it is shown and how. And a
path is opened, and bytes are written there, by the **file system**. A **host** is all that together.

Nothing is laid down here about which arguments are accepted, how a record looks or where a path
leads. Of a file system it is asked that it does what everybody expects of one: a file that is
created is empty, bytes that are taken come to stand behind those that are there, and no other file
changes (`FileSystem.Lawful`).
-/

namespace SyntaxOutline

/-- **What is to be printed, and how.** -/
structure Invocation where
  sample : Sample
  /-- The heading of the root line, if it is not to be the base label. -/
  rootLabel : Option String
  /-- The file that the outline goes to, if it is not to be shown. -/
  output : Option String
  verbose : Bool
  timing : Bool
  deriving DecidableEq

/-- What an empty command line asks for. -/
def Invocation.default : Invocation := ⟨.factorial, none, none, false, false⟩

/-- **What a run of the program shows**, and the code it exits with. -/
structure Report where
  code : Nat
  output : ByteArray
  errors : ByteArray

/-- The report that shows a text and nothing else. -/
def Report.ofText (text : String) : Report := ⟨0, text.toUTF8, .empty⟩

/-! ## The journal -/

/-- **What a journal is asked to show**: what a text from outside spells, or all events up to a
threshold. -/
inductive Filter where
  | spelled (text : String)
  | upTo (threshold : Threshold)

/-- The filter of a run. A text from outside wins over what the command line says. -/
def Filter.ofRun (setting : Option String) (verbose : Bool) : Filter :=
  match setting with
  | some text => .spelled text
  | none => .upTo (.upTo (if verbose then .debug else .warn))

/-- **A journal.** -/
structure Journal where
  /-- What it says of the filter itself. -/
  complaints : Filter → String
  /-- The records of events, after the events that were there before. -/
  records : Filter → (before events : List Event) → String

/-! ## Files -/

/-- Where a program shows something. -/
inductive Stream where
  | output
  | errors
  deriving DecidableEq

/-- **A file system**, by its states, its files and what has been opened to be written. -/
structure FileSystem (State File Opened : Type) where
  /-- What stands in a file, if there is such a file. -/
  contents : State → File → Option ByteArray
  /-- Creates a file at a path, or says why it cannot be created. -/
  create : String → State → Except String Opened × State
  /-- Writes bytes, in as many goes as it takes. The answer is what is said to bytes that are not
  taken. -/
  deliver : Opened → ByteArray → State → Option String × State
  /-- The file that has been opened, if it is one. -/
  file? : Opened → Option File
  /-- The stream of the program itself that has been opened, if it is one. -/
  stream? : Opened → Option Stream

/-- **What is expected of a file system.** -/
structure FileSystem.Lawful {State File Opened : Type} (files : FileSystem State File Opened) :
    Prop where
  /-- A file that has been created is empty, whatever stood there before. -/
  contents_create {path : String} {state : State} {opened : Opened} {file : File} :
    (files.create path state).1 = .ok opened → files.file? opened = some file →
      files.contents (files.create path state).2 file = some .empty
  /-- Every other file is as it was, and so are all if there was none to create. -/
  contents_create_of_ne {path : String} {state : State} {other : File} :
    (∀ opened, (files.create path state).1 = .ok opened → files.file? opened ≠ some other) →
      files.contents (files.create path state).2 other = files.contents state other
  /-- Bytes that are all taken are appended to the file. -/
  contents_deliver {opened : Opened} {bytes old : ByteArray} {state : State} {file : File} :
    (files.deliver opened bytes state).1 = none → files.file? opened = some file →
      files.contents state file = some old →
      files.contents (files.deliver opened bytes state).2 file = some (old ++ bytes)
  /-- Every other file is as it was, whether they are taken or not. -/
  contents_deliver_of_ne {opened : Opened} {bytes : ByteArray} {state : State} {other : File} :
    files.file? opened ≠ some other →
      files.contents (files.deliver opened bytes state).2 other = files.contents state other

/-- **What the program runs on**, as far as it has to do with it. -/
structure Host (State File Opened : Type) where
  /-- Reads a command line, or ends the run with a report. -/
  read : List String → Except Report Invocation
  journal : Journal
  files : FileSystem State File Opened

end SyntaxOutline
