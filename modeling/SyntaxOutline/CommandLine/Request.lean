import SyntaxOutline.CommandLine.Host
import SyntaxOutline.CommandLine.Usage

/-!
# Reading the command line

Arguments are read from left to right, and the first that settles the matter does: one that is
refused, or one that asks for help or the version. An argument after two hyphens is a long name, to
which a value may be joined by an equals sign; after one hyphen there is a row of letters, of which
the first that takes a value has the rest of the row for it, less an equals sign in front. A value
may also be an argument of its own. Two hyphens alone end the parameters, and since nothing else is
expected, nothing may follow them.

A value that is an argument of its own is looked at only when the next parameter comes, or the end.
Until then it is **pending**: so an argument that means nothing is refused even if the value before
it would have been refused, had it been looked at.
-/

namespace SyntaxOutline

/-- **What a command line comes to.** -/
inductive Request where
  | run (invocation : Invocation)
  | shortHelp
  | longHelp
  | version
  | refused (error : UsageError)
  deriving DecidableEq

/-- **A command line that is being read.** -/
structure Reading where
  /-- What it asks for so far. -/
  invocation : Invocation
  /-- The parameters whose values have been looked at. -/
  seen : List Parameter
  /-- A parameter that takes a value, and the value if it has come. -/
  pending : Option (Parameter × Option String)
  /-- Whether the parameters have been ended. -/
  ended : Bool

namespace Reading

/-- Nothing read yet. -/
def start : Reading := ⟨.default, [], none, false⟩

/-- A step in reading: it leads on, or to the request at once. -/
abbrev Outcome := Except Request Reading

/-- The command line is refused. -/
def refuse (error : UsageError) : Outcome := .error (.refused error)

/-- Notes that a parameter was there, which it must not have been before. -/
def note (parameter : Parameter) (invocation : Invocation) (reading : Reading) : Outcome :=
  if parameter ∈ reading.seen then refuse (.repeated parameter)
  else .ok { reading with invocation := invocation, seen := parameter :: reading.seen }

/-- Gives a parameter its value. -/
def assign (parameter : Parameter) (value : String) (reading : Reading) : Outcome := do
  let noted ← reading.note parameter reading.invocation
  let invocation := noted.invocation
  match parameter with
  | .sample =>
    if value = "" then refuse (.valueRequired parameter)
    else
      match Sample.named? false value with
      | some sample => .ok { noted with invocation := { invocation with sample := sample } }
      | none => refuse (.invalidValue value parameter)
  | .rootLabel => .ok { noted with invocation := { invocation with rootLabel := some value } }
  | .output =>
    if value = "" then refuse (.valueRequired parameter)
    else .ok { noted with invocation := { invocation with output := some value } }
  | _ => refuse (.unexpectedValue value parameter)

/-- Looks at the pending parameter, if there is one. -/
def settle (reading : Reading) : Outcome :=
  match reading.pending with
  | none => .ok reading
  | some (parameter, none) => refuse (.valueRequired parameter)
  | some (parameter, some value) => { reading with pending := none }.assign parameter value

/-- Reads a parameter that takes no value; `long` tells by which of its names. -/
def switch (parameter : Parameter) (long : Bool) (reading : Reading) : Outcome := do
  let settled ← reading.settle
  let invocation := settled.invocation
  match parameter with
  | .verbose => settled.note parameter { invocation with verbose := true }
  | .timing => settled.note parameter { invocation with timing := true }
  | .help => .error (if long then .longHelp else .shortHelp)
  | .version => .error .version
  | _ => refuse (.valueRequired parameter)

/-- Reads a parameter that takes a value, which may be joined to it or still to come. -/
def awaitValue (parameter : Parameter) (joined : Option String) (reading : Reading) : Outcome := do
  let settled ← reading.settle
  match joined with
  | some value => settled.assign parameter value
  | none => .ok { settled with pending := some (parameter, none) }

/-- Reads a long name, with the value that may be joined to it. -/
def readLong (body : List Char) (reading : Reading) : Outcome :=
  let name := String.ofList (body.takeWhile (· ≠ '='))
  let joined := match body.dropWhile (· ≠ '=') with
    | [] => none
    | _ :: value => some (String.ofList value)
  match Parameter.ofLongName? name with
  | none => refuse (.unexpectedArgument ("--" ++ name))
  | some parameter =>
    if parameter.takesValue then reading.awaitValue parameter joined
    else
      match joined with
      | some value => refuse (.unexpectedValue value parameter)
      | none => reading.switch parameter true

/-- Reads a row of letters. -/
def readLetters : List Char → Reading → Outcome
  | [], reading => .ok reading
  | letter :: rest, reading =>
    match Parameter.ofLetter? letter with
    | none => refuse (.unexpectedArgument ("-" ++ letter.toString))
    | some parameter =>
      if parameter.takesValue then
        match rest with
        | [] => reading.awaitValue parameter none
        | '=' :: value => reading.awaitValue parameter (some (String.ofList value))
        | value => reading.awaitValue parameter (some (String.ofList value))
      else do
        readLetters rest (← reading.switch parameter false)

/-- Reads an argument that is no parameter: it must be a value that is waited for. -/
def readFree (argument : String) (reading : Reading) : Outcome :=
  match reading.pending with
  | some (parameter, none) => .ok { reading with pending := some (parameter, some argument) }
  | _ => refuse (.unexpectedArgument argument)

/-- Reads an argument. A hyphen alone is no parameter. -/
def read (reading : Reading) (argument : String) : Outcome :=
  if reading.ended then refuse (.unexpectedArgument argument)
  else
    match argument.toList with
    | ['-', '-'] => .ok { reading with ended := true }
    | '-' :: '-' :: body => reading.readLong body
    | '-' :: letter :: rest => readLetters (letter :: rest) reading
    | _ => reading.readFree argument

/-- Reads arguments and looks at what is pending after the last. -/
def readAll (arguments : List String) (reading : Reading) : Outcome := do
  (← arguments.foldlM read reading).settle

end Reading

/-- **Reads a command line.** -/
def Request.ofArguments (arguments : List String) : Request :=
  match Reading.start.readAll arguments with
  | .ok reading => .run reading.invocation
  | .error request => request

/-- The report of a request that prints nothing. -/
def Request.report : Request → Report
  | .shortHelp => .ofText Usage.short
  | .longHelp => .ofText Usage.long
  | .version => .ofText Usage.version
  | .refused error => ⟨2, .empty, ("error: " ++ error.message ++ "\n").toUTF8⟩
  | .run _ => .ofText ""

end SyntaxOutline
