import SyntaxOutline.CommandLine.Parameter
import SyntaxOutline.Text.Visible

/-!
# Usage

The texts that have to do with using the command line: what is said of a command line that is
refused, and what is shown on request. What is said of a command line quotes it, but only what is
visible of it, so that nothing typed there can tell the terminal what to do.
-/

namespace SyntaxOutline

/-- **Why a command line is refused.** -/
inductive UsageError where
  /-- The value is none of those the parameter may have. -/
  | invalidValue (value : String) (parameter : Parameter)
  /-- The parameter has no value, or an empty one where that will not do. -/
  | valueRequired (parameter : Parameter)
  /-- The argument means nothing here. -/
  | unexpectedArgument (argument : String)
  /-- The parameter takes no value. -/
  | unexpectedValue (value : String) (parameter : Parameter)
  /-- The parameter was there before. -/
  | repeated (parameter : Parameter)
  deriving DecidableEq

/-- The message shown for a command line that is refused. -/
def UsageError.message : UsageError → String
  | invalidValue value parameter =>
    "invalid value '" ++ visible value ++ "' for '" ++ parameter.display ++ "'"
  | valueRequired parameter =>
    "a value is required for '" ++ parameter.display ++ "' but none was supplied"
  | unexpectedArgument argument => "unexpected argument '" ++ visible argument ++ "' found"
  | unexpectedValue value parameter =>
    "unexpected value '" ++ visible value ++ "' for '" ++ parameter.display ++
      "' found; no more were expected"
  | repeated parameter =>
    "the argument '" ++ parameter.display ++ "' cannot be used multiple times"

/-- The text of lines, each ended by a newline. -/
def ofLines (lines : List String) : String :=
  String.join (lines.map (· ++ "\n"))

namespace Usage

/-- What is shown when the version is asked for. -/
def version : String := ofLines ["xtree 0.1.0"]

/-- The help in short. -/
def short : String := ofLines [
  "Print a decorated abstract syntax tree as indented text",
  "",
  "Usage: xtree [OPTIONS]",
  "",
  "Options:",
  "  -s, --sample <SAMPLE>          [default: factorial] [possible values: factorial, outline, nested]",
  "      --root-label <ROOT_LABEL>  ",
  "  -o, --output <OUTPUT>          ",
  "  -v, --verbose                  ",
  "  -t, --timing                   ",
  "  -h, --help                     Print help (see more with '--help')",
  "  -V, --version                  Print version"]

/-- The help at length. -/
def long : String := ofLines [
  "Print a decorated abstract syntax tree as indented text.",
  "Each line shows the node number, the node kind indented by depth,",
  "and any decoration, label or frame address attached to the node.",
  "",
  "Example usage:",
  "xtree                              # Print the factorial sample",
  "xtree --sample outline             # Print another sample tree",
  "xtree --root-label root            # Override the root line's label",
  "xtree -o tree.txt                  # Write to a file",
  "xtree --timing                     # Show tree statistics",
  "",
  "Usage: xtree [OPTIONS]",
  "",
  "Options:",
  "  -s, --sample <SAMPLE>",
  "          Possible values:",
  "          - factorial: Recursive factorial program with types, labels and frame offsets",
  "          - outline:   Root with three kids, the middle one holding three more",
  "          - nested:    Program, Block and Decl nested in a single chain",
  "          ",
  "          [default: factorial]",
  "",
  "      --root-label <ROOT_LABEL>",
  "          ",
  "",
  "  -o, --output <OUTPUT>",
  "          ",
  "",
  "  -v, --verbose",
  "          ",
  "",
  "  -t, --timing",
  "          ",
  "",
  "  -h, --help",
  "          Print help (see a summary with '-h')",
  "",
  "  -V, --version",
  "          Print version"]

end Usage

end SyntaxOutline
