/-!
# Parameters

What may be said on the command line. Every parameter has a long name, most have a letter too, and
three of them take a value.
-/

namespace SyntaxOutline

/-- **A parameter of the command line.** -/
inductive Parameter where
  /-- Which sample is printed. -/
  | sample
  /-- The heading of the root line. -/
  | rootLabel
  /-- The file that the outline goes to. -/
  | output
  /-- Whether more is told. -/
  | verbose
  /-- Whether statistics follow the outline. -/
  | timing
  /-- Asks for help. -/
  | help
  /-- Asks for the version. -/
  | version
  deriving DecidableEq

namespace Parameter

/-- All parameters, in the order in which the help shows them. -/
def all : List Parameter := [sample, rootLabel, output, verbose, timing, help, version]

/-- The name that follows two hyphens. -/
def longName : Parameter → String
  | sample => "sample"
  | rootLabel => "root-label"
  | output => "output"
  | verbose => "verbose"
  | timing => "timing"
  | help => "help"
  | version => "version"

/-- The letter that follows one hyphen. -/
def letter? : Parameter → Option Char
  | sample => some 's'
  | rootLabel => none
  | output => some 'o'
  | verbose => some 'v'
  | timing => some 't'
  | help => some 'h'
  | version => some 'V'

/-- The name of the value, for the parameters that take one. -/
def valueName? : Parameter → Option String
  | sample => some "SAMPLE"
  | rootLabel => some "ROOT_LABEL"
  | output => some "OUTPUT"
  | verbose | timing | help | version => none

/-- Whether a parameter takes a value. -/
def takesValue (parameter : Parameter) : Bool := parameter.valueName?.isSome

/-- How messages speak of a parameter. -/
def display (parameter : Parameter) : String :=
  match parameter.valueName? with
  | some value => "--" ++ parameter.longName ++ " <" ++ value ++ ">"
  | none => "--" ++ parameter.longName

/-- The parameter of a long name. -/
def ofLongName? (name : String) : Option Parameter :=
  all.find? (·.longName == name)

/-- The parameter of a letter. -/
def ofLetter? (letter : Char) : Option Parameter :=
  all.find? (·.letter? == some letter)

@[simp] theorem ofLongName?_longName (parameter : Parameter) :
    ofLongName? parameter.longName = some parameter := by
  cases parameter <;> decide

theorem ofLetter?_eq_some {parameter : Parameter} {letter : Char}
    (h : parameter.letter? = some letter) : ofLetter? letter = some parameter := by
  cases parameter <;> cases h <;> decide

end Parameter

end SyntaxOutline
