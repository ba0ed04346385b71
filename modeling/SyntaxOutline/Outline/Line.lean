/-!
# Lines of an outline

An outline has one line for each node, and a line has up to six parts. It opens with the **number
field**, the node's number and a colon, filled up with blanks so that numbers of up to three digits
line up; a wider number is written as it is and pushes the rest of its line to the right. Two blanks
for each level of depth follow, then the heading. After it come, in this order and each only if
there is something to say, the number of the node's decoration, its label, and the address of its
frame slot.

A `Line` keeps the parts apart and `Line.text` puts them together, so that what a line says and how
it is written can be spoken of separately. Within an outline no line stands deeper than the arena
has nodes. A line that is asked for at any depth may be too long for a machine to put together
(`Machine.formatLine`).
-/

namespace SyntaxOutline

/-- The given number of blanks. -/
def blanks (count : Nat) : String :=
  String.ofList (List.replicate count ' ')

@[simp] theorem toList_blanks (count : Nat) : (blanks count).toList = List.replicate count ' ' := by
  simp [blanks]

/-- **The number field**: the decimal digits and a colon, filled up to four characters. -/
def numberField (number : Nat) : String :=
  let digits := number.repr
  digits ++ ":" ++ blanks (3 - digits.length)

/-- The blanks that set a line off by its depth, two for each level, as long as there is room for
them (see `Machine.indentation`). -/
def indentation (depth : Nat) : String :=
  blanks (2 * depth)

/-- **The parts of a line**, before they are written one after the other. -/
structure Line where
  /-- The number of the node. -/
  number : Nat
  /-- How many levels the line is set off. -/
  depth : Nat
  /-- What stands for the node itself, its base label as a rule. -/
  heading : String
  /-- The number of the node that decorates this one. -/
  decoration : Option Nat
  /-- The node's label, empty for none. -/
  label : String
  /-- The offset of the node's frame slot. -/
  address : Option Nat
  deriving DecidableEq

namespace Line

/-- The part that names the decoration. -/
def decorationPart : Option Nat → String
  | some number => "  Dec: " ++ number.repr
  | none => ""

/-- The part that shows the label. An empty label is no label. -/
def labelPart (label : String) : String :=
  if label = "" then "" else "  Label: " ++ label

/-- The part that shows the address. -/
def addressPart : Option Nat → String
  | some offset => "  Addr: " ++ offset.repr
  | none => ""

/-- **The text of a line**, without the newline that ends it. -/
def text (line : Line) : String :=
  numberField line.number ++ indentation line.depth ++ line.heading ++
    decorationPart line.decoration ++ labelPart line.label ++ addressPart line.address

@[simp] theorem decorationPart_none : decorationPart none = "" := rfl

@[simp] theorem labelPart_empty : labelPart "" = "" := rfl

@[simp] theorem addressPart_none : addressPart none = "" := rfl

theorem labelPart_of_ne {label : String} (h : label ≠ "") :
    labelPart label = "  Label: " ++ label := if_neg h

end Line

end SyntaxOutline
