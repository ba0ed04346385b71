import SyntaxOutline.Handle
import SyntaxOutline.Kind

/-!
# Faults

Everything that can go wrong, by cause. Two causes lie outside the trees: a device that refuses
bytes, and output that cannot be opened or finished. The other four are refusals of an arena: a
handle it never issued, a second attachment, an attachment that would close a cycle, and a frame
offset for a node that has none. The wording is in one place, `Fault.message`.
-/

namespace SyntaxOutline

/-- **What went wrong.** -/
inductive Fault where
  /-- The device behind a sink refused; the text is the device's own. -/
  | io (text : String)
  /-- Output could not be opened or finished. -/
  | output (text : String)
  /-- The arena does not hold the node. -/
  | unknownNode (node : Handle)
  /-- The child is owned by `parent` already. -/
  | alreadyAttached (child parent : Handle)
  /-- The parent stands at or below the child. -/
  | cycle (parent child : Handle)
  /-- A frame offset was asked of a node of another kind than an identifier. -/
  | notIdentifier (node : Handle) (kind : Kind)
  deriving DecidableEq

namespace Fault

/-- The message shown for a fault. -/
def message : Fault → String
  | io text => "I/O error: " ++ text
  | output text => "Output error: " ++ text
  | unknownNode node => "Node " ++ toString node ++ " does not belong to this tree"
  | alreadyAttached child parent =>
    "Node " ++ toString child ++ " is already a child of node " ++ toString parent
  | cycle parent child =>
    "Attaching node " ++ toString child ++ " under node " ++ toString parent ++
      " would create a cycle"
  | notIdentifier node kind =>
    "Node " ++ toString node ++ " is a " ++ kind.name ++
      " node; only Id nodes carry a frame offset"

/-- The cause beneath the fault: the words of the device, where it was a device that refused. -/
def source : Fault → Option String
  | io text => some text
  | _ => none

end Fault

end SyntaxOutline
