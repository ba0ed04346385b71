import SyntaxOutline.Arena.Walk

/-!
# Measuring a tree

Two measures of a tree are taken in two ways. Its **size** is counted with a stack of nodes that are
still to be looked at. The **tally** is taken along a walk, and counts the nodes, the deepest level
and the decorated nodes at once.

A tally may be carried on from one walk to the next. A visit counts its node, at the depth it is
given, before it looks the node up, so a visit that fails on a foreign handle has counted it.

The numbers of a tally that begins with nothing are bounded by the size of the arena. Those of one
that is carried on need not be, and on a machine they may come to an end (`Machine.tallyEach`).
-/

namespace SyntaxOutline

/-- **A tally** of the nodes met on walks. -/
structure Tally where
  /-- How many nodes were met. -/
  nodes : Nat
  /-- The greatest depth at which one was met. -/
  maxDepth : Nat
  /-- How many of them bear a decoration. -/
  decorated : Nat
  deriving DecidableEq

namespace Tally

/-- Nothing met yet. -/
def zero : Tally := ⟨0, 0, 0⟩

/-- Counts a node met at a depth. Where the count is a word, see `Machine.count`. -/
def enter (depth : Nat) (tally : Tally) : Tally :=
  { tally with nodes := tally.nodes + 1, maxDepth := max tally.maxDepth depth }

/-- Counts a decorated node. -/
def adorn (tally : Tally) : Tally :=
  { tally with decorated := tally.decorated + 1 }

end Tally

namespace Arena

/-- The act that counts a node. -/
def count (arena : Arena) : Act Tally := fun node depth tally =>
  let entered := tally.enter depth
  match arena.decoration node with
  | .ok (some _) => .ok () entered.adorn
  | .ok none => .ok () entered
  | .error fault => .error fault entered

/-- **The tally of a tree**, with depths counted from its root. -/
def tally (arena : Arena) (root : Handle) : Except Fault Tally :=
  match arena.visit arena.count root 0 Tally.zero with
  | .ok _ tally => .ok tally
  | .error fault _ => .error fault

/-- Carries a tally on over a list of visits, each of a node at a depth, up to the first that fails.
The tally is part of the result whether or not one does. -/
def tallyEach (arena : Arena) (visits : List (Handle × Nat)) (tally : Tally) :
    Except Fault Unit × Tally :=
  let run : EStateM Fault Tally Unit :=
    visits.forM fun (node, depth) => arena.visit arena.count node depth
  match run tally with
  | .ok _ tally => (.ok (), tally)
  | .error fault tally => (.error fault, tally)

/-- Counts the nodes on a stack and below: takes the top node off, counts it, and puts its children
on, so that the last child is next. -/
def countPending (arena : Arena) : Nat → List Handle → Nat → Except Fault Nat
  | _, [], counted => .ok counted
  | 0, _ :: _, counted => .ok counted
  | steps + 1, node :: rest, counted => do
    let children ← arena.children node
    arena.countPending steps (children.reverse ++ rest) (counted + 1)

/-- **The size of a tree**: how many nodes stand at or below its root. Each is taken off the stack
once, and a foreign handle once, so one step more than the arena has nodes is enough. -/
def subtreeSize (arena : Arena) (root : Handle) : Except Fault Nat :=
  arena.countPending (arena.size + 1) [root] 0

end Arena

end SyntaxOutline
