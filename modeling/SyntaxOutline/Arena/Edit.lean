import SyntaxOutline.Arena.Ancestry

/-!
# Changing a tree

Eight **edits** make up the life of an arena. Two add a node: on its own, or with children taken
from the nodes that stand alone. One attaches a node under another. The rest set or clear what a
node says of itself: its decoration, its label and its frame offset.

A tree stays a tree because an attachment is refused unless the child has no parent yet and does not
stand above its new parent. Since the child has no parent, it can stand above the new parent only as
the last of its ancestors, or be the parent itself; looking through the ancestors of the parent
finds both. A refused edit leaves the arena as it was, with one exception that is part of the
meaning of an addition with children: the node stays, and it keeps the children that were attached
before the one refused.
-/

namespace SyntaxOutline

/-- **An edit** of an arena. -/
inductive Edit where
  /-- Adds a detached node. -/
  | add (kind : Kind)
  /-- Adds a node and attaches the given nodes under it, from left to right. -/
  | addOver (kind : Kind) (children : List Handle)
  /-- Makes `child` the last child of `parent`. -/
  | attach (parent child : Handle)
  /-- Lets `node` refer to `target`. -/
  | decorate (node target : Handle)
  | clearDecoration (node : Handle)
  | setLabel (node : Handle) (label : String)
  | setFrameOffset (node : Handle) (offset : Nat)
  | clearFrameOffset (node : Handle)
  deriving DecidableEq

namespace Arena

/-- Links a child under a parent, after its siblings, without asking whether it may stand there. -/
def link (parent child : Handle) (arena : Arena) : Arena :=
  (arena.modify child fun node => { node with parent := some parent }).modify parent
    fun node => { node with children := node.children ++ [child] }

/-- **Attaches a child** as the last one of a parent. Both must belong to the arena, the child must
have no parent, and it must not stand above the new parent. -/
def attach (parent child : Handle) (arena : Arena) : Except Fault Arena := do
  let _ ← arena.node parent
  let node ← arena.node child
  match node.parent with
  | some owner => .error (.alreadyAttached child owner)
  | none =>
    if child ∈ arena.ancestors parent then .error (.cycle parent child)
    else .ok (arena.link parent child)

/-- Attaches the given nodes one after the other and stops at the first that is refused; those
before it stay attached. -/
def attachEach (parent : Handle) : List Handle → Arena → Except Fault Unit × Arena
  | [], arena => (.ok (), arena)
  | child :: rest, arena =>
    match arena.attach parent child with
    | .ok attached => attached.attachEach parent rest
    | .error fault => (.error fault, arena)

/-- Adds a node and attaches the given nodes under it. The node stays, whatever becomes of them. -/
def pushOver (kind : Kind) (children : List Handle) (arena : Arena) : Except Fault Unit × Arena :=
  (arena.push kind).attachEach arena.next children

/-- Decorates a node with a target, which replaces the decoration it had. -/
def decorate (node target : Handle) (arena : Arena) : Except Fault Arena := do
  let _ ← arena.node node
  let _ ← arena.node target
  .ok (arena.modify node fun entry => { entry with decoration := some target })

/-- Takes the decoration of a node away, if it has one. -/
def clearDecoration (node : Handle) (arena : Arena) : Except Fault Arena := do
  let _ ← arena.node node
  .ok (arena.modify node fun entry => { entry with decoration := none })

/-- Replaces the label of a node. -/
def setLabel (node : Handle) (label : String) (arena : Arena) : Except Fault Arena := do
  let _ ← arena.node node
  .ok (arena.modify node fun entry => { entry with label := label })

/-- Replaces or withdraws the frame offset of an identifier. -/
def putFrameOffset (node : Handle) (offset : Option Nat) (arena : Arena) : Except Fault Arena := do
  let entry ← arena.node node
  match entry.kind.withFrameOffset? offset with
  | some kind => .ok (arena.modify node fun entry => { entry with kind := kind })
  | none => .error (.notIdentifier node entry.kind)

/-- What has become of an edit of one node: the node and the changed arena, or the fault and the
arena as it was. -/
def settle (arena : Arena) (node : Handle) : Except Fault Arena → Except Fault Handle × Arena
  | .ok changed => (.ok node, changed)
  | .error fault => (.error fault, arena)

/-- **Carries out an edit.** The answer is the handle of the node that the edit has added, or of the
node whose entry it has changed, which for an attachment is the parent. -/
def apply (edit : Edit) (arena : Arena) : Except Fault Handle × Arena :=
  match edit with
  | .add kind => (.ok arena.next, arena.push kind)
  | .addOver kind children =>
    let (outcome, changed) := arena.pushOver kind children
    (outcome.map fun _ => arena.next, changed)
  | .attach parent child => arena.settle parent (arena.attach parent child)
  | .decorate node target => arena.settle node (arena.decorate node target)
  | .clearDecoration node => arena.settle node (arena.clearDecoration node)
  | .setLabel node label => arena.settle node (arena.setLabel node label)
  | .setFrameOffset node offset => arena.settle node (arena.putFrameOffset node (some offset))
  | .clearFrameOffset node => arena.settle node (arena.putFrameOffset node none)

/-- The arena that a list of edits leaves behind, the refused ones included. -/
def applyAll (edits : List Edit) (arena : Arena) : Arena :=
  edits.foldl (fun arena edit => (arena.apply edit).2) arena

/-! ## A link changes two nodes -/

@[simp] theorem tag_link (parent child : Handle) (arena : Arena) :
    (arena.link parent child).tag = arena.tag := by
  simp [link]

@[simp] theorem size_link (parent child : Handle) (arena : Arena) :
    (arena.link parent child).size = arena.size := by
  simp [link]

/-- A link touches the parent and the child, and no other node. -/
theorem node?_link_of_ne {parent child other : Handle} (arena : Arena)
    (hparent : parent ≠ other) (hchild : child ≠ other) :
    (arena.link parent child).node? other = arena.node? other := by
  simp [link, node?_modify, hparent, hchild]

@[simp] theorem attachEach_nil (parent : Handle) (arena : Arena) :
    arena.attachEach parent [] = (.ok (), arena) := rfl

@[simp] theorem applyAll_nil (arena : Arena) : arena.applyAll [] = arena := rfl

theorem applyAll_append (first second : List Edit) (arena : Arena) :
    arena.applyAll (first ++ second) = (arena.applyAll first).applyAll second :=
  List.foldl_append

end Arena

end SyntaxOutline
