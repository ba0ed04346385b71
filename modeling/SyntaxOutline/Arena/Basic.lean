import SyntaxOutline.Fault
import SyntaxOutline.Node

/-!
# Arenas

An arena owns the nodes of a syntax tree, together with any that stand alone because other nodes
only refer to them. Nodes are never removed: the first is at position 0, each new one takes the next
position, and the number of a node is one more than its position.

The arena looks a handle up only if the handle bears the arena's own tag. So a handle that was
issued by another arena is unknown here, whatever its position. The view of an arena is `node?`, and
the lemmas below say what the two basic changes do to it: `push` puts a detached node at `next`, and
`modify` changes the node at one handle and no other.
-/

namespace SyntaxOutline

/-- **An arena** of syntax nodes. -/
structure Arena where
  /-- What tells the handles of this arena from those of others. -/
  tag : Nat
  nodes : Array Node
  deriving DecidableEq

namespace Arena

/-- The arena that holds no node. -/
def empty (tag : Nat) : Arena := ⟨tag, #[]⟩

/-- How many nodes the arena holds. -/
def size (arena : Arena) : Nat := arena.nodes.size

/-- A handle belongs to an arena if it bears the arena's tag and a node stands at its position. -/
instance : Membership Handle Arena :=
  ⟨fun arena handle => handle.tag = arena.tag ∧ handle.index < arena.size⟩

theorem mem_iff {arena : Arena} {handle : Handle} :
    handle ∈ arena ↔ handle.tag = arena.tag ∧ handle.index < arena.size := Iff.rfl

instance (arena : Arena) (handle : Handle) : Decidable (handle ∈ arena) :=
  inferInstanceAs (Decidable (handle.tag = arena.tag ∧ handle.index < arena.size))

/-- **The node at a handle**, if the handle belongs to the arena. -/
def node? (arena : Arena) (handle : Handle) : Option Node :=
  if handle.tag = arena.tag then arena.nodes[handle.index]? else none

/-- The node at a handle; a handle that does not belong to the arena is a fault. -/
def node (arena : Arena) (handle : Handle) : Except Fault Node :=
  match arena.node? handle with
  | some node => .ok node
  | none => .error (.unknownNode handle)

/-- The handle that the next node will get. -/
def next (arena : Arena) : Handle := ⟨arena.tag, arena.size⟩

/-- The handles of all nodes, in the order of their positions. -/
def handles (arena : Arena) : List Handle :=
  (List.range arena.size).map fun index => ⟨arena.tag, index⟩

/-- Adds a detached node of the given kind; its handle is `next` as it was before. -/
def push (kind : Kind) (arena : Arena) : Arena :=
  { arena with nodes := arena.nodes.push (Node.detached (arena.size + 1) kind) }

/-- Changes the node at a handle; nothing happens at a handle that does not belong to the arena. -/
def modify (handle : Handle) (change : Node → Node) (arena : Arena) : Arena :=
  if handle.tag = arena.tag then
    { arena with nodes := arena.nodes.modify handle.index change }
  else
    arena

/-! ## Reading one field -/

/-- The number of a node. -/
def number (arena : Arena) (handle : Handle) : Except Fault Nat :=
  (arena.node handle).map Node.number

/-- The kind of a node. -/
def kind (arena : Arena) (handle : Handle) : Except Fault Kind :=
  (arena.node handle).map Node.kind

/-- The children of a node in the order of their attachment. -/
def children (arena : Arena) (handle : Handle) : Except Fault (List Handle) :=
  (arena.node handle).map Node.children

/-- The node that owns a node, if any does. -/
def parent (arena : Arena) (handle : Handle) : Except Fault (Option Handle) :=
  (arena.node handle).map Node.parent

/-- The node that a node is decorated with. -/
def decoration (arena : Arena) (handle : Handle) : Except Fault (Option Handle) :=
  (arena.node handle).map Node.decoration

/-- The label of a node, empty for none. -/
def label (arena : Arena) (handle : Handle) : Except Fault String :=
  (arena.node handle).map Node.label

/-- The offset of a node's frame slot; only identifiers have one. -/
def frameOffset (arena : Arena) (handle : Handle) : Except Fault (Option Nat) :=
  (arena.node handle).map (·.kind.frameOffset)

/-! ## What belongs to an arena -/

theorem isSome_node?_iff {arena : Arena} {handle : Handle} :
    (arena.node? handle).isSome ↔ handle ∈ arena := by
  by_cases htag : handle.tag = arena.tag <;> simp [node?, mem_iff, size, htag]

theorem node?_eq_none_iff {arena : Arena} {handle : Handle} :
    arena.node? handle = none ↔ handle ∉ arena := by
  rw [← isSome_node?_iff, Option.not_isSome_iff_eq_none]

theorem node_eq_ok_iff {arena : Arena} {handle : Handle} {node : Node} :
    arena.node handle = .ok node ↔ arena.node? handle = some node := by
  unfold Arena.node
  cases arena.node? handle <;> simp

/-- A look-up fails exactly for the handles of others, and then it names the handle it was given. -/
theorem node_eq_error_iff {arena : Arena} {handle : Handle} {fault : Fault} :
    arena.node handle = .error fault ↔ handle ∉ arena ∧ fault = .unknownNode handle := by
  rw [← node?_eq_none_iff]
  unfold Arena.node
  cases arena.node? handle <;> simp [eq_comm]

theorem node_of_not_mem {arena : Arena} {handle : Handle} (h : handle ∉ arena) :
    arena.node handle = .error (.unknownNode handle) :=
  node_eq_error_iff.2 ⟨h, rfl⟩

theorem mem_handles_iff {arena : Arena} {handle : Handle} :
    handle ∈ arena.handles ↔ handle ∈ arena := by
  obtain ⟨tag, index⟩ := handle
  simp only [handles, List.mem_map, List.mem_range, Handle.mk.injEq, mem_iff]
  constructor
  · rintro ⟨_, hlt, rfl, rfl⟩
    exact ⟨rfl, hlt⟩
  · rintro ⟨rfl, hlt⟩
    exact ⟨index, hlt, rfl, rfl⟩

/-! ## What the basic changes do to the view -/

@[simp] theorem tag_empty (tag : Nat) : (empty tag).tag = tag := rfl

@[simp] theorem size_empty (tag : Nat) : (empty tag).size = 0 := rfl

theorem not_mem_empty (tag : Nat) (handle : Handle) : handle ∉ empty tag :=
  fun hmem => Nat.not_lt_zero _ hmem.2

@[simp] theorem tag_push (kind : Kind) (arena : Arena) : (arena.push kind).tag = arena.tag := rfl

@[simp] theorem size_push (kind : Kind) (arena : Arena) :
    (arena.push kind).size = arena.size + 1 := by
  simp [push, size]

/-- A new node stands at `next`, and the others stand where they stood. -/
theorem node?_push (kind : Kind) (arena : Arena) (handle : Handle) :
    (arena.push kind).node? handle =
      if handle = arena.next then some (Node.detached (arena.size + 1) kind)
      else arena.node? handle := by
  obtain ⟨tag, index⟩ := handle
  by_cases htag : tag = arena.tag
  · simp [node?, push, next, size, htag, Array.getElem?_push]
  · simp [node?, push, next, htag]

@[simp] theorem tag_modify (handle : Handle) (change : Node → Node) (arena : Arena) :
    (arena.modify handle change).tag = arena.tag := by
  unfold modify
  split <;> rfl

@[simp] theorem size_modify (handle : Handle) (change : Node → Node) (arena : Arena) :
    (arena.modify handle change).size = arena.size := by
  unfold modify
  split <;> simp [size]

@[simp] theorem mem_modify_iff {handle other : Handle} {change : Node → Node} {arena : Arena} :
    other ∈ arena.modify handle change ↔ other ∈ arena := by
  simp [mem_iff]

/-- A change at one handle leaves every other node as it is. -/
theorem node?_modify (handle other : Handle) (change : Node → Node) (arena : Arena) :
    (arena.modify handle change).node? other =
      if handle = other then (arena.node? other).map change else arena.node? other := by
  obtain ⟨tag, index⟩ := handle
  obtain ⟨tag', index'⟩ := other
  by_cases htag : tag = arena.tag <;> by_cases htag' : tag' = arena.tag
  · simp [node?, modify, htag, htag', Array.getElem?_modify]
  · have hne : ¬ arena.tag = tag' := fun h => htag' h.symm
    simp [node?, modify, htag, htag', hne]
  · simp [node?, modify, htag, htag']
  · simp [node?, modify, htag, htag']

end Arena

end SyntaxOutline
