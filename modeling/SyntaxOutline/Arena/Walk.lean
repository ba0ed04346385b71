import SyntaxOutline.Arena.Basic

/-!
# Walking a tree

A walk visits a node before its descendants, and the children of a node in their order. What a visit
does is the **act**, an action on some state that may fail; a failure ends the whole walk and leaves
the state as the act left it. The depth is handed down from node to node: it counts from where the
walk began and has nothing to do with how deep the node stands in its tree. Here it may be as great
as it likes; what a machine makes of a walk that begins too deep for its words, is another matter
(`Machine.visit`).

A walk from a node of a forest goes down at most as many levels as the arena has nodes, so
`Arena.visit` allows for that many and the one more at which a foreign handle is found out.
-/

namespace SyntaxOutline

/-- What a walk does at a node that it meets at a depth. -/
abbrev Act (σ : Type) := Handle → Nat → EStateM Fault σ Unit

namespace Arena

variable {σ : Type}

/-- **Visits every child** of a node in stored order, one level deeper than the node, as deep as that
may be (see `Machine.walkChildren`). -/
def walkChildren (arena : Arena) (visit : Act σ) (node : Handle) (depth : Nat) :
    EStateM Fault σ Unit := do
  let children ← MonadExcept.ofExcept (arena.children node)
  children.forM fun child => visit child (depth + 1)

/-- Visits a node and what stands below it, on the given number of levels. -/
def visitWithin (arena : Arena) (act : Act σ) : Nat → Act σ
  | 0, _, _ => pure ()
  | levels + 1, node, depth => do
    act node depth
    arena.walkChildren (arena.visitWithin act levels) node depth

/-- **Visits a node and all its descendants** in pre-order. -/
def visit (arena : Arena) (act : Act σ) : Act σ :=
  arena.visitWithin act (arena.size + 1)

/-- What a walk that keeps a record has met: the nodes in the order of the visits, each with the
depth at which it was met. -/
abbrev Visits := List (Handle × Nat)

/-- The act that records every visit. Given a limit, it refuses the visit after that many. -/
def record (limit : Option Nat) : Act Visits := fun node depth seen =>
  match limit with
  | some most =>
    if most ≤ seen.length then .error (.output "visit limit") seen
    else .ok () (seen ++ [(node, depth)])
  | none => .ok () (seen ++ [(node, depth)])

/-- A walk from a handle that does not belong to the arena ends before it begins. -/
theorem walkChildren_of_not_mem {arena : Arena} {node : Handle} (h : node ∉ arena)
    (visit : Act σ) (depth : Nat) (state : σ) :
    arena.walkChildren visit node depth state = .error (.unknownNode node) state := by
  unfold walkChildren children
  rw [node_of_not_mem h]
  rfl

/-- A walk over the children of a node is a run of visits over its list of children. -/
theorem walkChildren_of_node? {arena : Arena} {node : Handle} {entry : Node}
    (h : arena.node? node = some entry) (visit : Act σ) (depth : Nat) :
    arena.walkChildren visit node depth =
      entry.children.forM fun child => visit child (depth + 1) := by
  unfold walkChildren children
  rw [node_eq_ok_iff.2 h]
  rfl

end Arena

end SyntaxOutline
