import SyntaxOutline.Arena.Edit
import Mathlib.Logic.Relation

/-!
# The links of an arena

A tree is drawn with three kinds of links: from a node to its children, from
a node to its parent, and from a node to what decorates it. Here each kind is
a view of its own, which is total: a handle that does not belong to the arena
has no children, no parent and no decoration. The views say all that the
theory of trees needs to know of an arena, and below stands what each change
of an arena does to each of them, so that nothing later has to look at
arrays.

Of the changes only a **link** touches children and parents, and it touches
one entry of each: the children of the parent get one more, and the child
gets its parent. `attach_eq_ok_iff` says when an attachment is carried out,
which is the only way a link comes about.
-/

namespace SyntaxOutline

namespace Arena

variable {arena : Arena} {handle parent child : Handle} {node : Node}

/-- **The parent of a node**, if it has one. -/
def parent? (arena : Arena) (handle : Handle) : Option Handle :=
  (arena.node? handle).elim none Node.parent

/-- What a node is decorated with, if it is. -/
def decoration? (arena : Arena) (handle : Handle) : Option Handle :=
  (arena.node? handle).elim none Node.decoration

/-- **The children of a node** in the order of their attachment. -/
def childrenOf (arena : Arena) (handle : Handle) : List Handle :=
  (arena.node? handle).elim [] Node.children

/-- A step up: the second node is the parent of the first. -/
def ChildOf (arena : Arena) (child parent : Handle) : Prop :=
  arena.parent? child = some parent

/-! ## The views and the look-ups -/

theorem mem_of_node? (h : arena.node? handle = some node) : handle ∈ arena := by
  rw [← isSome_node?_iff, h]
  rfl

theorem exists_node? (h : handle ∈ arena) : ∃ node, arena.node? handle = some node :=
  Option.isSome_iff_exists.1 (isSome_node?_iff.2 h)

theorem parent?_of_node? (h : arena.node? handle = some node) :
    arena.parent? handle = node.parent := by
  show (arena.node? handle).elim none Node.parent = node.parent
  rw [h]
  rfl

theorem decoration?_of_node? (h : arena.node? handle = some node) :
    arena.decoration? handle = node.decoration := by
  show (arena.node? handle).elim none Node.decoration = node.decoration
  rw [h]
  rfl

theorem childrenOf_of_node? (h : arena.node? handle = some node) :
    arena.childrenOf handle = node.children := by
  show (arena.node? handle).elim [] Node.children = node.children
  rw [h]
  rfl

/-- The views show nothing at a handle of another arena. -/
theorem elim_node?_of_not_mem {α : Type} (h : handle ∉ arena) (default : α) (read : Node → α) :
    (arena.node? handle).elim default read = default := by
  rw [node?_eq_none_iff.2 h]
  rfl

/-- Only a node of the arena has a parent. -/
theorem mem_of_parent? (h : arena.parent? child = some parent) : child ∈ arena := by
  by_cases hmem : child ∈ arena
  · exact hmem
  · rw [parent?, elim_node?_of_not_mem hmem] at h
    cases h

/-- Only a node of the arena has children. -/
theorem mem_of_mem_childrenOf (h : child ∈ arena.childrenOf parent) : parent ∈ arena := by
  by_cases hmem : parent ∈ arena
  · exact hmem
  · rw [childrenOf, elim_node?_of_not_mem hmem] at h
    cases h

/-- What begins with a look-up succeeds only if the look-up does. -/
theorem node_bind_eq_ok_iff {α : Type} {rest : Node → Except Fault α} {result : α} :
    (arena.node handle >>= rest) = .ok result
      ↔ ∃ node, arena.node? handle = some node ∧ rest node = .ok result := by
  cases h : arena.node? handle with
  | none =>
    rw [node_of_not_mem (node?_eq_none_iff.1 h)]
    exact ⟨nofun, fun ⟨_, hnode, _⟩ => nomatch hnode⟩
  | some node =>
    rw [node_eq_ok_iff.2 h]
    refine ⟨fun hrest => ⟨node, rfl, hrest⟩, ?_⟩
    rintro ⟨_, ⟨⟩, hrest⟩
    exact hrest

/-- Reading the children of a node of the arena shows the view. -/
theorem children_eq_ok (h : handle ∈ arena) :
    arena.children handle = .ok (arena.childrenOf handle) := by
  obtain ⟨node, hnode⟩ := exists_node? h
  rw [children, node_eq_ok_iff.2 hnode, childrenOf_of_node? hnode]
  rfl

/-- Reading the parent of a node of the arena shows the view. -/
theorem parent_eq_ok (h : handle ∈ arena) :
    arena.parent handle = .ok (arena.parent? handle) := by
  obtain ⟨node, hnode⟩ := exists_node? h
  rw [Arena.parent, node_eq_ok_iff.2 hnode, parent?_of_node? hnode]
  rfl

/-! ## A new node has no links -/

theorem next_not_mem (arena : Arena) : arena.next ∉ arena := by
  intro hmem
  exact Nat.lt_irrefl arena.size hmem.2

/-- An arena only grows by a new node. -/
theorem mem_push_iff {kind : Kind} :
    handle ∈ arena.push kind ↔ handle ∈ arena ∨ handle = arena.next := by
  obtain ⟨tag, index⟩ := handle
  simp only [mem_iff, tag_push, size_push, next, Handle.mk.injEq]
  omega

/-- A view that shows nothing at a detached node is not changed by a new node. -/
theorem elim_node?_push {α : Type} {default : α} {read : Node → α}
    (hread : ∀ number kind, read (.detached number kind) = default) (kind : Kind) (arena : Arena)
    (handle : Handle) :
    ((arena.push kind).node? handle).elim default read
      = (arena.node? handle).elim default read := by
  rw [node?_push]
  by_cases hnext : handle = arena.next
  · rw [if_pos hnext, hnext, elim_node?_of_not_mem arena.next_not_mem]
    show read (.detached _ kind) = default
    exact hread _ kind
  · rw [if_neg hnext]

@[simp] theorem parent?_push (kind : Kind) (arena : Arena) (handle : Handle) :
    (arena.push kind).parent? handle = arena.parent? handle :=
  elim_node?_push (fun _ _ => rfl) kind arena handle

@[simp] theorem decoration?_push (kind : Kind) (arena : Arena) (handle : Handle) :
    (arena.push kind).decoration? handle = arena.decoration? handle :=
  elim_node?_push (fun _ _ => rfl) kind arena handle

@[simp] theorem childrenOf_push (kind : Kind) (arena : Arena) (handle : Handle) :
    (arena.push kind).childrenOf handle = arena.childrenOf handle :=
  elim_node?_push (fun _ _ => rfl) kind arena handle

/-! ## A change at one node -/

/-- A view of what a change keeps is not changed. -/
theorem elim_node?_modify {α : Type} {default : α} {read : Node → α} {change : Node → Node}
    (hread : ∀ node, read (change node) = read node) (handle other : Handle) :
    ((arena.modify handle change).node? other).elim default read
      = (arena.node? other).elim default read := by
  rw [node?_modify]
  split
  · cases arena.node? other with
    | none => rfl
    | some node =>
      show read (change node) = read node
      exact hread node
  · rfl

/-- Each node comes from one that agrees with it in what a change keeps. -/
theorem exists_node?_of_modify {α : Type} (read : Node → α) {change : Node → Node}
    (hread : ∀ node, read (change node) = read node) {other : Handle}
    (h : (arena.modify handle change).node? other = some node) :
    ∃ old, arena.node? other = some old ∧ read node = read old := by
  rw [node?_modify] at h
  split at h
  · obtain ⟨old, hold, rfl⟩ := Option.map_eq_some_iff.1 h
    exact ⟨old, hold, hread old⟩
  · exact ⟨node, h, rfl⟩

/-- Where a change happens, a view shows what the change makes of the node. -/
theorem elim_node?_modify_self {α : Type} {default : α} {read : Node → α} {change : Node → Node}
    (h : arena.node? handle = some node) :
    ((arena.modify handle change).node? handle).elim default read = read (change node) := by
  rw [node?_modify, if_pos rfl, h]
  rfl

/-- Everywhere else a view shows what it showed. -/
theorem elim_node?_modify_of_ne {α : Type} {default : α} {read : Node → α}
    {change : Node → Node} {other : Handle} (h : other ≠ handle) :
    ((arena.modify handle change).node? other).elim default read
      = (arena.node? other).elim default read := by
  rw [node?_modify, if_neg (Ne.symm h)]

/-! ## A link -/

@[simp] theorem mem_link_iff : handle ∈ arena.link parent child ↔ handle ∈ arena := by
  simp only [link, mem_modify_iff]

/-- A link gives the child its parent, and no other node a new one. -/
theorem parent?_link (hchild : child ∈ arena) (parent handle : Handle) :
    (arena.link parent child).parent? handle
      = if handle = child then some parent else arena.parent? handle := by
  obtain ⟨node, hnode⟩ := exists_node? hchild
  -- the second modification touches the children only
  refine Eq.trans (elim_node?_modify (fun _ => by rfl) parent handle) ?_
  by_cases h : handle = child
  · rw [if_pos h, h, elim_node?_modify_self hnode]
  · rw [if_neg h, elim_node?_modify_of_ne h, parent?]

/-- A link puts the child after the children its parent had. -/
theorem childrenOf_link (hparent : parent ∈ arena) (child handle : Handle) :
    (arena.link parent child).childrenOf handle
      = if handle = parent then arena.childrenOf parent ++ [child]
        else arena.childrenOf handle := by
  -- the first modification touches the child's parent only
  have hfirst : ∀ other, (arena.modify child fun node =>
      { node with parent := some parent }).childrenOf other = arena.childrenOf other := by
    intro other
    exact elim_node?_modify (fun _ => by rfl) child other
  obtain ⟨node, hnode⟩ := exists_node? (mem_modify_iff.2 hparent)
  by_cases h : handle = parent
  · rw [if_pos h, h, ← hfirst, childrenOf_of_node? hnode]
    exact elim_node?_modify_self hnode
  · rw [if_neg h, ← hfirst]
    exact elim_node?_modify_of_ne h

/-- A view that looks neither at the parent nor at the children is not changed by a link. -/
theorem elim_node?_link {α : Type} {default : α} {read : Node → α}
    (hread : ∀ (node : Node) (parent : Option Handle) (children : List Handle),
      read { node with parent := parent, children := children } = read node)
    (parent child handle : Handle) :
    ((arena.link parent child).node? handle).elim default read
      = (arena.node? handle).elim default read :=
  (elim_node?_modify (fun node => hread node node.parent _) parent handle).trans
    (elim_node?_modify (fun node => hread node _ node.children) child handle)

theorem decoration?_link (parent child handle : Handle) :
    (arena.link parent child).decoration? handle = arena.decoration? handle :=
  elim_node?_link (fun _ _ _ => rfl) parent child handle

/-- **When a child may be attached under a parent**: both belong to the arena, the child has no
parent yet, and it does not stand above the parent. -/
structure CanAttach (arena : Arena) (parent child : Handle) : Prop where
  parent_mem : parent ∈ arena
  child_mem : child ∈ arena
  free : arena.parent? child = none
  not_above : child ∉ arena.ancestors parent

/-- **An attachment is carried out just if it may be**, and then it is a link. -/
theorem attach_eq_ok_iff {changed : Arena} :
    arena.attach parent child = .ok changed
      ↔ arena.CanAttach parent child ∧ changed = arena.link parent child := by
  unfold attach
  rw [node_bind_eq_ok_iff]
  constructor
  · rintro ⟨parentNode, hparent, h⟩
    rw [node_bind_eq_ok_iff] at h
    obtain ⟨childNode, hchild, h⟩ := h
    have hview := parent?_of_node? hchild
    cases howner : childNode.parent with
    | some owner =>
      rw [howner] at h
      cases h
    | none =>
      rw [howner] at h hview
      dsimp only at h
      split at h
      · cases h
      · next hnot =>
        exact ⟨⟨mem_of_node? hparent, mem_of_node? hchild, hview, hnot⟩, (Except.ok.inj h).symm⟩
  · rintro ⟨hcan, rfl⟩
    obtain ⟨parentNode, hparent⟩ := exists_node? hcan.parent_mem
    obtain ⟨childNode, hchild⟩ := exists_node? hcan.child_mem
    refine ⟨parentNode, hparent, node_bind_eq_ok_iff.2 ⟨childNode, hchild, ?_⟩⟩
    rw [← parent?_of_node? hchild, hcan.free]
    show (if child ∈ arena.ancestors parent then _ else Except.ok (arena.link parent child)) = _
    exact if_neg hcan.not_above

end Arena

end SyntaxOutline
