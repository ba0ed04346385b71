import Mathlib.Algebra.GroupWithZero.Nat
import SyntaxOutline.Proofs.Deeds
import SyntaxOutline.Proofs.Printing
import SyntaxOutline.Proofs.Reachable

/-!
# The roots of an arena

A **root** is a node without a parent. Every node of a forest belongs to the
tree of one root and no other: the way up from the node ends at a root, and
the way up passes no other root before it (`IsForest.exists_root`). So the
trees of all roots, one after the other, are the whole arena, with no node
left out and none named twice (`IsForest.flatMap_preorder_perm`), and what is
counted or printed along them is counted or printed once for every node.

How many roots there are can be told from the history of the arena. A new
node is a root, and an attachment takes one root away and no more, since the
child was a root before and the parent stays what it was. Nothing else makes
or takes a root. Hence the roots and the attachments together are as many as
the nodes (`Deed.LeadsAll.length_roots`).
-/

namespace SyntaxOutline

namespace Arena

variable {arena : Arena} {handle root parent child : Handle}

/-- **The roots of an arena**, in the order of their positions. -/
def roots (arena : Arena) : List Handle :=
  arena.handles.filter fun handle => (arena.parent? handle).isNone

theorem mem_roots_iff : root ∈ arena.roots ↔ root ∈ arena ∧ arena.parent? root = none := by
  rw [roots, List.mem_filter, mem_handles_iff, Option.isNone_iff_eq_none]

theorem nodup_roots (arena : Arena) : arena.roots.Nodup :=
  arena.nodup_handles.filter _

/-- The roots are the nodes that are found to have no parent. -/
theorem mem_roots_iff_parent : root ∈ arena.roots ↔ arena.parent root = .ok none := by
  rw [mem_roots_iff]
  by_cases h : root ∈ arena
  · obtain ⟨node, hnode⟩ := exists_node? h
    rw [parent?_of_node? hnode, Arena.parent, node_eq_ok_iff.2 hnode]
    exact ⟨fun hroot => congrArg Except.ok hroot.2, fun hok => ⟨h, Except.ok.inj hok⟩⟩
  · rw [Arena.parent, node_of_not_mem h]
    refine ⟨fun hroot => absurd hroot.1 h, fun hok => ?_⟩
    cases hok

/-! ## The root of a node -/

namespace IsForest

/-- **The way up from a node ends at a root**, and meets no other. -/
theorem exists_root (hforest : arena.IsForest) (h : handle ∈ arena) :
    ∃ root, (arena.ancestors handle).getLast? = some root ∧
      ∀ other, other ∈ arena.roots ∧ other ∈ arena.ancestors handle ↔ other = root := by
  induction handle, h using hforest.induction_up with
  | root handle hmem hparent =>
    rw [hforest.ancestors_of_root hmem hparent]
    refine ⟨handle, rfl, fun other => ?_⟩
    rw [List.mem_singleton, mem_roots_iff]
    refine ⟨fun hother => hother.2, ?_⟩
    rintro rfl
    exact ⟨⟨hmem, hparent⟩, rfl⟩
  | child child parent hparent ih =>
    obtain ⟨root, hlast, hroot⟩ := ih
    rw [hforest.ancestors_of_parent? hparent]
    refine ⟨root, ?_, fun other => ?_⟩
    · rw [List.getLast?_cons, hlast]
      rfl
    · rw [← hroot other, List.mem_cons]
      refine and_congr_right (fun hother => or_iff_right ?_)
      -- the node itself has a parent
      rintro rfl
      rw [mem_roots_iff, hparent] at hother
      cases hother.2

/-- **The trees of all roots are the whole arena**, in whatever order they are taken. -/
theorem flatMap_preorder_perm (hforest : arena.IsForest) {order : List Handle}
    (horder : order.Perm arena.roots) :
    (order.flatMap fun root => (arena.tree root).preorder).Perm arena.handles := by
  refine (horder.flatMap_right _).trans ?_
  have hmem : ∀ root ∈ arena.roots, root ∈ arena := fun root hroot => (mem_roots_iff.1 hroot).1
  have hnodup : (arena.roots.flatMap fun root => (arena.tree root).preorder).Nodup := by
    refine List.nodup_flatMap.2
      ⟨fun root hroot => hforest.nodup_preorder_tree (hmem root hroot), ?_⟩
    refine arena.nodup_roots.imp_of_mem (fun {root other} hroot hother hne node hnode hnode' => ?_)
    rw [hforest.mem_preorder_tree_iff_mem_ancestors (hmem root hroot)] at hnode
    rw [hforest.mem_preorder_tree_iff_mem_ancestors (hmem other hother)] at hnode'
    obtain ⟨last, -, hlast⟩ := hforest.exists_root (mem_of_mem_ancestors hnode)
    exact hne (((hlast root).1 ⟨hroot, hnode⟩).trans ((hlast other).1 ⟨hother, hnode'⟩).symm)
  refine (List.perm_ext_iff_of_nodup hnodup arena.nodup_handles).2 (fun node => ?_)
  rw [List.mem_flatMap, mem_handles_iff]
  constructor
  · rintro ⟨root, hroot, hnode⟩
    exact hforest.mem_of_mem_preorder_tree (hmem root hroot) hnode
  · intro hnode
    obtain ⟨root, -, hroot⟩ := hforest.exists_root hnode
    obtain ⟨hmemRoot, habove⟩ := (hroot root).2 rfl
    exact ⟨root, hmemRoot,
      (hforest.mem_preorder_tree_iff_mem_ancestors (hmem root hmemRoot)).2 habove⟩

end IsForest

/-! ## How many roots there are -/

theorem handles_push (kind : Kind) (arena : Arena) :
    (arena.push kind).handles = arena.handles ++ [arena.next] := by
  rw [handles, size_push, List.range_succ, List.map_append]
  rfl

theorem handles_modify (handle : Handle) (change : Node → Node) (arena : Arena) :
    (arena.modify handle change).handles = arena.handles := by
  rw [handles, handles, size_modify, tag_modify]

theorem roots_push (kind : Kind) (arena : Arena) :
    (arena.push kind).roots = arena.roots ++ [arena.next] := by
  have hnext : arena.parent? arena.next = none := elim_node?_of_not_mem arena.next_not_mem _ _
  rw [roots, handles_push, List.filter_append]
  simp only [parent?_push]
  rw [List.filter_singleton, hnext]
  rfl

/-- **A link takes one root away**, the child. -/
theorem roots_link (hcan : arena.CanAttach parent child) :
    (arena.link parent child).roots = arena.roots.erase child := by
  have hhandles : (arena.link parent child).handles = arena.handles := by
    rw [link, handles_modify, handles_modify]
  rw [arena.nodup_roots.erase_eq_filter, roots, hhandles, roots, List.filter_filter]
  refine List.filter_congr (fun handle _ => ?_)
  rw [parent?_link hcan.child_mem]
  by_cases h : handle = child
  · rw [if_pos h, h, bne_self_eq_false, Bool.false_and]
    rfl
  · rw [if_neg h, bne_iff_ne.2 h, Bool.true_and]

/-- A change of one node that keeps its parent keeps the roots. -/
theorem roots_modify {change : Node → Node} (hchange : ∀ node, (change node).parent = node.parent)
    (handle : Handle) (arena : Arena) : (arena.modify handle change).roots = arena.roots := by
  rw [roots, handles_modify]
  refine List.filter_congr (fun other _ => congrArg Option.isNone ?_)
  exact elim_node?_modify hchange handle other

end Arena

namespace Deed

open Arena

variable {deed : Deed} {deeds : List Deed} {arena changed : Arena}

/-- Whether a deed is an attachment. -/
def isAttach : Deed → Bool
  | attach _ _ => true
  | _ => false

/-- **A deed adds a root with a node, and takes one away with an attachment.** -/
theorem Leads.length_roots (h : deed.Leads arena changed) :
    changed.roots.length + [deed].countP isAttach + arena.size
      = arena.roots.length + changed.size := by
  cases h with
  | add _ kind =>
    rw [roots_push, size_push, List.length_append, List.countP_singleton]
    show arena.roots.length + 1 + 0 + arena.size = _
    omega
  | @attach _ parent child hcan =>
    have hroot : child ∈ arena.roots := mem_roots_iff.2 ⟨hcan.child_mem, hcan.free⟩
    have hpos := List.length_pos_of_mem hroot
    rw [roots_link hcan, List.length_erase_of_mem hroot, size_link, List.countP_singleton]
    show arena.roots.length - 1 + 1 + arena.size = _
    omega
  | _ =>
    rw [roots_modify (fun _ => by rfl), size_modify, List.countP_singleton]
    rfl

/-- **The roots and the attachments grow as the nodes do.** -/
theorem LeadsAll.length_roots (h : LeadsAll deeds arena changed) :
    changed.roots.length + deeds.countP isAttach + arena.size
      = arena.roots.length + changed.size := by
  induction h with
  | nil => rfl
  | @cons deed rest _ _ _ hdeed _ ih =>
    have hstep := hdeed.length_roots
    rw [List.countP_cons]
    rw [List.countP_singleton] at hstep
    omega

end Deed

/-! ## Along the roots -/

/-- What succeeds for each item succeeds for a list of them. -/
theorem mapM_eq_ok {α β : Type} {step : α → Except Fault β} {result : α → β} {items : List α}
    (h : ∀ item ∈ items, step item = .ok (result item)) :
    items.mapM step = .ok (items.map result) := by
  induction items with
  | nil => rfl
  | cons item rest ih =>
    rw [List.mapM_cons, h item List.mem_cons_self,
      ih (fun later hlater => h later (List.mem_cons_of_mem item hlater))]
    rfl

theorem unlines_flatMap {α : Type} (items : List α) (lines : α → List String) :
    unlines (items.flatMap lines) = String.join (items.map fun item => unlines (lines item)) := by
  induction items with
  | nil => rfl
  | cons item rest ih =>
    rw [List.flatMap_cons, unlines_append, ih, List.map_cons, String.join_cons]

namespace Arena

variable {arena : Arena} {root : Handle}

/-- **What is said of a node** when its whole tree is printed. -/
def entry (arena : Arena) (handle : Handle) : String :=
  (arena.node? handle).elim "" fun node =>
    arena.entryText node.kind.baseLabel (arena.level handle) node

namespace IsForest

/-- The outline of a root says of each node of its tree what is said of it. -/
theorem outlineText_root (hforest : arena.IsForest) (h : root ∈ arena.roots) :
    arena.outlineText (arena.headingOf root) root
      = unlines ((arena.tree root).preorder.map arena.entry) := by
  obtain ⟨hmem, hparent⟩ := mem_roots_iff.1 h
  have hlevel : arena.level root = 0 := by
    rw [level, hforest.ancestors_of_root hmem hparent]
    rfl
  refine congrArg unlines (List.map_congr_left (fun handle _ => ?_))
  rw [entry, hlevel, Nat.sub_zero]
  by_cases hroot : handle = root
  · obtain ⟨node, hnode⟩ := exists_node? hmem
    rw [hroot, headingOf, hnode]
    show arena.entryText (if root = root then node.kind.baseLabel else _) _ node = _
    rw [if_pos rfl]
    rfl
  · simp only [if_neg hroot]

/-- **The sizes of the trees of all roots** add up to the number of nodes. -/
theorem sum_subtreeSize (hforest : arena.IsForest) {order : List Handle}
    (horder : order.Perm arena.roots) :
    ∃ sizes, order.mapM arena.subtreeSize = .ok sizes ∧ sizes.sum = arena.size := by
  refine ⟨_, mapM_eq_ok (fun root hroot => hforest.subtreeSize_eq_ok ?_), ?_⟩
  · exact (mem_roots_iff.1 (horder.mem_iff.1 hroot)).1
  · rw [← List.length_flatMap, (hforest.flatMap_preorder_perm horder).length_eq, handles,
      List.length_map, List.length_range]

/-- **The outlines of all roots** say of every node once what is to be said of it. -/
theorem join_render (hforest : arena.IsForest) (threshold : Threshold) {order : List Handle}
    (horder : order.Perm arena.roots) :
    ∃ texts nodes, order.mapM (fun root => (arena.render threshold root).1) = .ok texts ∧
      List.Perm nodes arena.handles ∧ String.join texts = unlines (nodes.map arena.entry) := by
  have hroot : ∀ root ∈ order, root ∈ arena.roots := fun root => horder.mem_iff.1
  refine ⟨_, _, mapM_eq_ok (fun root h => Printer.render_eq hforest ?_ threshold),
    hforest.flatMap_preorder_perm horder, ?_⟩
  · exact (mem_roots_iff.1 (hroot root h)).1
  · rw [List.map_flatMap, unlines_flatMap]
    exact congrArg String.join
      (List.map_congr_left fun root h => hforest.outlineText_root (hroot root h))

end IsForest

open Deed

/-- **The roots part the arena.** Whatever edits have been carried out on an empty arena, refused
ones among them, every node belongs to the tree of exactly one root, which is the last of its
ancestors. The sizes of the trees of all roots add up to the number of nodes; with the attachments
that have been made, the roots themselves are as many as the nodes; and to render all roots one
after the other is to tell of every node once. -/
theorem roots_part_arena (tag : Nat) (edits : List Edit) :
    let arena := (empty tag).applyAll edits
    let deeds := (empty tag).deedsAll edits
    arena.roots.Nodup ∧ (∀ root, root ∈ arena.roots ↔ arena.parent root = .ok none) ∧
      (∀ node ∈ arena, ∃ root, (arena.ancestors node).getLast? = some root ∧
        ∀ other, other ∈ arena.roots ∧ node ∈ arena.subtree other ↔ other = root) ∧
      arena.roots.length + deeds.countP isAttach = arena.size ∧
      ∀ order, List.Perm order arena.roots →
        (∃ sizes, order.mapM arena.subtreeSize = .ok sizes ∧ sizes.sum = arena.size) ∧
        ∀ threshold, ∃ texts nodes,
          order.mapM (fun root => (arena.render threshold root).1) = .ok texts ∧
          List.Perm nodes arena.handles ∧
          String.join texts = unlines (nodes.map arena.entry) := by
  intro arena deeds
  have hforest : arena.IsForest := ((Reachable.empty tag).applyAll edits).isForest
  have hcount := (applyAll_leads edits (empty tag)).length_roots
  refine ⟨arena.nodup_roots, fun root => mem_roots_iff_parent,
    fun node hnode => hforest.exists_root hnode, ?_, fun order horder =>
      ⟨hforest.sum_subtreeSize horder, fun threshold => hforest.join_render threshold horder⟩⟩
  rw [size_empty, Nat.add_zero] at hcount
  rw [hcount]
  exact Nat.zero_add _

/-- A program over a block and a literal. It was to have a second literal as well, but one that it
has already was named before, so that literal stands alone. -/
def refusedHalfway : List Edit :=
  [.add .block, .add (.int ⟨"1"⟩), .add (.int ⟨"2"⟩),
    .addOver .program [⟨5, 0⟩, ⟨5, 1⟩, ⟨5, 0⟩, ⟨5, 2⟩], .attach ⟨5, 0⟩ ⟨5, 3⟩]

theorem roots_part_arena_refusedHalfway :
    ((empty 5).applyAll refusedHalfway).roots = [⟨5, 2⟩, ⟨5, 3⟩] ∧
      2 + ((empty 5).deedsAll refusedHalfway).countP isAttach = 4 ∧
      (∀ other, other ∈ ((empty 5).applyAll refusedHalfway).roots ∧
        ⟨5, 0⟩ ∈ ((empty 5).applyAll refusedHalfway).subtree other ↔ other = ⟨5, 3⟩) ∧
      ∃ sizes, [⟨5, 3⟩, ⟨5, 2⟩].mapM ((empty 5).applyAll refusedHalfway).subtreeSize = .ok sizes ∧
        sizes.sum = 4 := by
  have hroots : ((empty 5).applyAll refusedHalfway).roots = [⟨5, 2⟩, ⟨5, 3⟩] := by decide
  have hancestors : ((empty 5).applyAll refusedHalfway).ancestors ⟨5, 0⟩ = [⟨5, 0⟩, ⟨5, 3⟩] := by
    decide
  obtain ⟨-, -, hroot, hcount, horder⟩ := roots_part_arena 5 refusedHalfway
  obtain ⟨root, hlast, honly⟩ := hroot ⟨5, 0⟩ (by decide)
  rw [hancestors] at hlast
  rw [hroots] at hcount horder
  rw [← Option.some.inj hlast] at honly
  exact ⟨hroots, hcount, honly, (horder [⟨5, 3⟩, ⟨5, 2⟩] (List.Perm.swap _ _ _)).1⟩

end Arena

end SyntaxOutline
