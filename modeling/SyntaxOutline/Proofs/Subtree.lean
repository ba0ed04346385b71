import SyntaxOutline.Arena.Measure
import SyntaxOutline.Proofs.Forest
import SyntaxOutline.Proofs.Tree
import Mathlib.Data.Set.Defs

/-!
# The tree below a node

`Arena.tree` reads off the links down what hangs below a node, as an ordered
tree of handles. Like a walk it goes down a bounded number of levels, and in
a forest the bound does not show (`IsForest.tree_eq`): the tree of a node is
the node over the trees of its children.

That one equation carries the rest, by induction down the forest. The tree of
a node holds each node that has the node among its ancestors, and holds it
once (`mem_preorder_tree_iff`, `nodup_preorder_tree`), so what is reached by
the links down is what is reached from by the links up. A walk that begins
with some depth meets each node with that depth and as much more as its level
exceeds the level of the root (`visits_tree`). And counting with a stack
counts the tree (`subtreeSize_eq_ok`).
-/

namespace SyntaxOutline

namespace Arena

variable {arena : Arena} {handle root child : Handle}

/-- What hangs below a node, cut off below the given number of levels. -/
def treeWithin (arena : Arena) : Nat → Handle → Tree Handle
  | 0, handle => .node handle []
  | levels + 1, handle => .node handle ((arena.childrenOf handle).map (arena.treeWithin levels))

/-- **The tree below a node**, the node at its root. -/
def tree (arena : Arena) (handle : Handle) : Tree Handle :=
  arena.treeWithin arena.size handle

/-- What belongs to the tree of a node: whatever has the node among its ancestors. -/
def subtree (arena : Arena) (root : Handle) : Set Handle :=
  {handle | root ∈ arena.ancestors handle}

@[simp] theorem value_tree (arena : Arena) (handle : Handle) :
    (arena.tree handle).value = handle := by
  unfold tree
  cases arena.size <;> rfl

namespace IsForest

/-- Once there are levels enough for all that can stand below a node, further ones add nothing. -/
theorem treeWithin_succ (hforest : arena.IsForest) {levels : Nat} (hmem : handle ∈ arena)
    (hlevels : arena.size ≤ arena.level handle + levels) :
    arena.treeWithin (levels + 1) handle = arena.treeWithin levels handle := by
  induction levels generalizing handle with
  | zero => exact absurd (hforest.level_lt_size hmem) (Nat.not_lt.2 hlevels)
  | succ levels ih =>
    rw [treeWithin, treeWithin]
    refine congrArg (Tree.node handle) (List.map_congr_left (fun child hchild => ?_))
    show arena.treeWithin (levels + 1) child = arena.treeWithin levels child
    refine ih (hforest.child_mem hchild) ?_
    rw [hforest.level_of_parent? (hforest.mem_childrenOf_iff.1 hchild)]
    omega

/-- **The tree of a node is the node over the trees of its children.** -/
theorem tree_eq (hforest : arena.IsForest) (hmem : handle ∈ arena) :
    arena.tree handle = .node handle ((arena.childrenOf handle).map arena.tree) := by
  unfold tree
  rw [← hforest.treeWithin_succ hmem (Nat.le_add_left _ _), treeWithin]

theorem preorder_tree_eq (hforest : arena.IsForest) (hmem : handle ∈ arena) :
    (arena.tree handle).preorder
      = handle :: (arena.childrenOf handle).flatMap (fun child => (arena.tree child).preorder) := by
  rw [hforest.tree_eq hmem, Tree.preorder_node, List.flatMap_map]

theorem visits_tree_eq (hforest : arena.IsForest) (hmem : handle ∈ arena) (depth : Nat) :
    (arena.tree handle).visits depth
      = (handle, depth) ::
        (arena.childrenOf handle).flatMap (fun child => (arena.tree child).visits (depth + 1)) := by
  rw [hforest.tree_eq hmem, Tree.visits_node, List.flatMap_map]

/-! ## What belongs to the tree -/

/-- **The tree of a node holds what leads up to the node.** -/
theorem mem_preorder_tree_iff (hforest : arena.IsForest) (hmem : root ∈ arena) :
    handle ∈ (arena.tree root).preorder ↔ Relation.ReflTransGen arena.ChildOf handle root := by
  induction root, hmem using hforest.induction_down with
  | step root hmem ih =>
    rw [hforest.preorder_tree_eq hmem, List.mem_cons, List.mem_flatMap]
    constructor
    · rintro (rfl | ⟨child, hchild, hbelow⟩)
      · exact Relation.ReflTransGen.refl
      · exact ((ih child hchild).1 hbelow).tail (hforest.mem_childrenOf_iff.1 hchild)
    · intro h
      obtain rfl | ⟨child, hway, hstep⟩ := h.cases_tail
      · exact Or.inl rfl
      · have hchild := hforest.mem_childrenOf_iff.2 hstep
        exact Or.inr ⟨child, hchild, (ih child hchild).2 hway⟩

theorem mem_preorder_tree_self (hforest : arena.IsForest) (hmem : root ∈ arena) :
    root ∈ (arena.tree root).preorder :=
  (hforest.mem_preorder_tree_iff hmem).2 Relation.ReflTransGen.refl

/-- What stands below a child stands below its parent. -/
theorem preorder_tree_subset (hforest : arena.IsForest) (h : child ∈ arena.childrenOf root) :
    (arena.tree child).preorder ⊆ (arena.tree root).preorder := by
  intro node hnode
  rw [hforest.preorder_tree_eq (mem_of_mem_childrenOf h)]
  exact List.mem_cons_of_mem root (List.mem_flatMap.2 ⟨child, h, hnode⟩)

theorem mem_of_mem_preorder_tree (hforest : arena.IsForest) (hmem : root ∈ arena)
    (h : handle ∈ (arena.tree root).preorder) : handle ∈ arena := by
  obtain rfl | ⟨parent, hstep, -⟩ := ((hforest.mem_preorder_tree_iff hmem).1 h).cases_head
  · exact hmem
  · exact mem_of_parent? hstep

theorem mem_of_mem_visits (hforest : arena.IsForest) (hmem : root ∈ arena) {depth : Nat}
    {visit : Handle × Nat} (h : visit ∈ (arena.tree root).visits depth) : visit.1 ∈ arena :=
  hforest.mem_of_mem_preorder_tree hmem (Tree.mem_preorder_of_mem_visits h)

/-- **Links down and links up agree**: a node belongs to the tree of another just if it has that
one among its ancestors. -/
theorem mem_preorder_tree_iff_mem_ancestors (hforest : arena.IsForest) (hmem : root ∈ arena) :
    handle ∈ (arena.tree root).preorder ↔ root ∈ arena.ancestors handle := by
  constructor
  · intro h
    rw [hforest.mem_ancestors_iff (hforest.mem_of_mem_preorder_tree hmem h)]
    exact (hforest.mem_preorder_tree_iff hmem).1 h
  · intro h
    rw [hforest.mem_preorder_tree_iff hmem]
    exact (hforest.mem_ancestors_iff (mem_of_mem_ancestors h)).1 h

theorem mem_subtree_iff (hforest : arena.IsForest) (hmem : root ∈ arena) :
    handle ∈ arena.subtree root ↔ handle ∈ (arena.tree root).preorder :=
  (hforest.mem_preorder_tree_iff_mem_ancestors hmem).symm

/-- The nodes that lead up to one of two siblings do not lead up to the other. -/
theorem eq_of_reflTransGen_of_parent? (hforest : arena.IsForest) {other parent : Handle}
    (hchild : arena.parent? child = some parent) (hother : arena.parent? other = some parent)
    (h : Relation.ReflTransGen arena.ChildOf child other) : child = other := by
  obtain heq | ⟨middle, hstep, hway⟩ := h.cases_head
  · exact heq
  · -- the way up goes through the parent, and from below a node that is no way back
    rw [ChildOf, hchild] at hstep
    rw [← Option.some.inj hstep] at hway
    exact absurd (Relation.TransGen.tail' hway hother) (hforest.acyclic parent)

/-- **No node is met twice** on a walk through a tree. -/
theorem nodup_preorder_tree (hforest : arena.IsForest) (hmem : root ∈ arena) :
    (arena.tree root).preorder.Nodup := by
  induction root, hmem using hforest.induction_down with
  | step root hmem ih =>
    rw [hforest.preorder_tree_eq hmem]
    refine List.nodup_cons.2 ⟨?_, List.nodup_flatMap.2 ⟨ih, ?_⟩⟩
    · intro hroot
      obtain ⟨child, hchild, hbelow⟩ := List.mem_flatMap.1 hroot
      have hway := (hforest.mem_preorder_tree_iff (hforest.child_mem hchild)).1 hbelow
      exact hforest.acyclic root
        (Relation.TransGen.tail' hway (hforest.mem_childrenOf_iff.1 hchild))
    · refine (hforest.nodup_childrenOf root).imp_of_mem (fun {child other} hchild hother hne => ?_)
      intro handle hbelow hbelow'
      rw [hforest.mem_preorder_tree_iff (hforest.child_mem hchild)] at hbelow
      rw [hforest.mem_preorder_tree_iff (hforest.child_mem hother)] at hbelow'
      rw [hforest.mem_childrenOf_iff] at hchild hother
      -- of two nodes above one node, one is above the other
      have hunique : Relator.RightUnique arena.ChildOf :=
        fun _ _ _ hup hup' => Option.some.inj (hup.symm.trans hup')
      obtain hway | hway := Relation.ReflTransGen.total_of_right_unique hunique hbelow hbelow'
      · exact hne (hforest.eq_of_reflTransGen_of_parent? hchild hother hway)
      · exact hne (hforest.eq_of_reflTransGen_of_parent? hother hchild hway).symm

theorem length_preorder_tree_le (hforest : arena.IsForest) (hmem : root ∈ arena) :
    (arena.tree root).preorder.length ≤ arena.size := by
  have hsub : (arena.tree root).preorder ⊆ arena.handles := by
    intro handle h
    rw [mem_handles_iff]
    exact hforest.mem_of_mem_preorder_tree hmem h
  have hle := ((hforest.nodup_preorder_tree hmem).subperm hsub).length_le
  simpa only [handles, List.length_map, List.length_range] using hle

/-! ## The depths on a walk -/

theorem level_le_of_reflTransGen (hforest : arena.IsForest)
    (h : Relation.ReflTransGen arena.ChildOf handle root) :
    arena.level root ≤ arena.level handle := by
  induction h with
  | refl => exact Nat.le_refl _
  | tail _ hstep ih =>
    rw [hforest.level_of_parent? hstep] at ih
    exact Nat.le_of_succ_le ih

/-- In a tree nothing stands higher than the root. -/
theorem level_le_of_mem_preorder_tree (hforest : arena.IsForest) (hmem : root ∈ arena)
    (h : handle ∈ (arena.tree root).preorder) : arena.level root ≤ arena.level handle :=
  hforest.level_le_of_reflTransGen ((hforest.mem_preorder_tree_iff hmem).1 h)

/-- **A walk meets each node as deep below its beginning as the node stands below the root.** -/
theorem visits_tree (hforest : arena.IsForest) (hmem : root ∈ arena) (depth : Nat) :
    (arena.tree root).visits depth
      = (arena.tree root).preorder.map
          (fun handle => (handle, depth + (arena.level handle - arena.level root))) := by
  induction root, hmem using hforest.induction_down generalizing depth with
  | step root hmem ih =>
    rw [hforest.visits_tree_eq hmem, hforest.preorder_tree_eq hmem, List.map_cons, Nat.sub_self,
      Nat.add_zero, List.map_flatMap]
    refine congrArg ((root, depth) :: ·) (List.flatMap_congr (fun child hchild => ?_))
    have hlevel := hforest.level_of_parent? (hforest.mem_childrenOf_iff.1 hchild)
    rw [ih child hchild (depth + 1)]
    refine List.map_congr_left (fun handle hbelow => ?_)
    have hle := hforest.level_le_of_mem_preorder_tree (hforest.child_mem hchild) hbelow
    refine congrArg (Prod.mk handle) ?_
    omega

end IsForest

/-! ## The size -/

/-- **A run of counting with a stack**, however long: what comes of it in the end, and how many
turns it takes, each of which takes one node off the stack. -/
inductive CountRun (arena : Arena) : List Handle → Nat → Except Fault Nat → Nat → Prop
  | done (counted : Nat) : CountRun arena [] counted (.ok counted) 0
  | fail {node : Handle} {rest : List Handle} {counted : Nat} {fault : Fault}
    (h : arena.children node = .error fault) :
    CountRun arena (node :: rest) counted (.error fault) 1
  | turn {node : Handle} {rest children : List Handle} {counted turns : Nat}
    {result : Except Fault Nat} (h : arena.children node = .ok children)
    (hrest : CountRun arena (children.reverse ++ rest) (counted + 1) result turns) :
    CountRun arena (node :: rest) counted result (turns + 1)

/-- Where there are steps for all its turns, a run is carried out to its end. -/
theorem CountRun.countPending_eq {stack : List Handle} {counted turns : Nat}
    {result : Except Fault Nat} (h : arena.CountRun stack counted result turns) {steps : Nat}
    (hsteps : turns ≤ steps) : arena.countPending steps stack counted = result := by
  induction h generalizing steps with
  | done counted => cases steps <;> rfl
  | fail hchildren =>
    obtain ⟨more, rfl⟩ := Nat.exists_eq_add_of_le' hsteps
    rw [countPending, hchildren]
    rfl
  | turn hchildren _ ih =>
    obtain ⟨more, rfl⟩ := Nat.exists_eq_succ_of_ne_zero (Nat.ne_zero_of_lt hsteps)
    rw [countPending, hchildren]
    exact ih (Nat.le_of_succ_le_succ hsteps)

namespace IsForest

/-- Taking the top node off a stack and putting its children on leaves one node less to count. -/
theorem length_flatMap_cons (hforest : arena.IsForest) (hmem : handle ∈ arena)
    (rest : List Handle) :
    ((handle :: rest).flatMap fun node => (arena.tree node).preorder).length
      = (((arena.childrenOf handle).reverse ++ rest).flatMap fun node =>
          (arena.tree node).preorder).length + 1 := by
  have hreverse := ((arena.childrenOf handle).reverse_perm.flatMap_right
    (fun node => (arena.tree node).preorder)).length_eq
  rw [List.flatMap_cons, List.flatMap_append, List.length_append, List.length_append, hreverse,
    hforest.preorder_tree_eq hmem, List.length_cons, Nat.add_right_comm]

/-- **Counting with a stack counts the trees of all nodes on it**, with a turn for each node. -/
theorem countRun (hforest : arena.IsForest) {stack : List Handle}
    (hstack : ∀ node ∈ stack, node ∈ arena) (counted : Nat) :
    arena.CountRun stack counted
      (.ok (counted + (stack.flatMap fun node => (arena.tree node).preorder).length))
      (stack.flatMap fun node => (arena.tree node).preorder).length := by
  induction htotal : (stack.flatMap fun node => (arena.tree node).preorder).length
    generalizing stack counted with
  | zero =>
    cases stack with
    | nil => exact CountRun.done counted
    | cons node rest =>
      rw [hforest.length_flatMap_cons (hstack node List.mem_cons_self)] at htotal
      cases htotal
  | succ total ih =>
    cases stack with
    | nil => cases htotal
    | cons node rest =>
      have hnode := hstack node List.mem_cons_self
      rw [hforest.length_flatMap_cons hnode] at htotal
      have hrun := ih (fun other hother => ?_) (counted + 1) (Nat.succ.inj htotal)
      · rw [Nat.add_assoc, Nat.add_comm 1] at hrun
        exact CountRun.turn (children_eq_ok hnode) hrun
      · rw [List.mem_append, List.mem_reverse] at hother
        obtain hchild | hrest := hother
        · exact hforest.child_mem hchild
        · exact hstack other (List.mem_cons_of_mem _ hrest)

/-- Counting from a node takes a turn for each node of its tree. -/
theorem countRun_tree (hforest : arena.IsForest) (hmem : root ∈ arena) :
    arena.CountRun [root] 0 (.ok (arena.tree root).preorder.length)
      (arena.tree root).preorder.length := by
  have hstack : ∀ node ∈ [root], node ∈ arena := by
    intro node hnode
    rw [List.mem_singleton.1 hnode]
    exact hmem
  have hrun := hforest.countRun hstack 0
  rwa [List.flatMap_singleton, Nat.zero_add] at hrun

/-- **The size of a tree is the number of nodes in it.** -/
theorem subtreeSize_eq_ok (hforest : arena.IsForest) (hmem : root ∈ arena) :
    arena.subtreeSize root = .ok (arena.tree root).preorder.length :=
  (hforest.countRun_tree hmem).countPending_eq
    (Nat.le_succ_of_le (hforest.length_preorder_tree_le hmem))

end IsForest

end Arena

end SyntaxOutline
