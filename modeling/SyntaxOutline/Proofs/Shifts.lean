import SyntaxOutline.Proofs.Grafts

/-!
# What an attachment shifts

A link is made by changing two entries of an arena, and with that all that is
measured up or down from any number of nodes may be different. Upward it is
the nodes of the child's tree that are concerned: their way up used to end at
the child, and now it is carried on from the parent
(`ancestors_link_of_mem`), so that they all stand deeper by one and the same
number of levels. Downward it is the nodes above the parent: what was measured
of the parent's tree and of the tree of the child is now measured together.

Nothing has to be counted again for that. A walk from a node above the parent
has got one stretch more (`exists_visits_link`), and what a tally notes of
stretches one after the other is their tallies joined (`tallied_append`), in
whichever order they come.
-/

namespace SyntaxOutline

namespace Tally

/-- **Two tallies as one.** -/
def join (tally other : Tally) : Tally :=
  ⟨tally.nodes + other.nodes, max tally.maxDepth other.maxDepth,
    tally.decorated + other.decorated⟩

/-- A tally of the same nodes so many levels deeper. -/
def deepen (levels : Nat) (tally : Tally) : Tally :=
  { tally with maxDepth := levels + tally.maxDepth }

theorem join_right_comm (first second third : Tally) :
    (first.join second).join third = (first.join third).join second := by
  unfold join
  rw [Nat.add_right_comm, max_right_comm, Nat.add_right_comm first.decorated]

end Tally

namespace Arena

variable {arena : Arena} {parent child node root : Handle}

/-! ## Tallies of several stretches -/

/-- A tally that is carried on is joined with what is tallied from then on. -/
theorem tallied_eq_join (arena : Arena) (tally : Tally) (visits : List (Handle × Nat)) :
    arena.tallied tally visits = tally.join (arena.tallied .zero visits) := by
  have hdepth : (visits.map Prod.snd).foldl max tally.maxDepth
      = max tally.maxDepth ((visits.map Prod.snd).foldl max 0) := by
    nth_rewrite 1 [← Nat.max_zero tally.maxDepth]
    exact List.foldl_assoc
  unfold tallied Tally.join Tally.zero
  simp only [hdepth, Nat.zero_add]

/-- A tally is carried on from one stretch to the next. -/
theorem tallied_tallied (arena : Arena) (tally : Tally) (first second : List (Handle × Nat)) :
    arena.tallied (arena.tallied tally first) second = arena.tallied tally (first ++ second) := by
  unfold tallied
  simp only [List.length_append, List.countP_append, List.map_append, List.foldl_append,
    Nat.add_assoc]

/-- **What is tallied one after the other is tallied together.** -/
theorem tallied_append (arena : Arena) (first second : List (Handle × Nat)) :
    arena.tallied .zero (first ++ second)
      = (arena.tallied .zero first).join (arena.tallied .zero second) := by
  rw [← tallied_eq_join, tallied_tallied]

/-- A walk that begins deeper tallies the same, only deeper. -/
theorem tallied_visits (arena : Arena) (tree : Tree Handle) (levels : Nat) :
    arena.tallied .zero (tree.visits levels)
      = (arena.tallied .zero (tree.visits 0)).deepen levels := by
  obtain ⟨value, branches⟩ := tree
  have hvisits := Tree.visits_add levels 0 (.node value branches)
  rw [Nat.add_zero] at hvisits
  have hdepth : (((Tree.node value branches).visits levels).map Prod.snd).foldl max 0
      = levels + (((Tree.node value branches).visits 0).map Prod.snd).foldl max 0 := by
    rw [hvisits, List.map_map, Tree.visits_node, List.map_cons, List.map_cons, List.foldl_cons,
      List.foldl_cons, Nat.zero_max, Nat.zero_max, List.foldl_map, List.foldl_map]
    refine List.foldl_hom (levels + ·) (fun deepest visit => ?_)
    exact Nat.add_max_add_left levels deepest visit.2
  have hdecorated : ((Tree.node value branches).visits levels).countP
        (fun visit => (arena.decoration? visit.1).isSome)
      = ((Tree.node value branches).visits 0).countP
        (fun visit => (arena.decoration? visit.1).isSome) := by
    rw [hvisits, List.countP_map]
    rfl
  unfold tallied Tally.deepen
  rw [Tree.length_visits, Tree.length_visits, hdecorated]
  exact congrArg (fun deepest => Tally.mk _ deepest _) hdepth

/-- A link leaves all decorations as they are. -/
theorem tallied_link (parent child : Handle) (tally : Tally) (visits : List (Handle × Nat)) :
    (arena.link parent child).tallied tally visits = arena.tallied tally visits := by
  unfold tallied
  simp only [decoration?_link]

section Link

variable (hforest : arena.IsForest) (hcan : arena.CanAttach parent child)

include hforest hcan

/-! ## Upward -/

/-- A way up that does not come by the child is the way it was. -/
theorem ancestors_link_of_not_mem (h : node ∈ arena) (hout : child ∉ arena.ancestors node) :
    (arena.link parent child).ancestors node = arena.ancestors node := by
  induction node, h using hforest.induction_up with
  | root node hmem hparent =>
    rw [hforest.ancestors_of_root hmem hparent, List.mem_singleton] at hout
    have hlink : (arena.link parent child).parent? node = none := by
      rw [parent?_link hcan.child_mem, if_neg (Ne.symm hout), hparent]
    rw [hforest.ancestors_of_root hmem hparent,
      (hforest.link hcan).ancestors_of_root (mem_link_iff.2 hmem) hlink]
  | child node upper hparent ih =>
    rw [hforest.ancestors_of_parent? hparent, List.mem_cons, not_or] at hout
    have hlink : (arena.link parent child).parent? node = some upper := by
      rw [parent?_link hcan.child_mem, if_neg (Ne.symm hout.1), hparent]
    rw [hforest.ancestors_of_parent? hparent, (hforest.link hcan).ancestors_of_parent? hlink,
      ih hout.2]

/-- **A way up that ended at the child** is carried on from the parent. -/
theorem ancestors_link_of_mem (h : child ∈ arena.ancestors node) :
    (arena.link parent child).ancestors node
      = arena.ancestors node ++ arena.ancestors parent := by
  induction node, mem_of_mem_ancestors h using hforest.induction_up with
  | root node hmem hparent =>
    rw [hforest.ancestors_of_root hmem hparent, List.mem_singleton] at h
    have hlink : (arena.link parent child).parent? node = some parent := by
      rw [parent?_link hcan.child_mem, if_pos h.symm]
    rw [hforest.ancestors_of_root hmem hparent, (hforest.link hcan).ancestors_of_parent? hlink,
      ancestors_link_of_not_mem hforest hcan hcan.parent_mem hcan.not_above]
    rfl
  | child node upper hparent ih =>
    have hne : node ≠ child := by
      rintro rfl
      rw [hcan.free] at hparent
      cases hparent
    have hlink : (arena.link parent child).parent? node = some upper := by
      rw [parent?_link hcan.child_mem, if_neg hne, hparent]
    rw [hforest.ancestors_of_parent? hparent, List.mem_cons] at h
    rw [hforest.ancestors_of_parent? hparent, (hforest.link hcan).ancestors_of_parent? hlink,
      ih (h.resolve_left (Ne.symm hne)), List.cons_append]

/-- What stands at or below the child stands deeper by as many levels as lead to its new place. -/
theorem level_link_of_mem (h : child ∈ arena.ancestors node) :
    (arena.link parent child).level node = arena.level node + (arena.level parent + 1) := by
  rw [level, ancestors_link_of_mem hforest hcan h, List.length_append,
    hforest.length_ancestors (mem_of_mem_ancestors h), hforest.length_ancestors hcan.parent_mem,
    Nat.add_right_comm, Nat.add_sub_cancel]

/-! ## Downward -/

/-- A tree to which the parent belongs gets as many nodes more as the tree of the child has. -/
theorem length_preorder_link (h : root ∈ arena) (hparent : parent ∈ (arena.tree root).preorder) :
    ((arena.link parent child).tree root).preorder.length
      = (arena.tree root).preorder.length + (arena.tree child).preorder.length := by
  obtain ⟨before, after, hbefore, hafter⟩ := exists_visits_link hforest hcan h hparent 0
  rw [← Tree.length_visits 0, ← Tree.length_visits 0, hbefore, hafter]
  simp only [List.length_append, Tree.length_visits]
  omega

/-- **The tally of a tree to which the parent belongs** is joined with the tally of the child's
tree, as deep as that stands there. -/
theorem tallied_visits_link (h : root ∈ arena) (hparent : parent ∈ (arena.tree root).preorder) :
    (arena.link parent child).tallied .zero (((arena.link parent child).tree root).visits 0)
      = (arena.tallied .zero ((arena.tree root).visits 0)).join
        ((arena.tallied .zero ((arena.tree child).visits 0)).deepen
          (arena.level parent - arena.level root + 1)) := by
  obtain ⟨before, after, hbefore, hafter⟩ := exists_visits_link hforest hcan h hparent 0
  rw [Nat.zero_add] at hbefore hafter
  rw [tallied_link, hafter, hbefore, tallied_append, tallied_append, tallied_append _ _ after,
    tallied_visits arena (arena.tree child), Tally.join_right_comm]

end Link

/-- **An attachment shifts what stands below the child, and adds to what stands above the parent.**
Once it is made, each node of the child's tree is deeper by one level more than the depth of the
parent, with the ancestors of the parent after its own; and each node at or above the parent has
a tree that is larger by the size of the child's tree, and a tally that counts both, the nodes of
the child's tree as deep as they have come to stand. For every other node these measures are what
they were. -/
theorem attach_shifts (hreach : arena.Reachable) {answer : Handle}
    (hdone : (arena.apply (.attach parent child)).1 = .ok answer) (h : node ∈ arena) :
    ∃ deep top size added tally graft,
      arena.depth parent = .ok deep ∧ arena.depth node = .ok top ∧
      arena.subtreeSize node = .ok size ∧ arena.subtreeSize child = .ok added ∧
      arena.tally node = .ok tally ∧ arena.tally child = .ok graft ∧
      (node ∈ arena.subtree child →
        (arena.apply (.attach parent child)).2.depth node = .ok (top + (deep + 1)) ∧
        (arena.apply (.attach parent child)).2.ancestors node
          = arena.ancestors node ++ arena.ancestors parent) ∧
      (node ∉ arena.subtree child →
        (arena.apply (.attach parent child)).2.depth node = .ok top ∧
        (arena.apply (.attach parent child)).2.ancestors node = arena.ancestors node) ∧
      (node ∈ arena.ancestors parent →
        top ≤ deep ∧
        (arena.apply (.attach parent child)).2.subtreeSize node = .ok (size + added) ∧
        (arena.apply (.attach parent child)).2.tally node
          = .ok ⟨tally.nodes + graft.nodes,
              max tally.maxDepth (deep - top + 1 + graft.maxDepth),
              tally.decorated + graft.decorated⟩) ∧
      (node ∉ arena.ancestors parent →
        (arena.apply (.attach parent child)).2.subtreeSize node = .ok size ∧
        (arena.apply (.attach parent child)).2.tally node = .ok tally) := by
  have hforest := hreach.isForest
  obtain ⟨hcan, hchanged⟩ := apply_attach_eq_link hdone
  have hlink := hforest.link hcan
  have hmem : node ∈ arena.link parent child := mem_link_iff.2 h
  rw [hchanged]
  refine ⟨_, _, _, _, _, _, depth_eq_ok hcan.parent_mem, depth_eq_ok h,
    hforest.subtreeSize_eq_ok h, hforest.subtreeSize_eq_ok hcan.child_mem, hforest.tally_eq_ok h,
    hforest.tally_eq_ok hcan.child_mem, fun hbelow => ?_, fun houtside => ?_, fun habove => ?_,
    fun hbeside => ?_⟩
  · rw [depth_eq_ok hmem, level_link_of_mem hforest hcan hbelow]
    exact ⟨rfl, ancestors_link_of_mem hforest hcan hbelow⟩
  · have hancestors := ancestors_link_of_not_mem hforest hcan h houtside
    rw [depth_eq_ok hmem, level, hancestors]
    exact ⟨rfl, rfl⟩
  · have hparent := (hforest.mem_preorder_tree_iff_mem_ancestors h).2 habove
    rw [hlink.subtreeSize_eq_ok hmem, length_preorder_link hforest hcan h hparent,
      hlink.tally_eq_ok hmem, tallied_visits_link hforest hcan h hparent]
    exact ⟨hforest.level_le_of_mem_preorder_tree h hparent, rfl, rfl⟩
  · have htree := tree_link_of_not_mem hforest hcan h fun hparent =>
      hbeside ((hforest.mem_preorder_tree_iff_mem_ancestors h).1 hparent)
    rw [hlink.subtreeSize_eq_ok hmem, hlink.tally_eq_ok hmem, htree, tallied_link]
    exact ⟨rfl, rfl⟩

/-- The literal of the program goes down two levels, and the block, which had literals two levels
below it, has one three levels below now. The literal beside stays where it is. -/
theorem attach_shifts_stock :
    (stock.apply (.attach ⟨7, 1⟩ ⟨7, 5⟩)).1 = .ok ⟨7, 1⟩ ∧
      stock.depth ⟨7, 4⟩ = .ok 1 ∧
      (stock.apply (.attach ⟨7, 1⟩ ⟨7, 5⟩)).2.depth ⟨7, 4⟩ = .ok 3 ∧
      (stock.apply (.attach ⟨7, 1⟩ ⟨7, 5⟩)).2.ancestors ⟨7, 4⟩
        = [⟨7, 4⟩, ⟨7, 5⟩, ⟨7, 1⟩, ⟨7, 3⟩] ∧
      stock.tally ⟨7, 3⟩ = .ok ⟨4, 2, 0⟩ ∧
      (stock.apply (.attach ⟨7, 1⟩ ⟨7, 5⟩)).2.tally ⟨7, 3⟩ = .ok ⟨6, 3, 0⟩ ∧
      (stock.apply (.attach ⟨7, 1⟩ ⟨7, 5⟩)).2.subtreeSize ⟨7, 2⟩ = .ok 1 ∧
      (stock.apply (.attach ⟨7, 1⟩ ⟨7, 5⟩)).2.depth ⟨7, 2⟩ = .ok 1 := by
  have hreach : stock.Reachable := (Reachable.empty 7).applyAll _
  have hdone : (stock.apply (.attach ⟨7, 1⟩ ⟨7, 5⟩)).1 = .ok ⟨7, 1⟩ := by rfl
  have hparent : stock.depth ⟨7, 1⟩ = .ok 1 := by rfl
  have hliteral : stock.depth ⟨7, 4⟩ = .ok 1 := by rfl
  have hblock : stock.tally ⟨7, 3⟩ = .ok ⟨4, 2, 0⟩ := by rfl
  obtain ⟨_, _, _, _, _, _, hdeep, htop, -, -, -, -, hbelow, -⟩ :=
    attach_shifts hreach hdone (show (⟨7, 4⟩ : Handle) ∈ stock by decide)
  cases hparent.symm.trans hdeep
  cases hliteral.symm.trans htop
  obtain ⟨hdepth, hancestors⟩ := hbelow (show (⟨7, 5⟩ : Handle) ∈ stock.ancestors ⟨7, 4⟩ by decide)
  obtain ⟨_, _, _, _, _, _, hdeep, htop, -, -, htally, hgraft, -, -, habove, -⟩ :=
    attach_shifts hreach hdone (show (⟨7, 3⟩ : Handle) ∈ stock by decide)
  cases hparent.symm.trans hdeep
  cases (show stock.depth ⟨7, 3⟩ = .ok 0 by rfl).symm.trans htop
  cases hblock.symm.trans htally
  cases (show stock.tally ⟨7, 5⟩ = .ok ⟨2, 1, 0⟩ by rfl).symm.trans hgraft
  obtain ⟨-, -, hjoined⟩ := habove (by decide)
  obtain ⟨_, _, _, _, _, _, -, htop, hsize, -, -, -, -, houtside, -, hbeside⟩ :=
    attach_shifts hreach hdone (show (⟨7, 2⟩ : Handle) ∈ stock by decide)
  cases (show stock.depth ⟨7, 2⟩ = .ok 1 by rfl).symm.trans htop
  cases (show stock.subtreeSize ⟨7, 2⟩ = .ok 1 by rfl).symm.trans hsize
  refine ⟨hdone, hliteral, hdepth, ?_, hblock, hjoined, (hbeside (by decide)).1,
    (houtside (show (⟨7, 5⟩ : Handle) ∉ stock.ancestors ⟨7, 2⟩ by decide)).1⟩
  rw [hancestors]
  decide

end Arena

end SyntaxOutline
