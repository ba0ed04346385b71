import Mathlib.Data.List.Flatten
import SyntaxOutline.Proofs.History
import SyntaxOutline.Proofs.Printing

/-!
# Arenas only grow

Edits never take back what can be seen of the shape of a tree. A node stays,
with its number and all of its kind but the frame offset; once it has a parent
it keeps it; and its children stay where they are, with new ones after them.
So much can be read off the deeds, whatever they are (`Deed.LeadsAll.extends`).

The rest is about what lies further off, and for that no deed has to be looked
at again. Where parents are kept, a way up can only be carried on beyond the
node at which it ended, so the ancestors of a node are a beginning of what they
become (`Extends.isPrefix_ancestors`). Where children are kept in front of new
ones, a tree can only get new nodes between the ones it has, and a walk meets
those that it has met before in the same order
(`Extends.preorder_sublist`). The first is an induction up the forest as it was,
and the second one down.
-/

namespace SyntaxOutline

/-- A part of a list without duplicates keeps the order of its members. -/
theorem idxOf_lt_idxOf_iff_of_sublist {α : Type} [DecidableEq α] {part whole : List α}
    (h : part.Sublist whole) (hnodup : whole.Nodup) {first second : α} (hfirst : first ∈ part)
    (hsecond : second ∈ part) :
    part.idxOf first < part.idxOf second ↔ whole.idxOf first < whole.idxOf second := by
  induction h with
  | slnil => cases hfirst
  | cons head h ih =>
    obtain ⟨hhead, hnodup⟩ := List.nodup_cons.1 hnodup
    have hne : ∀ {other}, other ∈ _ → head ≠ other := fun hother heq =>
      hhead (heq ▸ h.subset hother)
    rw [ih hnodup hfirst hsecond, List.idxOf_cons_ne _ (hne hfirst),
      List.idxOf_cons_ne _ (hne hsecond), Nat.succ_lt_succ_iff]
  | cons_cons head h ih =>
    obtain ⟨hhead, hnodup⟩ := List.nodup_cons.1 hnodup
    by_cases hheadSecond : head = second
    · rw [hheadSecond, List.idxOf_cons_self, List.idxOf_cons_self]
      exact iff_of_false (Nat.not_lt_zero _) (Nat.not_lt_zero _)
    · rw [List.idxOf_cons_ne _ hheadSecond, List.idxOf_cons_ne _ hheadSecond]
      by_cases hheadFirst : head = first
      · rw [hheadFirst, List.idxOf_cons_self, List.idxOf_cons_self]
        exact iff_of_true (Nat.succ_pos _) (Nat.succ_pos _)
      · rw [List.idxOf_cons_ne _ hheadFirst, List.idxOf_cons_ne _ hheadFirst,
          Nat.succ_lt_succ_iff, Nat.succ_lt_succ_iff]
        exact ih hnodup ((List.mem_cons.1 hfirst).resolve_left (Ne.symm hheadFirst))
          ((List.mem_cons.1 hsecond).resolve_left (Ne.symm hheadSecond))

namespace Arena

/-- **An arena that has grown out of another**: what was there is still there, where a node had a
parent it has kept it, the children of a node come before any new ones, and the kind of a node is
the same but for the frame offset. -/
structure Extends (arena changed : Arena) : Prop where
  mem {handle : Handle} : handle ∈ arena → handle ∈ changed
  parent?_eq {child parent : Handle} :
    arena.parent? child = some parent → changed.parent? child = some parent
  isPrefix_childrenOf (handle : Handle) : arena.childrenOf handle <+: changed.childrenOf handle
  kind?_eq {handle : Handle} {kind : Kind} : arena.kind? handle = some kind →
    ∃ offset, changed.kind? handle = some (kind.withFrameOffset offset)

end Arena

namespace Deed

open Arena

variable {deed : Deed} {deeds : List Deed} {arena changed : Arena} {node : Handle}

/-- A deed keeps the kind of a node that is there, but for the frame offset. -/
theorem Leads.exists_kind? {kind : Kind} (h : deed.Leads arena changed)
    (hkind : arena.kind? node = some kind) :
    ∃ offset, changed.kind? node = some (kind.withFrameOffset offset) := by
  have hchanged := h.kind?_eq node
  cases htold : deed.kindFor node with
  | some added =>
    rw [(h.kind?_of_kindFor htold).1] at hkind
    cases hkind
  | none =>
    rw [htold, hkind] at hchanged
    exact ⟨_, hchanged⟩

theorem LeadsAll.exists_kind? {kind : Kind} (h : LeadsAll deeds arena changed)
    (hkind : arena.kind? node = some kind) :
    ∃ offset, changed.kind? node = some (kind.withFrameOffset offset) := by
  induction h generalizing kind with
  | nil =>
    refine ⟨kind.frameOffset, ?_⟩
    rw [hkind, Kind.withFrameOffset_frameOffset]
  | cons hdeed _ ih =>
    obtain ⟨_, hmiddle⟩ := hdeed.exists_kind? hkind
    obtain ⟨offset, hchanged⟩ := ih hmiddle
    refine ⟨offset, ?_⟩
    rw [hchanged, Kind.withFrameOffset_withFrameOffset]

/-- **Whatever deeds were done, the arena has grown.** -/
theorem LeadsAll.extends (h : LeadsAll deeds arena changed) : arena.Extends changed where
  mem hmem := h.mem hmem
  parent?_eq {child parent} hparent := by
    have hadded := h.added_up (fun hdeed => hdeed.parent?_eq child)
    rw [hparent] at hadded
    have hhead := congrArg List.head? hadded
    rwa [Option.head?_toList] at hhead
  isPrefix_childrenOf handle := by
    rw [h.added_up (fun hdeed => hdeed.childrenOf_eq handle)]
    exact List.prefix_append _ _
  kind?_eq hkind := h.exists_kind? hkind

end Deed

namespace Arena

variable {arena changed : Arena} {handle root : Handle}

namespace Extends

/-! ## Up and down -/

/-- **A way up is only carried on** beyond its end. -/
theorem isPrefix_ancestors (hextends : arena.Extends changed) (hforest : arena.IsForest)
    (hchanged : changed.IsForest) (h : handle ∈ arena) :
    arena.ancestors handle <+: changed.ancestors handle := by
  induction handle, h using hforest.induction_up with
  | root handle hmem hparent =>
    rw [hforest.ancestors_of_root hmem hparent, hchanged.ancestors_eq (hextends.mem hmem)]
    exact List.prefix_append [handle] _
  | child child parent hparent ih =>
    rw [hforest.ancestors_of_parent? hparent,
      hchanged.ancestors_of_parent? (hextends.parent?_eq hparent)]
    exact List.cons_prefix_cons.2 ⟨rfl, ih⟩

/-- **A tree only gets new nodes between its own**, and in the same order a walk meets all that it
has met before. -/
theorem preorder_sublist (hextends : arena.Extends changed) (hforest : arena.IsForest)
    (hchanged : changed.IsForest) (h : root ∈ arena) :
    (arena.tree root).preorder.Sublist (changed.tree root).preorder := by
  induction root, h using hforest.induction_down with
  | step root hmem ih =>
    obtain ⟨more, hmore⟩ := hextends.isPrefix_childrenOf root
    rw [hforest.preorder_tree_eq hmem, hchanged.preorder_tree_eq (hextends.mem hmem), ← hmore,
      List.flatMap_append]
    refine List.Sublist.cons_cons root ?_
    exact (List.Sublist.flatMap_right _ ih).trans (List.sublist_append_left _ _)

theorem numberOf_eq (hextends : arena.Extends changed) (hforest : arena.IsForest)
    (hchanged : changed.IsForest) (h : handle ∈ arena) :
    changed.numberOf handle = arena.numberOf handle := by
  obtain ⟨before, hbefore⟩ := exists_node? h
  obtain ⟨after, hafter⟩ := exists_node? (hextends.mem h)
  rw [numberOf, numberOf, hbefore, hafter]
  exact (hchanged.number_eq hafter).trans (hforest.number_eq hbefore).symm

/-- The heading of a node does not depend on its frame offset, so it stays. -/
theorem headingOf_eq (hextends : arena.Extends changed) (h : handle ∈ arena) :
    changed.headingOf handle = arena.headingOf handle := by
  obtain ⟨before, hbefore⟩ := exists_node? h
  obtain ⟨after, hafter⟩ := exists_node? (hextends.mem h)
  obtain ⟨offset, hoffset⟩ := hextends.kind?_eq (kind?_of_node? hbefore)
  rw [kind?_of_node? hafter] at hoffset
  rw [headingOf, headingOf, hbefore, hafter]
  show after.kind.baseLabel = before.kind.baseLabel
  rw [Option.some.inj hoffset, Kind.baseLabel_withFrameOffset]

end Extends

theorem kind_eq_ok_iff {kind : Kind} :
    arena.kind handle = .ok kind ↔ arena.kind? handle = some kind := by
  rw [Arena.kind, kind?]
  cases h : arena.node? handle with
  | none =>
    rw [node_of_not_mem (node?_eq_none_iff.1 h)]
    constructor <;> intro hread <;> cases hread
  | some node =>
    rw [node_eq_ok_iff.2 h]
    exact ⟨fun hok => congrArg some (Except.ok.inj hok),
      fun hsome => congrArg Except.ok (Option.some.inj hsome)⟩

/-! ## What is kept of a node -/

/-- **What is kept of a node** of an arena that has become another one. -/
structure IsKept (arena changed : Arena) (handle : Handle) : Prop where
  mem : handle ∈ changed
  number_eq : ∃ number, arena.number handle = .ok number ∧ changed.number handle = .ok number
  /-- An offset, where the kind can have one, may be another. -/
  kind_eq : ∃ kind offset,
    arena.kind handle = .ok kind ∧ changed.kind handle = .ok (kind.withFrameOffset offset)
  parent_eq : ∀ parent,
    arena.parent handle = .ok (some parent) → changed.parent handle = .ok (some parent)
  isPrefix_children : ∃ children more,
    arena.children handle = .ok children ∧ changed.children handle = .ok (children ++ more)
  isPrefix_ancestors : arena.ancestors handle <+: changed.ancestors handle
  depth_le : ∃ depth deeper,
    arena.depth handle = .ok depth ∧ changed.depth handle = .ok deeper ∧ depth ≤ deeper
  preorder_sublist : (arena.tree handle).preorder.Sublist (changed.tree handle).preorder
  subtreeSize_le : ∃ size larger,
    arena.subtreeSize handle = .ok size ∧ changed.subtreeSize handle = .ok larger ∧ size ≤ larger
  /-- Of two nodes of the tree, the same one comes first. -/
  place_lt_iff : ∀ first ∈ (arena.tree handle).preorder, ∀ second ∈ (arena.tree handle).preorder,
    ((arena.tree handle).preorder.idxOf first < (arena.tree handle).preorder.idxOf second ↔
      (changed.tree handle).preorder.idxOf first < (changed.tree handle).preorder.idxOf second)
  /-- The lines of the tree, told by their numbers, are among the later ones in the same order. -/
  lines_sublist : ∀ threshold, ∃ lines more : List Line,
    (arena.render threshold handle).1 = .ok (unlines (lines.map Line.text)) ∧
      (changed.render threshold handle).1 = .ok (unlines (more.map Line.text)) ∧
      lines.map Line.number = (arena.tree handle).preorder.map arena.numberOf ∧
      more.map Line.number = (changed.tree handle).preorder.map changed.numberOf ∧
      (lines.map Line.number).Sublist (more.map Line.number)

/-- **An arena that grows keeps its nodes**, each with all that can be told from the links. -/
theorem Extends.isKept (hextends : arena.Extends changed) (hforest : arena.IsForest)
    (hchanged : changed.IsForest) (h : handle ∈ arena) : arena.IsKept changed handle := by
  have hmem := hextends.mem h
  have hancestors := hextends.isPrefix_ancestors hforest hchanged h
  have hsublist := hextends.preorder_sublist hforest hchanged h
  obtain ⟨entry, hentry⟩ := exists_node? h
  have hkind := kind?_of_node? hentry
  refine ⟨hmem, ⟨_, number_eq_ok h, ?_⟩, ?_, fun parent hparent => ?_, ?_, hancestors,
    ⟨_, _, depth_eq_ok h, depth_eq_ok hmem, ?_⟩, hsublist,
    ⟨_, _, hforest.subtreeSize_eq_ok h, hchanged.subtreeSize_eq_ok hmem, hsublist.length_le⟩,
    fun first hfirst second hsecond => ?_, fun threshold => ?_⟩
  · rw [number_eq_ok hmem, hextends.numberOf_eq hforest hchanged h]
  · obtain ⟨offset, hoffset⟩ := hextends.kind?_eq hkind
    exact ⟨entry.kind, offset, kind_eq_ok_iff.2 hkind, kind_eq_ok_iff.2 hoffset⟩
  · rw [parent_eq_ok h] at hparent
    rw [parent_eq_ok hmem, hextends.parent?_eq (Except.ok.inj hparent)]
  · obtain ⟨more, hmore⟩ := hextends.isPrefix_childrenOf handle
    refine ⟨_, more, children_eq_ok h, ?_⟩
    rw [hmore, children_eq_ok hmem]
  · exact Nat.sub_le_sub_right hancestors.length_le 1
  · exact idxOf_lt_idxOf_iff_of_sublist hsublist (hchanged.nodup_preorder_tree hmem) hfirst hsecond
  · refine ⟨_, _, Printer.render_eq_treeLines hforest h threshold,
      Printer.render_eq_treeLines hchanged hmem threshold, map_number_treeLines _ _ _,
      map_number_treeLines _ _ _, ?_⟩
    have hnumbers : (arena.tree handle).preorder.map arena.numberOf
        = (arena.tree handle).preorder.map changed.numberOf :=
      List.map_congr_left fun node hnode => (hextends.numberOf_eq hforest hchanged
        (hforest.mem_of_mem_preorder_tree h hnode)).symm
    rw [map_number_treeLines, map_number_treeLines, hnumbers]
    exact hsublist.map changed.numberOf

/-- **History is monotone.** Whatever edits are carried out on a reachable arena, refused ones among
them, each of its nodes is kept: its number, its kind but for the frame offset, its parent if it has
one, its children before any new ones, its ancestors up to where they ended, and the nodes of its
tree in the order in which they were walked and printed. -/
theorem applyAll_isKept (hreach : arena.Reachable) (edits : List Edit) :
    arena.IsPreorder (fun root => (arena.tree root).preorder) ∧
      (arena.applyAll edits).IsPreorder (fun root => ((arena.applyAll edits).tree root).preorder) ∧
      ∀ handle ∈ arena, arena.IsKept (arena.applyAll edits) handle := by
  have hforest := hreach.isForest
  have hchanged := (hreach.applyAll edits).isForest
  refine ⟨hforest.isPreorder, hchanged.isPreorder, fun handle h => ?_⟩
  exact (applyAll_leads edits arena).extends.isKept hforest hchanged h

/-- A program over a block, and an identifier that stands alone. -/
def sapling : Arena :=
  (empty 6).applyAll [.add .block, .add (.ident ⟨"x"⟩ none), .addOver .program [⟨6, 0⟩]]

/-- Edits by which the program gets a literal and comes to stand under a loop, and the block gets
the identifier, which is given an offset. The block is not put over the program in between. -/
def raise : List Edit :=
  [.attach ⟨6, 0⟩ ⟨6, 1⟩, .add (.int ⟨"1"⟩), .attach ⟨6, 0⟩ ⟨6, 2⟩, .attach ⟨6, 2⟩ ⟨6, 3⟩,
    .setFrameOffset ⟨6, 1⟩ 8, .addOver .whileStmt [⟨6, 2⟩]]

theorem applyAll_isKept_sapling :
    (sapling.tree ⟨6, 2⟩).preorder = [⟨6, 2⟩, ⟨6, 0⟩] ∧
      ((sapling.applyAll raise).tree ⟨6, 2⟩).preorder = [⟨6, 2⟩, ⟨6, 0⟩, ⟨6, 1⟩, ⟨6, 3⟩] ∧
      sapling.IsKept (sapling.applyAll raise) ⟨6, 2⟩ ∧
      sapling.ancestors ⟨6, 0⟩ = [⟨6, 0⟩, ⟨6, 2⟩] ∧
      [⟨6, 0⟩, ⟨6, 2⟩] <+: (sapling.applyAll raise).ancestors ⟨6, 0⟩ ∧
      ∃ kind offset, sapling.kind ⟨6, 1⟩ = .ok kind ∧
        (sapling.applyAll raise).kind ⟨6, 1⟩ = .ok (kind.withFrameOffset offset) := by
  have hreach : sapling.Reachable := (Reachable.empty 6).applyAll _
  obtain ⟨-, -, hkept⟩ := applyAll_isKept hreach raise
  have hancestors : sapling.ancestors ⟨6, 0⟩ = [⟨6, 0⟩, ⟨6, 2⟩] := by decide
  have hprefix := (hkept ⟨6, 0⟩ (by decide)).isPrefix_ancestors
  rw [hancestors] at hprefix
  exact ⟨by decide, by decide, hkept ⟨6, 2⟩ (by decide), hancestors, hprefix,
    (hkept ⟨6, 1⟩ (by decide)).kind_eq⟩

end Arena

end SyntaxOutline
