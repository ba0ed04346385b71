import SyntaxOutline.Proofs.Deeds
import SyntaxOutline.Proofs.Forest

/-!
# What edits make of an arena

An edit, whatever becomes of it, is a run of **changes**, and there are five
of them: a new node, a link that may be made, and a new decoration, label or
frame offset for one node. They are what the deeds of an edit come to when it
does not matter which handles and values they name. `apply_changes` says so
for every edit at once, the refused ones included, which are the empty run,
and the additions that are refused half-way, which are a new node and some
links. So what all five changes keep is kept by every edit, in whatever order
edits come.

A forest is kept (`Change.isForest`). All but one of the changes leave the
links up and down as they are. The one that does not is a link, and there the
point is that no cycle arises. A cycle would have to use the new link, so it
would lead up from the parent to the child – but then the child is among the
ancestors of the parent, where it was looked for.

An arena is **reachable** if edits lead to it from an empty one. A copy of an
arena is the same value, so it is reachable as well, and edits of either copy
say nothing about the other.
-/

namespace SyntaxOutline

namespace Arena

variable {arena changed : Arena} {handle parent child : Handle}

/-- **One change of an arena.** -/
inductive Change : Arena → Arena → Prop
  | push (arena : Arena) (kind : Kind) : Change arena (arena.push kind)
  | link {arena : Arena} {parent child : Handle} (h : arena.CanAttach parent child) :
    Change arena (arena.link parent child)
  /-- A node gets a decoration from the arena, or loses the one it has. -/
  | redecorate {arena : Arena} {node : Handle} (target : Option Handle) (hnode : node ∈ arena)
    (htarget : ∀ handle ∈ target, handle ∈ arena) :
    Change arena (arena.modify node fun entry => { entry with decoration := target })
  | relabel {arena : Arena} {node : Handle} (label : String) (hnode : node ∈ arena) :
    Change arena (arena.modify node fun entry => { entry with label := label })
  /-- An identifier gets a frame offset, or loses the one it has. -/
  | reoffset {arena : Arena} {node : Handle} {entry : Node} {offset : Option Nat} {kind : Kind}
    (hnode : arena.node? node = some entry)
    (hkind : entry.kind.withFrameOffset? offset = some kind) :
    Change arena (arena.modify node fun entry => { entry with kind := kind })

/-- The arenas that changes lead to. -/
abbrev Changes : Arena → Arena → Prop := Relation.ReflTransGen Change

/-! ## Every edit is a run of changes -/

theorem change_of_leads {deed : Deed} (h : deed.Leads arena changed) : Change arena changed := by
  cases h with
  | add _ kind => exact Change.push arena kind
  | attach hcan => exact Change.link hcan
  | decorate target hnode htarget => exact Change.redecorate target hnode htarget
  | relabel label hnode => exact Change.relabel label hnode
  | reoffset hnode hkind => exact Change.reoffset hnode hkind

theorem changes_of_leadsAll {deeds : List Deed} (h : Deed.LeadsAll deeds arena changed) :
    Changes arena changed := by
  induction h with
  | nil => exact Relation.ReflTransGen.refl
  | cons hdeed _ ih => exact Relation.ReflTransGen.head (change_of_leads hdeed) ih

/-- **Every edit is a run of changes**, carried out or refused. -/
theorem apply_changes (edit : Edit) (arena : Arena) : Changes arena (arena.apply edit).2 :=
  changes_of_leadsAll (apply_leads edit arena)

/-! ## A forest stays a forest -/

theorem isForest_empty (tag : Nat) : (empty tag).IsForest where
  parent_mem h := absurd (mem_of_parent? h) (not_mem_empty tag _)
  decoration_mem h := by
    rw [decoration?, elim_node?_of_not_mem (not_mem_empty tag _)] at h
    cases h
  mem_childrenOf_iff :=
    ⟨fun h => absurd (mem_of_mem_childrenOf h) (not_mem_empty tag _),
      fun h => absurd (mem_of_parent? h) (not_mem_empty tag _)⟩
  nodup_childrenOf parent := by
    rw [childrenOf, elim_node?_of_not_mem (not_mem_empty tag _)]
    exact List.nodup_nil
  acyclic handle h := by
    obtain ⟨parent, hstep, -⟩ := Relation.TransGen.head'_iff.1 h
    exact absurd (mem_of_parent? hstep) (not_mem_empty tag _)
  number_eq h := absurd (mem_of_node? h) (not_mem_empty tag _)

namespace IsForest

/-- Where the links up and down stay, it remains to look at decorations and numbers. -/
theorem of_same_links (hforest : arena.IsForest)
    (hmem : ∀ handle, handle ∈ arena → handle ∈ changed)
    (hparent : ∀ handle, changed.parent? handle = arena.parent? handle)
    (hchildren : ∀ handle, changed.childrenOf handle = arena.childrenOf handle)
    (hdecoration : ∀ handle target, changed.decoration? handle = some target → target ∈ changed)
    (hnumber : ∀ handle node, changed.node? handle = some node → node.number = handle.index + 1) :
    changed.IsForest where
  parent_mem h := hmem _ (hforest.parent_mem ((hparent _).symm.trans h))
  decoration_mem h := hdecoration _ _ h
  mem_childrenOf_iff := by
    intro parent child
    rw [hchildren, hparent]
    exact hforest.mem_childrenOf_iff
  nodup_childrenOf parent := by
    rw [hchildren]
    exact hforest.nodup_childrenOf parent
  acyclic handle h := by
    refine hforest.acyclic handle (Relation.TransGen.mono ?_ _ _ h)
    exact fun child _ hstep => (hparent child).symm.trans hstep
  number_eq h := hnumber _ _ h

theorem push (hforest : arena.IsForest) (kind : Kind) : (arena.push kind).IsForest := by
  refine hforest.of_same_links (fun _ h => mem_push_iff.2 (Or.inl h)) (parent?_push kind arena)
    (childrenOf_push kind arena) (fun handle target h => ?_) (fun handle node h => ?_)
  · rw [decoration?_push] at h
    exact mem_push_iff.2 (Or.inl (hforest.decoration_mem h))
  · rw [node?_push] at h
    split at h
    · next hnext =>
      rw [hnext, ← Option.some.inj h]
      show arena.size + 1 = arena.next.index + 1
      rfl
    · exact hforest.number_eq h

/-- A change of one node that keeps its number and the links up and down. -/
theorem modify (hforest : arena.IsForest) (handle : Handle) {change : Node → Node}
    (hnumber : ∀ node, (change node).number = node.number)
    (hparent : ∀ node, (change node).parent = node.parent)
    (hchildren : ∀ node, (change node).children = node.children)
    (hdecoration : ∀ other target,
      (arena.modify handle change).decoration? other = some target → target ∈ arena) :
    (arena.modify handle change).IsForest := by
  refine hforest.of_same_links (fun _ h => mem_modify_iff.2 h) (elim_node?_modify hparent handle)
    (elim_node?_modify hchildren handle) (fun other target h => ?_) (fun other node h => ?_)
  · exact mem_modify_iff.2 (hdecoration other target h)
  · obtain ⟨old, hold, hsame⟩ := exists_node?_of_modify Node.number hnumber h
    exact hsame.trans (hforest.number_eq hold)

/-- The steps up after a link are the steps up before it, and the step from the child. -/
theorem childOf_link_iff (hcan : arena.CanAttach parent child) {lower upper : Handle} :
    (arena.link parent child).ChildOf lower upper
      ↔ arena.ChildOf lower upper ∨ lower = child ∧ upper = parent := by
  rw [ChildOf, ChildOf, parent?_link hcan.child_mem]
  by_cases h : lower = child
  · rw [if_pos h, h, hcan.free]
    simp [eq_comm]
  · simp [h]

/-- A way up after a link either was one before, or leads to the child and on from the parent. -/
theorem transGen_link (hcan : arena.CanAttach parent child) {lower upper : Handle}
    (h : Relation.TransGen (arena.link parent child).ChildOf lower upper) :
    Relation.TransGen arena.ChildOf lower upper ∨
      Relation.ReflTransGen arena.ChildOf lower child ∧
        Relation.ReflTransGen arena.ChildOf parent upper := by
  induction h with
  | single hstep =>
    obtain hold | ⟨rfl, rfl⟩ := (childOf_link_iff hcan).1 hstep
    · exact Or.inl (Relation.TransGen.single hold)
    · exact Or.inr ⟨Relation.ReflTransGen.refl, Relation.ReflTransGen.refl⟩
  | tail _ hstep ih =>
    obtain hold | ⟨rfl, rfl⟩ := (childOf_link_iff hcan).1 hstep
    · obtain hway | ⟨hto, hfrom⟩ := ih
      · exact Or.inl (hway.tail hold)
      · exact Or.inr ⟨hto, hfrom.tail hold⟩
    · obtain hway | ⟨hto, -⟩ := ih
      · exact Or.inr ⟨hway.to_reflTransGen, Relation.ReflTransGen.refl⟩
      · exact Or.inr ⟨hto, Relation.ReflTransGen.refl⟩

/-- **A link that may be made closes no cycle**, and a forest with it is a forest. -/
theorem link (hforest : arena.IsForest) (hcan : arena.CanAttach parent child) :
    (arena.link parent child).IsForest where
  parent_mem {lower upper} h := by
    rw [mem_link_iff]
    obtain hold | ⟨-, rfl⟩ := (childOf_link_iff hcan).1 h
    · exact hforest.parent_mem hold
    · exact hcan.parent_mem
  decoration_mem h := by
    rw [decoration?_link] at h
    exact mem_link_iff.2 (hforest.decoration_mem h)
  mem_childrenOf_iff {upper lower} := by
    refine Iff.trans ?_ (childOf_link_iff hcan).symm
    rw [childrenOf_link hcan.parent_mem]
    by_cases h : upper = parent
    · rw [if_pos h, h, List.mem_append, List.mem_singleton, hforest.mem_childrenOf_iff]
      simp [ChildOf]
    · rw [if_neg h, hforest.mem_childrenOf_iff]
      simp [ChildOf, h]
  nodup_childrenOf upper := by
    rw [childrenOf_link hcan.parent_mem]
    split
    · refine List.nodup_append.2
        ⟨hforest.nodup_childrenOf parent, List.nodup_singleton child, ?_⟩
      rintro lower hlower _ hchild rfl
      rw [List.mem_singleton.1 hchild, hforest.mem_childrenOf_iff, hcan.free] at hlower
      cases hlower
    · exact hforest.nodup_childrenOf upper
  acyclic handle h := by
    obtain hold | ⟨hto, hfrom⟩ := transGen_link hcan h
    · exact hforest.acyclic handle hold
    · exact hcan.not_above ((hforest.mem_ancestors_iff hcan.parent_mem).2 (hfrom.trans hto))
  number_eq h := by
    obtain ⟨middle, hmiddle, hsame⟩ :=
      exists_node?_of_modify Node.number (fun _ => by rfl) h
    obtain ⟨old, hold, hsame'⟩ :=
      exists_node?_of_modify Node.number (fun _ => by rfl) hmiddle
    rw [hsame, hsame', hforest.number_eq hold]

end IsForest

/-- **Every change keeps a forest.** -/
theorem Change.isForest (h : Change arena changed) (hforest : arena.IsForest) :
    changed.IsForest := by
  cases h with
  | push kind => exact hforest.push kind
  | link hcan => exact hforest.link hcan
  | @redecorate node target hnode htarget =>
    refine hforest.modify node (fun _ => rfl) (fun _ => rfl) (fun _ => rfl)
      (fun other decoration h => ?_)
    obtain ⟨entry, hentry⟩ := exists_node? hnode
    by_cases hother : other = node
    · rw [hother, decoration?, elim_node?_modify_self hentry] at h
      exact htarget decoration h
    · rw [decoration?, elim_node?_modify_of_ne hother] at h
      exact hforest.decoration_mem h
  | @relabel node label hnode =>
    refine hforest.modify node (fun _ => rfl) (fun _ => rfl) (fun _ => rfl)
      (fun other decoration h => ?_)
    exact hforest.decoration_mem ((elim_node?_modify (fun _ => by rfl) node other).symm.trans h)
  | @reoffset node entry offset kind hnode hkind =>
    refine hforest.modify node (fun _ => rfl) (fun _ => rfl) (fun _ => rfl)
      (fun other decoration h => ?_)
    exact hforest.decoration_mem ((elim_node?_modify (fun _ => by rfl) node other).symm.trans h)

theorem Changes.isForest (h : Changes arena changed) (hforest : arena.IsForest) :
    changed.IsForest := by
  induction h with
  | refl => exact hforest
  | tail _ hchange ih => exact hchange.isForest ih

/-! ## An arena keeps its tag -/

theorem Change.tag_eq (h : Change arena changed) : changed.tag = arena.tag := by
  cases h with
  | push kind => rfl
  | link _ => exact tag_link _ _ arena
  | redecorate _ _ _ => exact tag_modify _ _ arena
  | relabel _ _ => exact tag_modify _ _ arena
  | reoffset _ _ => exact tag_modify _ _ arena

theorem Changes.tag_eq (h : Changes arena changed) : changed.tag = arena.tag := by
  induction h with
  | refl => rfl
  | tail _ hchange ih => exact hchange.tag_eq.trans ih

@[simp] theorem tag_apply (edit : Edit) (arena : Arena) :
    (arena.apply edit).2.tag = arena.tag :=
  (apply_changes edit arena).tag_eq

@[simp] theorem tag_applyAll (edits : List Edit) (arena : Arena) :
    (arena.applyAll edits).tag = arena.tag := by
  induction edits generalizing arena with
  | nil => rfl
  | cons edit rest ih => exact (ih _).trans (tag_apply edit arena)

/-! ## Reachable arenas -/

/-- **A reachable arena**: one that edits, carried out or refused, have made of an empty one. -/
inductive Reachable : Arena → Prop
  | empty (tag : Nat) : Reachable (.empty tag)
  | apply {arena : Arena} (edit : Edit) (h : Reachable arena) : Reachable (arena.apply edit).2

theorem Reachable.applyAll (edits : List Edit) (h : arena.Reachable) :
    (arena.applyAll edits).Reachable := by
  induction edits generalizing arena with
  | nil => exact h
  | cons edit rest ih => exact ih (h.apply edit)

/-- **Every reachable arena is a forest.** -/
theorem Reachable.isForest (h : arena.Reachable) : arena.IsForest := by
  induction h with
  | empty tag => exact isForest_empty tag
  | apply edit _ ih => exact (apply_changes edit _).isForest ih

end Arena

end SyntaxOutline
