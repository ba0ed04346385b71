import SyntaxOutline.Proofs.Links
import Mathlib.Data.List.Nodup
import Mathlib.Data.List.Perm.Subperm

/-!
# Forests

An arena is a **forest** if its links fit together: they stay within the
arena, a node is among the children of another just if that one is its
parent, no list of children names a node twice, and no way up over parents
comes back to where it began. Numbers belong to it as well, since a node is
told by its number.

## What the way up is good for

`Arena.climb` cuts the way up off after a number of nodes. In a forest the
cut never shows: the nodes on a way up are distinct, so there are at most as
many as the arena holds. From there `ancestors` has the equations one expects
of it, and `mem_ancestors_iff` says that it finds all that stands above a
node. The depth of a node is one less than the length of its way up, and it
grows by one from a node to its children; so it bounds every way *down* as
well, which is what the inductions over a forest (`IsForest.induction_up` and
`IsForest.induction_down`) rest on.
-/

namespace SyntaxOutline

namespace Arena

variable {arena : Arena} {handle parent child : Handle}

/-- **An arena whose links make a forest.** -/
structure IsForest (arena : Arena) : Prop where
  /-- A parent belongs to the arena. -/
  parent_mem : ∀ {child parent}, arena.parent? child = some parent → parent ∈ arena
  /-- What decorates a node belongs to the arena. -/
  decoration_mem : ∀ {handle target}, arena.decoration? handle = some target → target ∈ arena
  /-- The links down and the links up are the same links. -/
  mem_childrenOf_iff : ∀ {parent child},
    child ∈ arena.childrenOf parent ↔ arena.parent? child = some parent
  nodup_childrenOf : ∀ parent, (arena.childrenOf parent).Nodup
  /-- No way up comes back to where it began. -/
  acyclic : ∀ handle, ¬ Relation.TransGen arena.ChildOf handle handle
  number_eq : ∀ {handle node}, arena.node? handle = some node → node.number = handle.index + 1

theorem nodup_handles (arena : Arena) : arena.handles.Nodup :=
  List.Nodup.map (fun _ _ h => (Handle.mk.inj h).2) List.nodup_range

/-! ## The way up, cut off -/

theorem climb_succ (arena : Arena) (steps : Nat) (handle : Handle) :
    arena.climb (steps + 1) handle
      = handle :: (arena.parent? handle).elim [] (arena.climb steps) := by
  have hview : (arena.node? handle).bind Node.parent = arena.parent? handle := by
    rw [parent?]
    cases arena.node? handle <;> rfl
  rw [climb, hview]
  cases arena.parent? handle <;> rfl

/-- A later cut only leaves more of the way. -/
theorem take_climb (arena : Arena) (more steps : Nat) (handle : Handle) :
    (arena.climb (steps + more) handle).take steps = arena.climb steps handle := by
  induction steps generalizing handle with
  | zero => rfl
  | succ steps ih =>
    rw [Nat.add_right_comm, climb_succ, climb_succ, List.take_succ_cons]
    refine congrArg (handle :: ·) ?_
    cases arena.parent? handle with
    | none => exact List.take_nil
    | some parent =>
      show (arena.climb (steps + more) parent).take steps = arena.climb steps parent
      exact ih parent

theorem reflTransGen_of_mem_climb {steps : Nat} {above : Handle}
    (h : above ∈ arena.climb steps handle) :
    Relation.ReflTransGen arena.ChildOf handle above := by
  induction steps generalizing handle with
  | zero => cases h
  | succ steps ih =>
    rw [climb_succ, List.mem_cons] at h
    obtain rfl | h := h
    · exact Relation.ReflTransGen.refl
    · cases hparent : arena.parent? handle with
      | none =>
        rw [hparent] at h
        cases h
      | some parent =>
        rw [hparent] at h
        exact Relation.ReflTransGen.head hparent (ih h)

/-- Only a node of the arena has ancestors. -/
theorem mem_of_mem_ancestors {above : Handle} (h : above ∈ arena.ancestors handle) :
    handle ∈ arena := by
  by_cases hmem : handle ∈ arena
  · exact hmem
  · rw [ancestors_of_not_mem hmem] at h
    cases h

namespace IsForest

/-- A child belongs to the arena. -/
theorem child_mem (hforest : arena.IsForest) (h : child ∈ arena.childrenOf parent) :
    child ∈ arena :=
  mem_of_parent? (hforest.mem_childrenOf_iff.1 h)

/-- The nodes on a way up are distinct. -/
theorem nodup_climb (hforest : arena.IsForest) (steps : Nat) (handle : Handle) :
    (arena.climb steps handle).Nodup := by
  induction steps generalizing handle with
  | zero => exact List.nodup_nil
  | succ steps ih =>
    rw [climb_succ]
    cases hparent : arena.parent? handle with
    | none => exact List.nodup_singleton handle
    | some parent =>
      show (handle :: arena.climb steps parent).Nodup
      refine List.nodup_cons.2 ⟨fun hmem => ?_, ih parent⟩
      exact hforest.acyclic handle
        (Relation.TransGen.head' hparent (reflTransGen_of_mem_climb hmem))

theorem mem_of_reflTransGen (hforest : arena.IsForest) {above : Handle} (hmem : handle ∈ arena)
    (h : Relation.ReflTransGen arena.ChildOf handle above) : above ∈ arena := by
  cases h with
  | refl => exact hmem
  | tail _ hstep => exact hforest.parent_mem hstep

/-- A way up has no more nodes than the arena, wherever it is cut off. -/
theorem length_climb_le_size (hforest : arena.IsForest) (hmem : handle ∈ arena) (steps : Nat) :
    (arena.climb steps handle).length ≤ arena.size := by
  have hsub : arena.climb steps handle ⊆ arena.handles := by
    intro above habove
    rw [mem_handles_iff]
    exact hforest.mem_of_reflTransGen hmem (reflTransGen_of_mem_climb habove)
  have hle := ((hforest.nodup_climb steps handle).subperm hsub).length_le
  simpa only [handles, List.length_map, List.length_range] using hle

/-- **The cut does not show**: with more steps than the arena has nodes the way up is the same. -/
theorem climb_size_add (hforest : arena.IsForest) (hmem : handle ∈ arena) (more : Nat) :
    arena.climb (arena.size + more) handle = arena.climb arena.size handle := by
  rw [← take_climb arena more arena.size handle]
  exact (List.take_of_length_le (hforest.length_climb_le_size hmem _)).symm

/-! ## The ancestors -/

/-- **The ancestors of a node** are the node and the ancestors of its parent. -/
theorem ancestors_eq (hforest : arena.IsForest) (hmem : handle ∈ arena) :
    arena.ancestors handle = handle :: (arena.parent? handle).elim [] arena.ancestors := by
  rw [ancestors, if_pos hmem, ← hforest.climb_size_add hmem 1, climb_succ]
  refine congrArg (handle :: ·) ?_
  cases hparent : arena.parent? handle with
  | none => rfl
  | some parent =>
    show arena.climb arena.size parent = arena.ancestors parent
    rw [ancestors, if_pos (hforest.parent_mem hparent)]

theorem ancestors_of_parent? (hforest : arena.IsForest)
    (h : arena.parent? child = some parent) :
    arena.ancestors child = child :: arena.ancestors parent := by
  rw [hforest.ancestors_eq (mem_of_parent? h), h]
  rfl

theorem ancestors_of_root (hforest : arena.IsForest) (hmem : handle ∈ arena)
    (h : arena.parent? handle = none) : arena.ancestors handle = [handle] := by
  rw [hforest.ancestors_eq hmem, h]
  rfl

/-- Induction up a forest: from the parent of a node to the node. -/
theorem induction_up (hforest : arena.IsForest) {motive : ∀ handle, handle ∈ arena → Prop}
    (root : ∀ handle (hmem : handle ∈ arena), arena.parent? handle = none → motive handle hmem)
    (child : ∀ child parent (h : arena.parent? child = some parent),
      motive parent (hforest.parent_mem h) → motive child (mem_of_parent? h))
    (handle : Handle) (hmem : handle ∈ arena) : motive handle hmem := by
  induction hlength : (arena.ancestors handle).length generalizing handle with
  | zero =>
    rw [hforest.ancestors_eq hmem] at hlength
    cases hlength
  | succ length ih =>
    cases hparent : arena.parent? handle with
    | none => exact root handle hmem hparent
    | some parent =>
      refine child handle parent hparent (ih parent (hforest.parent_mem hparent) ?_)
      rw [hforest.ancestors_of_parent? hparent] at hlength
      exact Nat.succ.inj hlength

/-- **The ancestors of a node are all that stands above it**, itself included. -/
theorem mem_ancestors_iff (hforest : arena.IsForest) {above : Handle} (hmem : handle ∈ arena) :
    above ∈ arena.ancestors handle ↔ Relation.ReflTransGen arena.ChildOf handle above := by
  constructor
  · intro h
    rw [ancestors, if_pos hmem] at h
    exact reflTransGen_of_mem_climb h
  · intro h
    induction h using Relation.ReflTransGen.head_induction_on with
    | refl =>
      rw [hforest.ancestors_eq hmem]
      exact List.mem_cons_self
    | head hstep _ ih =>
      rw [hforest.ancestors_of_parent? hstep]
      exact List.mem_cons_of_mem _ (ih (hforest.parent_mem hstep))

theorem nodup_ancestors (hforest : arena.IsForest) (handle : Handle) :
    (arena.ancestors handle).Nodup := by
  unfold ancestors
  split
  · exact hforest.nodup_climb _ _
  · exact List.nodup_nil

end IsForest

/-! ## The depth of a node -/

/-- How many nodes stand above a node. -/
def level (arena : Arena) (handle : Handle) : Nat :=
  (arena.ancestors handle).length - 1

theorem depth_eq_ok (h : handle ∈ arena) : arena.depth handle = .ok (arena.level handle) := by
  obtain ⟨node, hnode⟩ := exists_node? h
  rw [depth, node_eq_ok_iff.2 hnode]
  show Except.ok ((arena.ancestors handle).length - 1) = Except.ok (arena.level handle)
  rfl

namespace IsForest

theorem length_ancestors (hforest : arena.IsForest) (hmem : handle ∈ arena) :
    (arena.ancestors handle).length = arena.level handle + 1 := by
  rw [level, hforest.ancestors_eq hmem, List.length_cons, Nat.add_sub_cancel]

/-- A child stands one level deeper than its parent. -/
theorem level_of_parent? (hforest : arena.IsForest) (h : arena.parent? child = some parent) :
    arena.level child = arena.level parent + 1 := by
  rw [level, hforest.ancestors_of_parent? h, List.length_cons, Nat.add_sub_cancel,
    hforest.length_ancestors (hforest.parent_mem h)]

theorem level_lt_size (hforest : arena.IsForest) (hmem : handle ∈ arena) :
    arena.level handle < arena.size := by
  have hle := arena.length_ancestors_le handle
  rw [hforest.length_ancestors hmem] at hle
  exact hle

/-- Induction down a forest: from the children of a node to the node. A node has less room below it
the deeper it stands, since no level is as great as the number of nodes. -/
theorem induction_down (hforest : arena.IsForest) {motive : ∀ handle, handle ∈ arena → Prop}
    (step : ∀ handle (hmem : handle ∈ arena),
      (∀ child (h : child ∈ arena.childrenOf handle), motive child (hforest.child_mem h)) →
        motive handle hmem)
    (handle : Handle) (hmem : handle ∈ arena) : motive handle hmem := by
  induction hroom : arena.size - arena.level handle using Nat.strongRecOn
    generalizing handle with
  | _ room ih =>
    refine step handle hmem (fun child hchild => ?_)
    have hparent := hforest.mem_childrenOf_iff.1 hchild
    have hlevel := hforest.level_of_parent? hparent
    have hlt := hforest.level_lt_size hmem
    exact ih _ (by omega) child (hforest.child_mem hchild) rfl

/-- A node has one parent, so it stands in one list of children at most. -/
theorem eq_of_mem_childrenOf (hforest : arena.IsForest) {other : Handle}
    (h : child ∈ arena.childrenOf parent) (hother : child ∈ arena.childrenOf other) :
    parent = other := by
  rw [hforest.mem_childrenOf_iff] at h hother
  exact Option.some.inj (h.symm.trans hother)

/-- All lists of children together name no node twice. -/
theorem nodup_flatMap_childrenOf (hforest : arena.IsForest) :
    (arena.handles.flatMap arena.childrenOf).Nodup := by
  refine List.nodup_flatMap.2 ⟨fun parent _ => hforest.nodup_childrenOf parent, ?_⟩
  refine arena.nodup_handles.imp (fun hne child hchild hother => hne ?_)
  exact hforest.eq_of_mem_childrenOf hchild hother

end IsForest

end Arena

end SyntaxOutline
