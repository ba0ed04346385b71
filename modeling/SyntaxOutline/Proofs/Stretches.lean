import SyntaxOutline.Proofs.Locality

/-!
# A tree within a greater one

What hangs below a node of a tree is walked without a break. So the walk
through the greater tree is made up of three parts: what is met before the
node, the walk through the tree of the node, as deep as the node stands, and
what is met when that is over.

The first and the last part do not depend on what hangs below the node. They
are the same in any arena that differs from this one in the children of that
node alone (`IsForest.exists_visits_eq`). The induction goes down from the root
to the node: of the children of a node above it just one leads there, and the
trees of the others do not know of the difference. On the way down it also
shows what is met in these two parts: first the nodes above, each followed by
the trees of the elder siblings of the next one, and in the end, from below
upward, the trees of the younger siblings.
-/

namespace SyntaxOutline

namespace Arena

variable {arena changed : Arena} {child inner root : Handle}

/-! ## A change at one node -/

/-- **Whether another arena has the nodes of a tree with the children that they have here**, one of
them perhaps excepted. -/
def SameBut (arena changed : Arena) (inner root : Handle) : Prop :=
  ∀ node ∈ (arena.tree root).preorder, node ∈ changed ∧
    (node ≠ inner → changed.childrenOf node = arena.childrenOf node)

/-- The arena itself has, with no exception. -/
theorem IsForest.sameBut_self (hforest : arena.IsForest) (h : root ∈ arena) :
    arena.SameBut arena inner root :=
  fun _ hnode => ⟨hforest.mem_of_mem_preorder_tree h hnode, fun _ => rfl⟩

theorem SameBut.of_childrenOf (h : arena.SameBut changed inner root) (hforest : arena.IsForest)
    (hchild : child ∈ arena.childrenOf root) : arena.SameBut changed inner child :=
  fun node hnode => h node (hforest.preorder_tree_subset hchild hnode)

/-- A tree to which that node does not belong is the same. -/
theorem SameBut.tree_eq (h : arena.SameBut changed inner root) (hforest : arena.IsForest)
    (hchanged : changed.IsForest) (hmem : root ∈ arena)
    (hout : inner ∉ (arena.tree root).preorder) : changed.tree root = arena.tree root := by
  refine hforest.tree_congr hchanged hmem fun node hnode => ?_
  obtain ⟨hin, hother⟩ := h node hnode
  exact ⟨hin, hother fun heq => hout (heq ▸ hnode)⟩

/-! ## The walk in three parts -/

/-- Whether the first of two nodes is the **elder** sibling: it stands earlier in the list of
children to which both belong. -/
def Elder (arena : Arena) (elder younger : Handle) : Prop :=
  ∃ parent, [elder, younger].Sublist (arena.childrenOf parent)

/-- What stands **before** a node in its tree: whatever is above the node, or belongs to the tree of
an elder sibling of it or of a node above it. -/
def Before (arena : Arena) (node inner : Handle) : Prop :=
  (node ∈ arena.ancestors inner ∧ node ≠ inner) ∨
    ∃ above ∈ arena.ancestors inner, ∃ elder, arena.Elder elder above ∧ node ∈ arena.subtree elder

/-- What stands **after** a node and all below it: whatever belongs to the tree of a younger sibling
of the node or of a node above it. -/
def After (arena : Arena) (node inner : Handle) : Prop :=
  ∃ above ∈ arena.ancestors inner, ∃ younger,
    arena.Elder above younger ∧ node ∈ arena.subtree younger

/-- Siblings that come first among the children are elder, and those that come last are younger. -/
theorem elder_of_split {earlier later : List Handle} {middle sibling : Handle}
    (hsplit : arena.childrenOf root = earlier ++ middle :: later) :
    (sibling ∈ earlier → arena.Elder sibling middle) ∧
      (sibling ∈ later → arena.Elder middle sibling) := by
  refine ⟨fun hfirst => ⟨root, ?_⟩, fun hlast => ⟨root, ?_⟩⟩
  · rw [hsplit]
    exact (List.singleton_sublist.2 hfirst).append (List.singleton_sublist.2 List.mem_cons_self)
  · rw [hsplit]
    exact ((List.singleton_sublist.2 hlast).cons_cons middle).trans
      (List.sublist_append_right earlier _)

namespace IsForest

/-- Of the children of a node that stands above another, just one stands above that as well. -/
theorem exists_childrenOf_eq (hforest : arena.IsForest) (h : root ∈ arena) (hne : inner ≠ root)
    (hinner : inner ∈ (arena.tree root).preorder) :
    ∃ earlier middle later, arena.childrenOf root = earlier ++ middle :: later ∧
      inner ∈ (arena.tree middle).preorder ∧
      ∀ sibling ∈ earlier ++ later, inner ∉ (arena.tree sibling).preorder := by
  have hnodup := hforest.nodup_preorder_tree h
  rw [hforest.preorder_tree_eq h] at hinner hnodup
  obtain ⟨middle, hmiddle, hbelow⟩ := List.mem_flatMap.1 ((List.mem_cons.1 hinner).resolve_left hne)
  obtain ⟨earlier, later, hsplit⟩ := List.append_of_mem hmiddle
  refine ⟨earlier, middle, later, hsplit, hbelow, fun sibling hsibling hbeside => ?_⟩
  obtain ⟨-, hapart⟩ := List.nodup_flatMap.1 (List.nodup_cons.1 hnodup).2
  rw [hsplit, List.pairwise_middle (fun h => List.Disjoint.symm h)] at hapart
  exact List.rel_of_pairwise_cons hapart hsibling hbelow hbeside

/-- The walk through a tree, told apart at one of the branches. -/
theorem visits_tree_of_split (hforest : arena.IsForest) (h : root ∈ arena)
    {earlier later : List Handle} {middle : Handle}
    (hsplit : arena.childrenOf root = earlier ++ middle :: later) (depth : Nat) :
    (arena.tree root).visits depth
      = ((root, depth) :: earlier.flatMap fun sibling => (arena.tree sibling).visits (depth + 1))
        ++ (arena.tree middle).visits (depth + 1)
        ++ later.flatMap fun sibling => (arena.tree sibling).visits (depth + 1) := by
  rw [hforest.visits_tree_eq h, hsplit, List.flatMap_append, List.flatMap_cons, List.cons_append,
    List.cons_append, List.append_assoc]

/-- Beside the branch that leads to a node, the elder branches hold what stands before the node, and
the younger ones what stands after it. -/
theorem before_and_after_of_split (hforest : arena.IsForest) {earlier later : List Handle}
    {middle : Handle} (hsplit : arena.childrenOf root = earlier ++ middle :: later)
    (hinner : inner ∈ (arena.tree middle).preorder) {depth : Nat} {visit : Handle × Nat} :
    ((visit ∈ earlier.flatMap fun sibling => (arena.tree sibling).visits depth) →
      arena.Before visit.1 inner) ∧
    ((visit ∈ later.flatMap fun sibling => (arena.tree sibling).visits depth) →
      arena.After visit.1 inner) := by
  have hmem : ∀ sibling ∈ earlier ++ middle :: later, sibling ∈ arena :=
    fun sibling hsibling => hforest.child_mem (hsplit ▸ hsibling)
  have habove : middle ∈ arena.ancestors inner := by
    refine (hforest.mem_preorder_tree_iff_mem_ancestors (hmem middle ?_)).1 hinner
    exact List.mem_append_right earlier List.mem_cons_self
  refine ⟨fun hvisit => ?_, fun hvisit => ?_⟩
  · obtain ⟨sibling, hsibling, hbelow⟩ := List.mem_flatMap.1 hvisit
    refine Or.inr ⟨middle, habove, sibling, (elder_of_split hsplit).1 hsibling, ?_⟩
    rw [hforest.mem_subtree_iff (hmem sibling (List.mem_append_left _ hsibling))]
    exact Tree.mem_preorder_of_mem_visits hbelow
  · obtain ⟨sibling, hsibling, hbelow⟩ := List.mem_flatMap.1 hvisit
    refine ⟨middle, habove, sibling, (elder_of_split hsplit).2 hsibling, ?_⟩
    rw [hforest.mem_subtree_iff
      (hmem sibling (List.mem_append_right _ (List.mem_cons_of_mem _ hsibling)))]
    exact Tree.mem_preorder_of_mem_visits hbelow

/-- **The walk through a tree within a greater one is one stretch of the walk through that.** And if
the root of the inner tree alone has got other children, then only this stretch is another one. What
is met before the stretch stands before the root of the inner tree, and what is met afterwards
stands after it. -/
theorem exists_visits_eq (hforest : arena.IsForest) (hchanged : changed.IsForest)
    (h : root ∈ arena) (hinner : inner ∈ (arena.tree root).preorder)
    (hsame : arena.SameBut changed inner root) (depth : Nat) :
    ∃ before after,
      (arena.tree root).visits depth = before ++
        (arena.tree inner).visits (depth + (arena.level inner - arena.level root)) ++ after ∧
      (changed.tree root).visits depth = before ++
        (changed.tree inner).visits (depth + (arena.level inner - arena.level root)) ++ after ∧
      (∀ visit ∈ before, arena.Before visit.1 inner) ∧
      ∀ visit ∈ after, arena.After visit.1 inner := by
  induction root, h using hforest.induction_down generalizing depth with
  | step root hmem ih =>
    obtain ⟨hroot, hchildren⟩ := hsame root (hforest.mem_preorder_tree_self hmem)
    by_cases heq : inner = root
    · rw [heq, Nat.sub_self, Nat.add_zero]
      exact ⟨[], [], (List.append_nil _).symm, (List.append_nil _).symm, nofun, nofun⟩
    · obtain ⟨earlier, middle, later, hsplit, hbelow, hapart⟩ :=
        hforest.exists_childrenOf_eq hmem heq hinner
      have hchild : ∀ sibling ∈ earlier ++ middle :: later, sibling ∈ arena.childrenOf root :=
        fun sibling hsibling => hsplit ▸ hsibling
      have hsub : earlier ++ later ⊆ earlier ++ middle :: later :=
        ((List.sublist_cons_self middle later).append_left earlier).subset
      -- beside the branch that leads to the inner tree there is no change
      have hvisits : ∀ siblings ⊆ earlier ++ later,
          siblings.flatMap (fun sibling => (changed.tree sibling).visits (depth + 1))
            = siblings.flatMap (fun sibling => (arena.tree sibling).visits (depth + 1)) := by
        refine fun siblings hbeside => List.flatMap_congr fun sibling hsibling => ?_
        have hsibling := hbeside hsibling
        have hbranch := hchild sibling (hsub hsibling)
        rw [(hsame.of_childrenOf hforest hbranch).tree_eq hforest hchanged
          (hforest.child_mem hbranch) (hapart sibling hsibling)]
      have hmiddle := hchild middle (List.mem_append_right earlier List.mem_cons_self)
      have hdeeper : depth + 1 + (arena.level inner - arena.level middle)
          = depth + (arena.level inner - arena.level root) := by
        have hlevel := hforest.level_of_parent? (hforest.mem_childrenOf_iff.1 hmiddle)
        have hle := hforest.level_le_of_mem_preorder_tree (hforest.child_mem hmiddle) hbelow
        omega
      obtain ⟨before, after, hbefore, hafter, hfirst, hlast⟩ :=
        ih middle hmiddle hbelow (hsame.of_childrenOf hforest hmiddle) (depth + 1)
      rw [hdeeper] at hbefore hafter
      rw [hforest.visits_tree_of_split hmem hsplit, hbefore,
        hchanged.visits_tree_of_split hroot ((hchildren (Ne.symm heq)).trans hsplit), hafter,
        hvisits earlier (List.subset_append_left _ _),
        hvisits later (List.subset_append_right _ _)]
      refine ⟨(root, depth) ::
          earlier.flatMap (fun sibling => (arena.tree sibling).visits (depth + 1)) ++ before,
        after ++ later.flatMap (fun sibling => (arena.tree sibling).visits (depth + 1)),
        ?_, ?_, ?_, ?_⟩
      · simp only [List.append_assoc]
      · simp only [List.append_assoc]
      · intro visit hvisit
        rw [List.cons_append, List.mem_cons, List.mem_append] at hvisit
        obtain rfl | hbeside | hdeeper := hvisit
        · exact Or.inl ⟨(hforest.mem_preorder_tree_iff_mem_ancestors hmem).1 hinner, Ne.symm heq⟩
        · exact (hforest.before_and_after_of_split hsplit hbelow).1 hbeside
        · exact hfirst visit hdeeper
      · intro visit hvisit
        obtain hdeeper | hbeside := List.mem_append.1 hvisit
        · exact hlast visit hdeeper
        · exact (hforest.before_and_after_of_split hsplit hbelow).2 hbeside

/-- Such a stretch begins where the root of the inner tree is met. -/
theorem idxOf_of_visits_eq (hforest : arena.IsForest) (h : root ∈ arena) (hinner : inner ∈ arena)
    {depth deeper : Nat} {before after : List (Handle × Nat)}
    (hsplit : (arena.tree root).visits depth
      = before ++ (arena.tree inner).visits deeper ++ after) :
    (arena.tree root).preorder.idxOf inner = before.length := by
  have hpreorder := Tree.preorder_eq_of_visits_eq hsplit
  have hnodup := hforest.nodup_preorder_tree h
  rw [hpreorder, List.append_assoc, List.nodup_append] at hnodup
  have hfirst : inner ∉ before.map Prod.fst := fun hbefore =>
    hnodup.2.2 inner hbefore inner
      (List.mem_append_left _ (hforest.mem_preorder_tree_self hinner)) rfl
  rw [hpreorder, List.append_assoc, List.idxOf_append_of_notMem hfirst,
    hforest.preorder_tree_eq hinner, List.cons_append, List.idxOf_cons_self, List.length_map,
    Nat.add_zero]

/-- The nodes of a tree within a greater one are met one after the other. -/
theorem take_drop_preorder_tree (hforest : arena.IsForest) (h : root ∈ arena)
    (hinner : inner ∈ (arena.tree root).preorder) :
    ((arena.tree root).preorder.drop ((arena.tree root).preorder.idxOf inner)).take
        (arena.tree inner).preorder.length
      = (arena.tree inner).preorder := by
  obtain ⟨before, after, hsplit, -⟩ := hforest.exists_visits_eq hforest h hinner
    (hforest.sameBut_self h) 0
  rw [hforest.idxOf_of_visits_eq h (hforest.mem_of_mem_preorder_tree h hinner) hsplit,
    Tree.preorder_eq_of_visits_eq hsplit, List.append_assoc,
    List.drop_left' (List.length_map _), List.take_left]

end IsForest

end Arena

end SyntaxOutline
