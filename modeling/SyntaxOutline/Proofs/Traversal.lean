import SyntaxOutline.Proofs.Subtree

/-!
# Walks follow the tree

A walk through an arena is a run of its act over the tree of the node where
it begins, in pre-order and with depths (`IsForest.visit_eq`); a walk over
the children of a node is the same run without the node itself
(`IsForest.walkChildren_visit_eq`). What a walk does to its state can
therefore be told from a list, whatever the act is, and the bound on the
levels is gone.
-/

namespace SyntaxOutline

variable {ε σ α β : Type}

/-- What comes after a step goes on from where the step has led. -/
theorem bind_of_ok {step : EStateM ε σ α} {rest : α → EStateM ε σ β} {state next : σ} {result : α}
    (h : step state = .ok result next) : (step >>= rest) state = rest result next := by
  show EStateM.bind step rest state = rest result next
  unfold EStateM.bind
  rw [h]

/-- A step that fails is the last. -/
theorem bind_of_error {step : EStateM ε σ α} {rest : α → EStateM ε σ β} {state stopped : σ}
    {fault : ε} (h : step state = .error fault stopped) :
    (step >>= rest) state = .error fault stopped := by
  show EStateM.bind step rest state = .error fault stopped
  unfold EStateM.bind
  rw [h]

/-- What is done over a list of lists is done over each list in turn. -/
theorem forM_flatMap (list : List α) (f : α → List β) (act : β → EStateM ε σ PUnit) :
    forM (list.flatMap f) act = forM list (fun item => forM (f item) act) := by
  induction list with
  | nil => rfl
  | cons item rest ih => rw [List.flatMap_cons, List.forM_append, List.forM_cons, ih]

theorem forM_congr {list : List α} {act other : α → EStateM ε σ PUnit}
    (h : ∀ item ∈ list, act item = other item) : forM list act = forM list other := by
  induction list with
  | nil => rfl
  | cons item rest ih =>
    rw [List.forM_cons, List.forM_cons, h item List.mem_cons_self,
      ih (fun later hlater => h later (List.mem_cons_of_mem _ hlater))]

namespace Arena

variable {arena : Arena} {node root : Handle}

theorem walkChildren_eq (h : node ∈ arena) (visit : Act σ) (depth : Nat) :
    arena.walkChildren visit node depth
      = forM (arena.childrenOf node) (fun child => visit child (depth + 1)) := by
  obtain ⟨entry, hentry⟩ := exists_node? h
  rw [walkChildren_of_node? hentry, List.forM_eq_forM, childrenOf_of_node? hentry]

namespace IsForest

/-- With levels enough for all that can stand below a node, a walk goes through its whole tree. -/
theorem visitWithin_eq (hforest : arena.IsForest) (act : Act σ) {levels : Nat}
    (hmem : root ∈ arena) (hlevels : arena.size ≤ arena.level root + levels) (depth : Nat) :
    arena.visitWithin act levels root depth
      = forM ((arena.tree root).visits depth) (fun visit => act visit.1 visit.2) := by
  induction levels generalizing root depth with
  | zero => exact absurd (hforest.level_lt_size hmem) (Nat.not_lt.2 hlevels)
  | succ levels ih =>
    rw [hforest.visits_tree_eq hmem, List.forM_cons, forM_flatMap, visitWithin,
      walkChildren_eq hmem]
    refine congrArg (act root depth >>= ·) ?_
    funext _
    refine forM_congr (fun child hchild => ?_)
    show arena.visitWithin act levels child (depth + 1) = _
    refine ih (hforest.child_mem hchild) ?_ (depth + 1)
    rw [hforest.level_of_parent? (hforest.mem_childrenOf_iff.1 hchild)]
    omega

/-- **A walk does its act along the tree**, in pre-order and with the depths. -/
theorem visit_eq (hforest : arena.IsForest) (act : Act σ) (hmem : root ∈ arena) (depth : Nat) :
    arena.visit act root depth
      = forM ((arena.tree root).visits depth) (fun visit => act visit.1 visit.2) :=
  hforest.visitWithin_eq act hmem (by omega) depth

/-- **A walk over the children** does its act along the tree without the root. -/
theorem walkChildren_visit_eq (hforest : arena.IsForest) (act : Act σ) (hmem : root ∈ arena)
    (depth : Nat) :
    arena.walkChildren (arena.visit act) root depth
      = forM ((arena.tree root).visits depth).tail (fun visit => act visit.1 visit.2) := by
  rw [hforest.visits_tree_eq hmem, List.tail_cons, forM_flatMap, walkChildren_eq hmem]
  refine forM_congr (fun child hchild => ?_)
  show arena.visit act child (depth + 1) = _
  exact hforest.visit_eq act (hforest.child_mem hchild) (depth + 1)

end IsForest

end Arena

end SyntaxOutline
