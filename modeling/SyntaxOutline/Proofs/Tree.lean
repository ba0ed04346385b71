import Mathlib.Data.List.Basic

/-!
# Ordered trees

What hangs below a node of an arena is an **ordered tree**: a value, and a
list of trees below it. A tree is walked in pre-order, a node before what is
below it and the branches from left to right, and a walk may note how deep it
stands at each node (`Tree.visits`) or not (`Tree.preorder`).

A walk that notes its depths forgets nothing: two trees that are walked alike
are the same tree (`Tree.visits_inj`). The reason is that a branch ends where
the depth falls back to that of its root, or below; so from a walk one can
tell where each branch ends, and the argument runs over a list of branches
with whatever is walked after them.
-/

namespace SyntaxOutline

/-- **An ordered tree** of values. -/
inductive Tree (α : Type) where
  | node (value : α) (branches : List (Tree α))

namespace Tree

variable {α β : Type}

/-- Induction over a tree: from its branches to the tree. -/
@[elab_as_elim, induction_eliminator]
theorem induct {motive : Tree α → Prop}
    (node : ∀ value branches, (∀ branch ∈ branches, motive branch) →
      motive (.node value branches)) : ∀ tree, motive tree
  | .node value branches => node value branches (fun branch _ => induct node branch)

/-- The value at the root. -/
def value : Tree α → α
  | node value _ => value

mutual

/-- **The values in pre-order.** -/
def preorder : Tree α → List α
  | node value branches => value :: preorderEach branches

/-- The values of several trees, one tree after the other. -/
def preorderEach : List (Tree α) → List α
  | [] => []
  | branch :: rest => preorder branch ++ preorderEach rest

end

mutual

/-- **The values in pre-order, each with its depth**, where the root stands at the given one. -/
def visits (depth : Nat) : Tree α → List (α × Nat)
  | node value branches => (value, depth) :: visitsEach (depth + 1) branches

/-- The same of several trees whose roots stand at one depth. -/
def visitsEach (depth : Nat) : List (Tree α) → List (α × Nat)
  | [] => []
  | branch :: rest => visits depth branch ++ visitsEach depth rest

end

/-- The tree with a function applied to every value. -/
def map (f : α → β) : Tree α → Tree β
  | node value branches => node (f value) (branches.map (map f))

theorem preorderEach_eq (branches : List (Tree α)) :
    preorderEach branches = branches.flatMap preorder := by
  induction branches with
  | nil => rfl
  | cons branch rest ih => rw [preorderEach, ih, List.flatMap_cons]

@[simp] theorem preorder_node (value : α) (branches : List (Tree α)) :
    (node value branches).preorder = value :: branches.flatMap preorder := by
  rw [preorder, preorderEach_eq]

theorem visitsEach_eq (depth : Nat) (branches : List (Tree α)) :
    visitsEach depth branches = branches.flatMap (visits depth) := by
  induction branches with
  | nil => rfl
  | cons branch rest ih => rw [visitsEach, ih, List.flatMap_cons]

@[simp] theorem visits_node (depth : Nat) (value : α) (branches : List (Tree α)) :
    (node value branches).visits depth
      = (value, depth) :: branches.flatMap (visits (depth + 1)) := by
  rw [visits, visitsEach_eq]

@[simp] theorem map_node (f : α → β) (value : α) (branches : List (Tree α)) :
    (node value branches).map f = node (f value) (branches.map (map f)) := by
  rw [map]

@[simp] theorem value_map (f : α → β) (tree : Tree α) : (tree.map f).value = f tree.value := by
  cases tree
  rw [map_node]
  rfl

/-- Without the depths a walk is the pre-order. -/
theorem map_fst_visits (depth : Nat) (tree : Tree α) :
    (tree.visits depth).map Prod.fst = tree.preorder := by
  induction tree generalizing depth with
  | node value branches ih =>
    rw [visits_node, preorder_node, List.map_cons, List.map_flatMap]
    exact congrArg (value :: ·) (List.flatMap_congr (fun branch h => ih branch h (depth + 1)))

theorem length_visits (depth : Nat) (tree : Tree α) :
    (tree.visits depth).length = tree.preorder.length := by
  rw [← map_fst_visits depth, List.length_map]

/-- Where a walk holds the walk through another tree, so does the pre-order. -/
theorem preorder_eq_of_visits_eq {tree inner : Tree α} {depth deeper : Nat}
    {before after : List (α × Nat)}
    (h : tree.visits depth = before ++ inner.visits deeper ++ after) :
    tree.preorder = before.map Prod.fst ++ inner.preorder ++ after.map Prod.fst := by
  rw [← map_fst_visits depth, h, List.map_append, List.map_append, map_fst_visits]

/-- A walk that begins deeper is the same walk, as much deeper at each node. -/
theorem visits_add (levels depth : Nat) (tree : Tree α) :
    tree.visits (levels + depth) = (tree.visits depth).map (Prod.map id (levels + ·)) := by
  induction tree generalizing depth with
  | node value branches ih =>
    rw [visits_node, visits_node, List.map_cons, List.map_flatMap]
    exact congrArg ((value, levels + depth) :: ·)
      (List.flatMap_congr (fun branch h => ih branch h (depth + 1)))

/-- What a walk meets stands in the tree. -/
theorem mem_preorder_of_mem_visits {depth : Nat} {tree : Tree α} {visit : α × Nat}
    (h : visit ∈ tree.visits depth) : visit.1 ∈ tree.preorder := by
  rw [← map_fst_visits depth]
  exact List.mem_map_of_mem h

theorem preorder_map (f : α → β) (tree : Tree α) :
    (tree.map f).preorder = tree.preorder.map f := by
  induction tree with
  | node value branches ih =>
    rw [map_node, preorder_node, preorder_node, List.map_cons, List.flatMap_map, List.map_flatMap]
    exact congrArg (f value :: ·) (List.flatMap_congr ih)

theorem visits_map (f : α → β) (depth : Nat) (tree : Tree α) :
    (tree.map f).visits depth = (tree.visits depth).map (Prod.map f id) := by
  induction tree generalizing depth with
  | node value branches ih =>
    rw [map_node, visits_node, visits_node, List.map_cons, List.flatMap_map, List.map_flatMap]
    exact congrArg ((f value, depth) :: ·)
      (List.flatMap_congr (fun branch h => ih branch h (depth + 1)))

theorem map_map {γ : Type} (g : β → γ) (f : α → β) (tree : Tree α) :
    (tree.map f).map g = tree.map (g ∘ f) := by
  induction tree with
  | node value branches ih =>
    rw [map_node, map_node, map_node, List.map_map]
    exact congrArg (node (g (f value))) (List.map_congr_left ih)

/-- Only the values in a tree matter to what a function makes of it. -/
theorem map_congr {f g : α → β} {tree : Tree α} (h : ∀ value ∈ tree.preorder, f value = g value) :
    tree.map f = tree.map g := by
  induction tree with
  | node value branches ih =>
    rw [preorder_node] at h
    rw [map_node, map_node, h value List.mem_cons_self]
    refine congrArg (node (g value)) (List.map_congr_left (fun branch hbranch => ?_))
    refine ih branch hbranch (fun other hother => h other (List.mem_cons_of_mem _ ?_))
    exact List.mem_flatMap.2 ⟨branch, hbranch, hother⟩

theorem map_id (tree : Tree α) : tree.map id = tree := by
  induction tree with
  | node value branches ih =>
    rw [map_node, List.map_congr_left ih]
    exact congrArg (node value) branches.map_id

/-! ## A walk determines the tree -/

/-- What is walked next does not stand at the given depth or deeper, so it belongs to none of the
branches there. -/
def Above (depth : Nat) (rest : List (α × Nat)) : Prop :=
  ∀ visit ∈ rest.head?, visit.2 < depth

theorem above_flatMap_append {depth : Nat} {branches : List (Tree α)} {rest : List (α × Nat)}
    (h : Above depth rest) : Above (depth + 1) (branches.flatMap (visits depth) ++ rest) := by
  cases branches with
  | nil => exact fun visit hvisit => Nat.lt_succ_of_lt (h visit hvisit)
  | cons branch others =>
    obtain ⟨value, below⟩ := branch
    rw [List.flatMap_cons, visits_node]
    rintro _ ⟨⟩
    exact Nat.lt_succ_self depth

/-- **Branches and what is walked after them can be told apart**, as long as that is not as deep as
the branches. -/
theorem flatMap_visits_append_inj {depth : Nat} {branches others : List (Tree α)}
    {rest otherRest : List (α × Nat)} (hrest : Above depth rest)
    (hother : Above depth otherRest)
    (h : branches.flatMap (visits depth) ++ rest = others.flatMap (visits depth) ++ otherRest) :
    branches = others ∧ rest = otherRest := by
  -- the induction is on how much is walked: the branches of the first branch come first, then the
  -- other branches beside it
  induction hlength : (branches.flatMap (visits depth)).length using Nat.strongRecOn
    generalizing depth branches others rest otherRest with
  | _ length ih =>
    match branches, others with
    | [], [] => exact ⟨rfl, h⟩
    | [], .node value below :: others =>
      rw [List.flatMap_nil, List.nil_append, List.flatMap_cons, visits_node] at h
      rw [h] at hrest
      exact absurd (hrest (value, depth) rfl) (Nat.lt_irrefl depth)
    | .node value below :: branches, [] =>
      rw [List.flatMap_nil, List.nil_append, List.flatMap_cons, visits_node] at h
      rw [← h] at hother
      exact absurd (hother (value, depth) rfl) (Nat.lt_irrefl depth)
    | .node value below :: branches, .node value' below' :: others =>
      simp only [List.flatMap_cons, visits_node, List.cons_append, List.append_assoc,
        List.cons.injEq, Prod.mk.injEq, and_true] at h
      simp only [List.flatMap_cons, visits_node, List.length_append, List.length_cons] at hlength
      obtain ⟨rfl, hbelow⟩ := h
      obtain ⟨rfl, hbeside⟩ := ih _ (by omega) (above_flatMap_append hrest)
        (above_flatMap_append hother) hbelow rfl
      obtain ⟨rfl, hafter⟩ := ih _ (by omega) hrest hother hbeside rfl
      exact ⟨rfl, hafter⟩

/-- **Trees that are walked alike are equal.** -/
theorem visits_inj {depth : Nat} {tree other : Tree α}
    (h : tree.visits depth = other.visits depth) : tree = other := by
  have hnone : Above depth ([] : List (α × Nat)) := nofun
  have hlists : [tree] = [other] ∧ ([] : List (α × Nat)) = [] :=
    flatMap_visits_append_inj hnone hnone
      (by simpa only [List.flatMap_cons, List.flatMap_nil, List.append_nil] using h)
  exact (List.cons.inj hlists.1).1

end Tree

end SyntaxOutline
