import Mathlib.Data.Set.Card
import Mathlib.Order.Bounds.Basic
import SyntaxOutline.Proofs.Printing

/-!
# The measures of a tree agree

How large a tree is can be found out in several ways. One can count with a
stack of nodes still to be looked at, keep a tally on a walk, or print the
tree and see by how much the lines of the printer have grown; and one can
leave the tree alone and ask every node of the arena whether the root is
among its ancestors. The first three follow the links down, each in its own
order, and the last one follows the links up.

They agree, since all of them come down to one list: the tree in pre-order.
It names what has the root among its ancestors, each node once. A tally is a
fold over this list (`IsForest.tally_eq_ok`), so that the two things it notes
besides, how deep the deepest node stands and how many nodes are decorated,
can be told from the nodes of the tree as well, whatever the order in which
they were met.
-/

namespace SyntaxOutline

namespace Arena

variable {arena : Arena} {handle root : Handle}

/-! ## The nodes of a tree as a set -/

/-- What a list names, each once, is as many as the list is long. -/
theorem ncard_eq_length {nodes : Set Handle} {order : List Handle} (hnodup : order.Nodup)
    (h : ∀ node, node ∈ nodes ↔ node ∈ order) : nodes.ncard = order.length := by
  have hset : nodes = (order.toFinset : Set Handle) := by
    ext node
    rw [List.coe_toFinset, h]
    exact Iff.rfl
  rw [hset, Set.ncard_coe_finset, List.toFinset_card_of_nodup hnodup]

/-- **The nodes of a tree that are chosen are counted along the tree.** -/
theorem IsForest.ncard_subtree_inter (hforest : arena.IsForest) (h : root ∈ arena)
    (choose : Handle → Bool) :
    {node | node ∈ arena.subtree root ∧ choose node = true}.ncard
      = (arena.tree root).preorder.countP choose := by
  rw [List.countP_eq_length_filter]
  refine ncard_eq_length ((hforest.nodup_preorder_tree h).filter choose) (fun node => ?_)
  rw [List.mem_filter, ← hforest.mem_subtree_iff h]
  exact Iff.rfl

theorem IsForest.finite_subtree (hforest : arena.IsForest) (h : root ∈ arena) :
    (arena.subtree root).Finite := by
  refine (arena.tree root).preorder.finite_toSet.subset (fun node hnode => ?_)
  exact (hforest.mem_subtree_iff h).1 hnode

theorem IsForest.ncard_subtree (hforest : arena.IsForest) (h : root ∈ arena) :
    (arena.subtree root).ncard = (arena.tree root).preorder.length :=
  ncard_eq_length (hforest.nodup_preorder_tree h) fun _ => hforest.mem_subtree_iff h

/-! ## The tally -/

theorem decoration_eq_ok (h : handle ∈ arena) :
    arena.decoration handle = .ok (arena.decoration? handle) := by
  obtain ⟨node, hnode⟩ := exists_node? h
  rw [decoration, node_eq_ok_iff.2 hnode, decoration?_of_node? hnode]
  rfl

/-- A tally that is kept on visits, as long as all of them find their node. -/
def tallied (arena : Arena) (tally : Tally) (visits : List (Handle × Nat)) : Tally where
  nodes := tally.nodes + visits.length
  maxDepth := (visits.map Prod.snd).foldl max tally.maxDepth
  decorated := tally.decorated + visits.countP (fun visit => (arena.decoration? visit.1).isSome)

/-- One more visit comes first. -/
theorem tallied_cons (arena : Arena) (tally : Tally) (visit : Handle × Nat)
    (rest : List (Handle × Nat)) :
    arena.tallied tally (visit :: rest) = arena.tallied (arena.tallied tally [visit]) rest := by
  unfold tallied
  rw [List.length_cons, List.countP_cons, List.countP_singleton, Nat.add_comm rest.length,
    Nat.add_comm (rest.countP _), ← Nat.add_assoc, ← Nat.add_assoc]
  rfl

theorem count_eq_ok (h : handle ∈ arena) (depth : Nat) (tally : Tally) :
    arena.count handle depth tally = .ok () (arena.tallied tally [(handle, depth)]) := by
  unfold count tallied
  rw [decoration_eq_ok h, List.countP_singleton]
  cases arena.decoration? handle <;> rfl

/-- **A tally is a fold over the visits** on which it is kept. -/
theorem forM_count {visits : List (Handle × Nat)} (h : ∀ visit ∈ visits, visit.1 ∈ arena)
    (tally : Tally) :
    forM visits (fun visit => arena.count visit.1 visit.2) tally
      = .ok () (arena.tallied tally visits) := by
  induction visits generalizing tally with
  | nil => rfl
  | cons visit rest ih =>
    have hvisit := count_eq_ok (h visit List.mem_cons_self) visit.2 tally
    rw [tallied_cons, List.forM_cons, bind_of_ok hvisit,
      ih (fun later hlater => h later (List.mem_cons_of_mem visit hlater))]

/-- **The tally of a tree** is kept on a walk through it. -/
theorem IsForest.tally_eq_ok (hforest : arena.IsForest) (h : root ∈ arena) :
    arena.tally root = .ok (arena.tallied .zero ((arena.tree root).visits 0)) := by
  rw [tally, hforest.visit_eq _ h, forM_count fun _ => hforest.mem_of_mem_visits h]

/-- The depth that a tally notes is that of the deepest node, counted from the root. -/
theorem IsForest.isGreatest_maxDepth (hforest : arena.IsForest) (h : root ∈ arena) :
    IsGreatest
      {below | ∃ node ∈ arena.subtree root, ∃ deep top,
        arena.depth node = .ok deep ∧ arena.depth root = .ok top ∧ deep = top + below}
      (arena.tallied .zero ((arena.tree root).visits 0)).maxDepth := by
  have hdepths : ((arena.tree root).visits 0).map Prod.snd
      = (arena.tree root).preorder.map (fun node => arena.level node - arena.level root) := by
    rw [hforest.visits_tree h, List.map_map]
    exact List.map_congr_left fun node _ => Nat.zero_add _
  have hmax : (0 :: ((arena.tree root).visits 0).map Prod.snd).max?
      = some (arena.tallied .zero ((arena.tree root).visits 0)).maxDepth := List.max?_cons'
  rw [hdepths, List.max?_eq_some_iff] at hmax
  obtain ⟨hattained, hbound⟩ := hmax
  refine ⟨?_, ?_⟩
  · obtain hzero | hbelow := List.mem_cons.1 hattained
    · -- no node stands below the root, which stands on its own level
      have hroot : root ∈ arena.subtree root := by
        rw [hforest.mem_subtree_iff h, hforest.preorder_tree_eq h]
        exact List.mem_cons_self
      refine ⟨root, hroot, _, _, depth_eq_ok h, depth_eq_ok h, ?_⟩
      rw [hzero, Nat.add_zero]
    · obtain ⟨node, hnode, hlevel⟩ := List.mem_map.1 hbelow
      have hle := hforest.level_le_of_mem_preorder_tree h hnode
      refine ⟨node, (hforest.mem_subtree_iff h).2 hnode, _, _,
        depth_eq_ok (hforest.mem_of_mem_preorder_tree h hnode), depth_eq_ok h, ?_⟩
      rw [← hlevel, Nat.add_sub_cancel' hle]
  · rintro below ⟨node, hnode, deep, top, hdeep, htop, hbelow⟩
    rw [hforest.mem_subtree_iff h] at hnode
    rw [depth_eq_ok (hforest.mem_of_mem_preorder_tree h hnode)] at hdeep
    rw [depth_eq_ok h] at htop
    have hlevel : arena.level node - arena.level root = below := by
      rw [Except.ok.inj hdeep, Except.ok.inj htop, hbelow, Nat.add_sub_cancel_left]
    exact hbound below (List.mem_cons_of_mem 0 (List.mem_map.2 ⟨node, hnode, hlevel⟩))

/-- The nodes that a tally notes as decorated are those of the tree that are. -/
theorem IsForest.ncard_decorated (hforest : arena.IsForest) (h : root ∈ arena) :
    {node | node ∈ arena.subtree root ∧
        ∃ target, arena.decoration node = .ok (some target)}.ncard
      = (arena.tallied .zero ((arena.tree root).visits 0)).decorated := by
  have hset : {node | node ∈ arena.subtree root ∧
        ∃ target, arena.decoration node = .ok (some target)}
      = {node | node ∈ arena.subtree root ∧ (arena.decoration? node).isSome = true} := by
    ext node
    refine and_congr_right (fun hnode => ?_)
    rw [hforest.mem_subtree_iff h] at hnode
    rw [decoration_eq_ok (hforest.mem_of_mem_preorder_tree h hnode), Option.isSome_iff_exists]
    exact exists_congr fun target => ⟨Except.ok.inj, congrArg Except.ok⟩
  rw [hset, hforest.ncard_subtree_inter h, ← Tree.map_fst_visits 0, List.countP_map]
  exact (Nat.zero_add _).symm

/-- **The weight of a tree**: how many nodes it has, how far below its root the deepest of them
stands, and how many of them are decorated. -/
structure Weighs (arena : Arena) (root : Handle) (weight : Tally) : Prop where
  size : arena.subtreeSize root = .ok weight.nodes
  height : IsGreatest
    {below | ∃ node ∈ arena.subtree root, ∃ deep top,
      arena.depth node = .ok deep ∧ arena.depth root = .ok top ∧ deep = top + below}
    weight.maxDepth
  decorated : {node | node ∈ arena.subtree root ∧
    ∃ target, arena.decoration node = .ok (some target)}.ncard = weight.decorated

/-- The weight of a tree as it is found out on a walk. -/
def weight (arena : Arena) (root : Handle) : Tally :=
  arena.tallied .zero ((arena.tree root).visits 0)

/-- A tree has the weight that is found out on a walk. -/
theorem IsForest.weighs (hforest : arena.IsForest) (h : root ∈ arena) :
    arena.Weighs root (arena.weight root) where
  size := by
    rw [hforest.subtreeSize_eq_ok h, ← Tree.length_visits 0]
    exact congrArg Except.ok (Nat.zero_add _).symm
  height := hforest.isGreatest_maxDepth h
  decorated := hforest.ncard_decorated h

end Arena

/-! ## The lines of a printer -/

namespace Printer

variable {arena : Arena} {root : Handle}

/-- A line that is written is counted. -/
theorem lines_of_writeLine {line : Line} {printer written : Printer}
    (h : writeLine line printer = .ok () written) : written.lines = printer.lines + 1 := by
  unfold writeLine writeText at h
  split at h
  · cases h
    rfl
  · cases h

theorem lines_of_writeLines {lines : List Line} {printer written : Printer}
    (h : writeLines lines printer = .ok () written) :
    written.lines = printer.lines + lines.length := by
  induction lines generalizing printer with
  | nil =>
    cases h
    rfl
  | cons line rest ih =>
    change (writeLine line >>= fun _ => writeLines rest) printer = _ at h
    cases hline : writeLine line printer with
    | error fault stopped =>
      rw [bind_of_error hline] at h
      cases h
    | ok _ next =>
      rw [bind_of_ok hline] at h
      rw [ih h, lines_of_writeLine hline, List.length_cons, Nat.add_assoc, Nat.add_comm 1]

/-- A flush counts no lines, and nor does its absence. -/
theorem lines_conclude_flush (flushes : Bool) (printer : Printer) :
    (conclude ((if flushes then flush else pure ()) printer)).2.lines = printer.lines := by
  cases flushes with
  | false => rfl
  | true =>
    rw [if_pos rfl, flush]
    split <;> rfl

/-- **A job whose lines are all taken has counted them**, whether or not its flush is refused. -/
theorem lines_run (hforest : arena.IsForest) (job : Job) (h : job.handle ∈ arena)
    (threshold : Threshold) {printer : Printer}
    (htaken : printer.sink.capacity = none ∨ (printer.run threshold arena job).outcome = .ok ()) :
    (printer.run threshold arena job).printer.lines
      = printer.lines + (job.ownLines arena).length := by
  have hrun := run_eq hforest job h threshold printer
  cases hwrite : writeLines (job.ownLines arena) printer with
  | ok _ written =>
    have hscript : job.script arena printer
        = (if job.flushes then flush else pure ()) written := bind_of_ok hwrite
    rw [hscript] at hrun
    rw [← lines_of_writeLines hwrite, ← lines_conclude_flush job.flushes written]
    exact congrArg (fun ended => ended.2.lines) hrun
  | error fault stopped =>
    -- only a sink that can fill up refuses a line, and then the job fails
    have hscript : job.script arena printer = .error fault stopped := bind_of_error hwrite
    rw [hscript] at hrun
    obtain hcapacity | houtcome := htaken
    · rw [writeLines_of_capacity_none hcapacity] at hwrite
      cases hwrite
    · cases houtcome.symm.trans (congrArg Prod.fst hrun)

end Printer

namespace Arena

variable {arena : Arena} {root : Handle}

/-- **All ways of measuring a tree agree.** For a node of a reachable arena, the count kept with a
stack, the tally kept on a walk, the lines that a printer gains by printing the tree, and the number
of nodes that have this one among their ancestors are the same. Whatever a walk does, it does it at
these nodes, once at each. And the tally notes how deep the deepest of them stands, and how many of
them are decorated. -/
theorem measures_agree (hreach : arena.Reachable) (h : root ∈ arena) :
    ∃ size tally,
      arena.subtreeSize root = .ok size ∧
      arena.tally root = .ok tally ∧
      tally.nodes = size ∧
      (∀ threshold (printer : Printer),
        printer.sink.capacity = none ∨
            (printer.printTree threshold arena root).outcome = .ok () →
          (printer.printTree threshold arena root).printer.lines = printer.lines + size) ∧
      (arena.subtree root).Finite ∧ (arena.subtree root).ncard = size ∧
      (∃ order : List Handle, order.Nodup ∧
        (∀ node, node ∈ order ↔ node ∈ arena.subtree root) ∧
        ∀ (σ : Type) (act : Act σ) (depth : Nat), arena.visit act root depth
          = forM order fun node => act node (depth + (arena.level node - arena.level root))) ∧
      IsGreatest
        {below | ∃ node ∈ arena.subtree root, ∃ deep top,
          arena.depth node = .ok deep ∧ arena.depth root = .ok top ∧ deep = top + below}
        tally.maxDepth ∧
      {node | node ∈ arena.subtree root ∧
        ∃ target, arena.decoration node = .ok (some target)}.ncard = tally.decorated := by
  have hforest := hreach.isForest
  have hlength : ((arena.tree root).visits 0).length = (arena.tree root).preorder.length := by
    rw [hforest.visits_tree h, List.length_map]
  refine ⟨_, _, hforest.subtreeSize_eq_ok h, hforest.tally_eq_ok h, ?_, ?_,
    hforest.finite_subtree h, hforest.ncard_subtree h, ?_, hforest.isGreatest_maxDepth h,
    hforest.ncard_decorated h⟩
  · show 0 + ((arena.tree root).visits 0).length = _
    rw [Nat.zero_add, hlength]
  · intro threshold printer htaken
    have hlines := Printer.lines_run hforest (.printTree root) h threshold htaken
    have hcount : (arena.treeLines root 0).length = (arena.tree root).preorder.length := by
      rw [treeLines, List.length_map, hlength]
    rw [← hcount]
    exact hlines
  · refine ⟨(arena.tree root).preorder, hforest.nodup_preorder_tree h,
      fun node => (hforest.mem_subtree_iff h).symm, fun σ act depth => ?_⟩
    rw [hforest.visit_eq act h, hforest.visits_tree h, List.forM_map]

theorem measures_agree_adorned :
    Printer.adorned.subtreeSize ⟨3, 2⟩ = .ok 3 ∧
      Printer.adorned.tally ⟨3, 2⟩ = .ok ⟨3, 1, 1⟩ ∧
      (Printer.adorned.subtree ⟨3, 2⟩).ncard = 3 := by
  have hreach : Printer.adorned.Reachable := (Reachable.empty 3).applyAll _
  have hsize : Printer.adorned.subtreeSize ⟨3, 2⟩ = .ok 3 := by rfl
  have htally : Printer.adorned.tally ⟨3, 2⟩ = .ok ⟨3, 1, 1⟩ := by rfl
  have hroot : (⟨3, 2⟩ : Handle) ∈ Printer.adorned := by decide
  obtain ⟨size, _, hsize', -, -, -, -, hcard, -⟩ := measures_agree hreach hroot
  refine ⟨hsize, htally, ?_⟩
  rw [hcard]
  exact Except.ok.inj (hsize'.symm.trans hsize)

end Arena

end SyntaxOutline
