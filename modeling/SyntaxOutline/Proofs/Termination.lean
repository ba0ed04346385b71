import Mathlib.Data.List.Chain
import SyntaxOutline.Proofs.Roots

/-!
# Termination

Whatever looks at more than one node of an arena follows the handles that are
stored there, and never checks whether it has been at a node before: the way
up goes from parent to parent, the count with a stack puts children on as long
as it finds some, and a walk calls itself for every child. On links at large
none of them need come to an end. The definitions that run are cut off for
that reason, after as many steps as the arena allows for.

So here they are told once more without any cut. A way up is a list in which
each node is followed by its parent, up to one that has none. For the count
and the walks there are **runs** (`Arena.CountRun`, `Arena.WalkRun`), which
follow the links for as long as there are any, and note how much they have
done. A run is there only if the recursion ends, and then it is the only one;
and where the cut leaves room for it, it computes what the definition with the
cut computes.

In a forest every one of them ends, and within the size of the arena. A way up
never meets a node twice, the trees of the nodes that wait on a stack have no
node in common, and a walk is nested no deeper than the levels below its root.
-/

namespace SyntaxOutline

namespace Arena

variable {arena : Arena} {node root : Handle} {nodes : List Handle} {σ : Type} {act : Act σ}

/-! ## Runs of a walk -/

/-- What a visit does before it turns to the children of its node: the act, and the look-up of the
children. -/
def enter (arena : Arena) (act : Act σ) (node : Handle) (depth : Nat) :
    EStateM Fault σ (List Handle) := do
  act node depth
  MonadExcept.ofExcept (arena.children node)

/-- The children that a visit turns to are those of its node. -/
theorem eq_childrenOf_of_enter {children : List Handle} {depth : Nat} {state met : σ}
    (hmem : node ∈ arena) (h : arena.enter act node depth state = .ok children met) :
    children = arena.childrenOf node := by
  rw [enter, children_eq_ok hmem] at h
  cases hact : act node depth state with
  | error fault stopped =>
    rw [bind_of_error hact] at h
    cases h
  | ok _ met =>
    rw [bind_of_ok hact] at h
    cases h
    rfl

/-- **A run of visits to nodes that stand at one depth**, from left to right, and of all visits that
they call for: how it ends, how many visits it makes, and how deep they are nested. -/
inductive WalkRun (arena : Arena) (act : Act σ) :
    List Handle → Nat → σ → EStateM.Result Fault σ PUnit → Nat → Nat → Prop
  | done (depth : Nat) (state : σ) : WalkRun arena act [] depth state (.ok () state) 0 0
  /-- A visit fails by itself. -/
  | fail {node : Handle} {rest : List Handle} {depth : Nat} {state stopped : σ} {fault : Fault}
    (h : arena.enter act node depth state = .error fault stopped) :
    WalkRun arena act (node :: rest) depth state (.error fault stopped) 1 1
  /-- A visit fails below its node. -/
  | stop {node : Handle} {rest children : List Handle} {depth visits nested : Nat}
    {state met stopped : σ} {fault : Fault}
    (h : arena.enter act node depth state = .ok children met)
    (hbelow : WalkRun arena act children (depth + 1) met (.error fault stopped) visits nested) :
    WalkRun arena act (node :: rest) depth state (.error fault stopped) (visits + 1) (nested + 1)
  /-- A visit comes to its end, and the others follow. -/
  | go {node : Handle} {rest children : List Handle} {depth visits nested more deeper : Nat}
    {state met next : σ} {ending : EStateM.Result Fault σ PUnit}
    (h : arena.enter act node depth state = .ok children met)
    (hbelow : WalkRun arena act children (depth + 1) met (.ok () next) visits nested)
    (hbeside : WalkRun arena act rest depth next ending more deeper) :
    WalkRun arena act (node :: rest) depth state ending (visits + 1 + more)
      (max (nested + 1) deeper)

/-- There is one run at most. -/
theorem WalkRun.unique {depth visits visits' nested nested' : Nat} {state : σ}
    {ending ending' : EStateM.Result Fault σ PUnit}
    (h : arena.WalkRun act nodes depth state ending visits nested)
    (h' : arena.WalkRun act nodes depth state ending' visits' nested') :
    ending' = ending ∧ visits' = visits ∧ nested' = nested := by
  induction h generalizing ending' visits' nested' with
  | done depth state =>
    cases h'
    exact ⟨rfl, rfl, rfl⟩
  | fail henter =>
    cases h' with
    | fail henter' =>
      cases henter.symm.trans henter'
      exact ⟨rfl, rfl, rfl⟩
    | stop henter' _ => cases henter.symm.trans henter'
    | go henter' _ _ => cases henter.symm.trans henter'
  | stop henter _ ih =>
    cases h' with
    | fail henter' => cases henter.symm.trans henter'
    | stop henter' hbelow =>
      cases henter.symm.trans henter'
      obtain ⟨hending, rfl, rfl⟩ := ih hbelow
      exact ⟨hending, rfl, rfl⟩
    | go henter' hbelow _ =>
      cases henter.symm.trans henter'
      cases (ih hbelow).1
  | go henter _ _ ih ihBeside =>
    cases h' with
    | fail henter' => cases henter.symm.trans henter'
    | stop henter' hbelow =>
      cases henter.symm.trans henter'
      cases (ih hbelow).1
    | go henter' hbelow hbeside =>
      cases henter.symm.trans henter'
      obtain ⟨hnext, rfl, rfl⟩ := ih hbelow
      cases hnext
      obtain ⟨hending, rfl, rfl⟩ := ihBeside hbeside
      exact ⟨hending, rfl, rfl⟩

/-- A visit enters its node and goes on with the children. -/
theorem visitWithin_succ (arena : Arena) (act : Act σ) (levels : Nat) (node : Handle)
    (depth : Nat) :
    arena.visitWithin act (levels + 1) node depth
      = arena.enter act node depth >>= fun children =>
          forM children fun child => arena.visitWithin act levels child (depth + 1) := by
  rw [enter, bind_assoc]
  rfl

/-- **Where there are levels for all its nesting, a run is carried out to its end.** -/
theorem WalkRun.forM_visitWithin_eq {depth visits nested : Nat} {state : σ}
    {ending : EStateM.Result Fault σ PUnit}
    (h : arena.WalkRun act nodes depth state ending visits nested) {levels : Nat}
    (hlevels : nested ≤ levels) :
    forM nodes (fun node => arena.visitWithin act levels node depth) state = ending := by
  induction h generalizing levels with
  | done depth state => rfl
  | fail henter =>
    obtain ⟨fewer, rfl⟩ := Nat.exists_eq_add_of_le' hlevels
    rw [List.forM_cons, visitWithin_succ, bind_assoc]
    exact bind_of_error henter
  | stop henter _ ih =>
    obtain ⟨fewer, rfl⟩ := Nat.exists_eq_succ_of_ne_zero (Nat.ne_zero_of_lt hlevels)
    rw [List.forM_cons, visitWithin_succ, bind_assoc, bind_of_ok henter]
    exact bind_of_error (ih (Nat.le_of_succ_le_succ hlevels))
  | go henter _ _ ih ihBeside =>
    obtain ⟨hbelow, hbeside⟩ := Nat.max_le.1 hlevels
    have hrest := ihBeside hbeside
    obtain ⟨fewer, rfl⟩ := Nat.exists_eq_succ_of_ne_zero (Nat.ne_zero_of_lt hbelow)
    rw [List.forM_cons, visitWithin_succ, bind_assoc, bind_of_ok henter,
      bind_of_ok (ih (Nat.le_of_succ_le_succ hbelow))]
    exact hrest

/-- **In a forest every walk has a run.** It visits no node twice, and is nested no deeper than
there can be levels below the nodes. -/
theorem IsForest.exists_walkRun (hforest : arena.IsForest) (act : Act σ) {room : Nat}
    (hnodes : ∀ node ∈ nodes, node ∈ arena ∧ arena.size ≤ arena.level node + room) (depth : Nat)
    (state : σ) :
    ∃ ending visits nested, arena.WalkRun act nodes depth state ending visits nested ∧
      visits ≤ (nodes.flatMap fun node => (arena.tree node).preorder).length ∧ nested ≤ room := by
  -- the induction is on how many nodes stand at and below the nodes
  induction htotal : (nodes.flatMap fun node => (arena.tree node).preorder).length
    using Nat.strongRecOn generalizing nodes room depth state with
  | _ total ih =>
    cases nodes with
    | nil => exact ⟨_, 0, 0, WalkRun.done depth state, Nat.zero_le _, Nat.zero_le _⟩
    | cons node rest =>
      obtain ⟨hmem, hroom⟩ := hnodes node List.mem_cons_self
      have hlevel := hforest.level_lt_size hmem
      rw [List.flatMap_cons, hforest.preorder_tree_eq hmem, List.length_append,
        List.length_cons] at htotal
      cases henter : arena.enter act node depth state with
      | error fault stopped =>
        exact ⟨_, 1, 1, WalkRun.fail henter, by omega, by omega⟩
      | ok children met =>
        cases eq_childrenOf_of_enter hmem henter
        have hchildren : ∀ child ∈ arena.childrenOf node,
            child ∈ arena ∧ arena.size ≤ arena.level child + (room - 1) := by
          intro child hchild
          have hdeeper := hforest.level_of_parent? (hforest.mem_childrenOf_iff.1 hchild)
          exact ⟨hforest.child_mem hchild, by omega⟩
        have hrest := fun other hother => hnodes other (List.mem_cons_of_mem node hother)
        obtain ⟨below, visits, nested, hbelow, hvisits, hnested⟩ :=
          ih _ (by omega) hchildren (depth + 1) met rfl
        cases below with
        | error fault stopped =>
          exact ⟨_, _, _, WalkRun.stop henter hbelow, by omega, by omega⟩
        | ok _ next =>
          obtain ⟨ending, more, deeper, hbeside, hmore, hdeeper⟩ :=
            ih _ (by omega) hrest depth next rfl
          exact ⟨ending, _, _, WalkRun.go henter hbelow hbeside, by omega, by omega⟩

/-- **A walk ends within a bound**: it has one run and no other, which ends as given, makes no more
visits than the bound says, and is nested no deeper. -/
def WalkEnds (arena : Arena) (act : Act σ) (nodes : List Handle) (depth : Nat) (state : σ)
    (ending : EStateM.Result Fault σ PUnit) (bound : Nat) : Prop :=
  ∃ visits ≤ bound, ∃ nested ≤ bound, ∀ ending' visits' nested',
    arena.WalkRun act nodes depth state ending' visits' nested'
      ↔ ending' = ending ∧ visits' = visits ∧ nested' = nested

theorem WalkRun.walkEnds {depth visits nested bound : Nat} {state : σ}
    {ending : EStateM.Result Fault σ PUnit}
    (h : arena.WalkRun act nodes depth state ending visits nested) (hvisits : visits ≤ bound)
    (hnested : nested ≤ bound) : arena.WalkEnds act nodes depth state ending bound := by
  refine ⟨visits, hvisits, nested, hnested, fun ending' visits' nested' => ⟨h.unique, ?_⟩⟩
  rintro ⟨rfl, rfl, rfl⟩
  exact h

/-- A visit to a node of a forest ends, with a visit for each node of the arena at most. -/
theorem IsForest.visit_ends (hforest : arena.IsForest) (act : Act σ) (h : node ∈ arena)
    (depth : Nat) (state : σ) :
    arena.WalkEnds act [node] depth state (arena.visit act node depth state) arena.size := by
  have hnodes : ∀ other ∈ [node], other ∈ arena ∧ arena.size ≤ arena.level other + arena.size := by
    intro other hother
    rw [List.mem_singleton.1 hother]
    exact ⟨h, Nat.le_add_left _ _⟩
  obtain ⟨ending, visits, nested, hrun, hvisits, hnested⟩ :=
    hforest.exists_walkRun act hnodes depth state
  have hending := hrun.forM_visitWithin_eq (Nat.le_succ_of_le hnested)
  rw [List.forM_cons, List.forM_nil, bind_pure_unit] at hending
  rw [List.flatMap_singleton] at hvisits
  rw [visit, hending]
  exact hrun.walkEnds (hvisits.trans (hforest.length_preorder_tree_le h)) hnested

/-- A walk over the children of a node ends as well, and leaves the node itself out. -/
theorem IsForest.walkChildren_ends (hforest : arena.IsForest) (act : Act σ) (h : node ∈ arena)
    (depth : Nat) (state : σ) :
    arena.WalkEnds act (arena.childrenOf node) (depth + 1) state
      (arena.walkChildren (arena.visit act) node depth state) (arena.size - 1) := by
  have hle := hforest.length_preorder_tree_le h
  rw [hforest.preorder_tree_eq h, List.length_cons] at hle
  have hnodes : ∀ child ∈ arena.childrenOf node,
      child ∈ arena ∧ arena.size ≤ arena.level child + (arena.size - 1) := by
    intro child hchild
    have hdeeper := hforest.level_of_parent? (hforest.mem_childrenOf_iff.1 hchild)
    exact ⟨hforest.child_mem hchild, by omega⟩
  obtain ⟨ending, visits, nested, hrun, hvisits, hnested⟩ :=
    hforest.exists_walkRun act hnodes (depth + 1) state
  rw [walkChildren_eq h]
  show arena.WalkEnds act (arena.childrenOf node) (depth + 1) state (forM (arena.childrenOf node)
    (fun child => arena.visitWithin act (arena.size + 1) child (depth + 1)) state) _
  rw [hrun.forM_visitWithin_eq (by omega)]
  exact hrun.walkEnds (by omega) hnested

/-! ## Runs of the count, and ways up -/

/-- There is one run at most. -/
theorem CountRun.unique {stack : List Handle} {counted turns turns' : Nat}
    {result result' : Except Fault Nat} (h : arena.CountRun stack counted result turns)
    (h' : arena.CountRun stack counted result' turns') : result' = result ∧ turns' = turns := by
  induction h generalizing turns' with
  | done counted =>
    cases h'
    exact ⟨rfl, rfl⟩
  | fail hchildren =>
    cases h' with
    | fail hchildren' =>
      cases hchildren.symm.trans hchildren'
      exact ⟨rfl, rfl⟩
    | turn hchildren' _ => cases hchildren.symm.trans hchildren'
  | turn hchildren _ ih =>
    cases h' with
    | fail hchildren' => cases hchildren.symm.trans hchildren'
    | turn hchildren' hrest =>
      cases hchildren.symm.trans hchildren'
      obtain ⟨hresult, rfl⟩ := ih hrest
      exact ⟨hresult, rfl⟩

/-- **A way up from a node**: it begins with the node, each node on it is followed by its parent, no
node is met twice, and the last one has no parent. -/
structure IsWayUp (arena : Arena) (node : Handle) (way : List Handle) : Prop where
  head?_eq : way.head? = some node
  isChain : way.IsChain fun below above => arena.parent below = .ok (some above)
  nodup : way.Nodup
  exists_last : ∃ top, way.getLast? = some top ∧ arena.parent top = .ok none

/-- **The ancestors of a node are its way up**, all of it. -/
theorem IsForest.isWayUp (hforest : arena.IsForest) (h : node ∈ arena) :
    arena.IsWayUp node (arena.ancestors node) where
  head?_eq := head?_ancestors h
  isChain := by
    induction node, h using hforest.induction_up with
    | root node hmem hparent =>
      rw [hforest.ancestors_of_root hmem hparent]
      exact List.isChain_singleton node
    | child child parent hparent ih =>
      rw [hforest.ancestors_of_parent? hparent, List.isChain_cons]
      refine ⟨fun above habove => ?_, ih⟩
      rw [head?_ancestors (hforest.parent_mem hparent)] at habove
      rw [parent_eq_ok (mem_of_parent? hparent), hparent, Option.mem_some.1 habove]
  nodup := hforest.nodup_ancestors node
  exists_last := by
    obtain ⟨root, hlast, hroot⟩ := hforest.exists_root h
    exact ⟨root, hlast, mem_roots_iff_parent.1 ((hroot root).2 rfl).1⟩

/-- **Whatever goes through a reachable arena comes to an end**, and does no more than there are
nodes. From every node the ancestors are the whole way up, and no later cut would leave more of it;
they are one more than the depth of the node, which is one less than the depth of its children. The
count with a stack has one run, and it takes no more turns than there are nodes. And so it is with
a walk, whatever it does at the nodes: it has one run, which makes no more visits than there are
nodes and is nested no deeper, if it begins with the node, and fewer if it begins with the
children. -/
theorem traversals_end (hreach : arena.Reachable) (h : node ∈ arena) :
    (arena.IsWayUp node (arena.ancestors node) ∧ (arena.ancestors node).length ≤ arena.size ∧
      ∀ more, arena.climb (arena.size + more) node = arena.ancestors node) ∧
    (∃ depth, arena.depth node = .ok depth ∧ (arena.ancestors node).length = depth + 1 ∧
      ∀ child, arena.parent child = .ok (some node) → arena.depth child = .ok (depth + 1)) ∧
    (∃ turns ≤ arena.size, ∀ result turns', arena.CountRun [node] 0 result turns'
      ↔ result = arena.subtreeSize node ∧ turns' = turns) ∧
    ∀ (σ : Type) (act : Act σ) (depth : Nat) (state : σ),
      arena.WalkEnds act [node] depth state (arena.visit act node depth state) arena.size ∧
      ∃ children, arena.children node = .ok children ∧
        arena.WalkEnds act children (depth + 1) state
          (arena.walkChildren (arena.visit act) node depth state) (arena.size - 1) := by
  have hforest := hreach.isForest
  refine ⟨⟨hforest.isWayUp h, arena.length_ancestors_le node, fun more => ?_⟩,
    ⟨_, depth_eq_ok h, hforest.length_ancestors h, fun child hchild => ?_⟩,
    ⟨_, hforest.length_preorder_tree_le h, fun result turns' => ?_⟩, fun σ act depth state => ?_⟩
  · rw [hforest.climb_size_add h, ancestors, if_pos h]
  · have hmem : child ∈ arena := by
      by_contra hstranger
      rw [Arena.parent, node_of_not_mem hstranger] at hchild
      cases hchild
    rw [parent_eq_ok hmem] at hchild
    rw [depth_eq_ok hmem, hforest.level_of_parent? (Except.ok.inj hchild)]
  · have hrun := hforest.countRun_tree h
    rw [hforest.subtreeSize_eq_ok h]
    refine ⟨hrun.unique, ?_⟩
    rintro ⟨rfl, rfl⟩
    exact hrun
  · exact ⟨hforest.visit_ends act h depth state, _, children_eq_ok h,
      hforest.walkChildren_ends act h depth state⟩

/-- In an arena of three nodes, an outline is written to a sink that has room for less than two of
its three lines. -/
theorem traversals_end_adorned :
    Printer.adorned.IsWayUp ⟨3, 0⟩ [⟨3, 0⟩, ⟨3, 2⟩] ∧
      (∃ turns ≤ 3, Printer.adorned.CountRun [⟨3, 2⟩] 0 (.ok 3) turns) ∧
      Printer.adorned.WalkEnds (Printer.emitOwn Printer.adorned) [⟨3, 2⟩] 0
        (Printer.start (.bounded 40 Sink.full))
        (Printer.visit Printer.adorned ⟨3, 2⟩ 0 (Printer.start (.bounded 40 Sink.full))) 3 := by
  have hreach : Printer.adorned.Reachable := (Reachable.empty 3).applyAll _
  have hway : Printer.adorned.ancestors ⟨3, 0⟩ = [⟨3, 0⟩, ⟨3, 2⟩] := by decide
  have hsize : Printer.adorned.subtreeSize ⟨3, 2⟩ = .ok 3 := by rfl
  obtain ⟨⟨hup, -⟩, -⟩ := traversals_end hreach (show (⟨3, 0⟩ : Handle) ∈ Printer.adorned by decide)
  obtain ⟨-, -, ⟨turns, hturns, hcount⟩, hwalk⟩ :=
    traversals_end hreach (show (⟨3, 2⟩ : Handle) ∈ Printer.adorned by decide)
  rw [hway] at hup
  rw [hsize] at hcount
  exact ⟨hup, ⟨turns, hturns, (hcount _ _).2 ⟨rfl, rfl⟩⟩, (hwalk Printer _ 0 _).1⟩

end Arena

end SyntaxOutline
