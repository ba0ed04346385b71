import SyntaxOutline.Machine.Walk
import SyntaxOutline.Proofs.Traversal

/-!
# Walks on a machine follow the tree

On a machine the depth of a node is worked out step by step on the way down,
and each step may go wrong. It comes to the same if the walk is made along
the tree with depths as great as they like, and only at each visit the depth
is brought into a word (`Machine.meet`): whatever is lost on the way down
would be lost at the end as well, and where the program stops on the way
down, the first visit below is one that cannot be made
(`IsForest.machine_visit_eq`).

So there are three things that can happen on a walk. If all depths are words,
it is the walk that an arena makes (`IsForest.machine_visit_onMachine`). If
one is not, a checked walk stops in
front of the first such visit, and one that wraps goes on, at what is left of
the depths.
-/

namespace SyntaxOutline

variable {σ τ : Type}

theorem adaptExcept_of_ok {ε ε' α : Type} {step : EStateM ε σ α} {state next : σ} {result : α}
    {convert : ε → ε'} (h : step state = .ok result next) :
    step.adaptExcept convert state = .ok result next := by
  unfold EStateM.adaptExcept
  rw [h]

theorem adaptExcept_of_error {ε ε' α : Type} {step : EStateM ε σ α} {state stopped : σ} {fault : ε}
    {convert : ε → ε'} (h : step state = .error fault stopped) :
    step.adaptExcept convert state = .error (convert fault) stopped := by
  unfold EStateM.adaptExcept
  rw [h]

/-- It makes no difference whether faults are renamed in each step or at the end. -/
theorem forM_adaptExcept {ε ε' α : Type} (convert : ε → ε') (act : α → EStateM ε σ PUnit)
    (list : List α) :
    forM list (fun item => (act item).adaptExcept convert)
      = EStateM.adaptExcept convert (forM list act) := by
  induction list with
  | nil => rfl
  | cons item rest ih =>
    funext state
    rw [List.forM_cons, ih]
    cases hresult : act item state with
    | ok result next =>
      rw [bind_of_ok (adaptExcept_of_ok hresult)]
      unfold EStateM.adaptExcept
      rw [List.forM_cons, bind_of_ok hresult]
    | error fault stopped =>
      rw [bind_of_error (adaptExcept_of_error hresult)]
      unfold EStateM.adaptExcept
      rw [List.forM_cons, bind_of_error hresult]

namespace Machine

variable {machine : Machine} {arena : Arena} {node root : Handle} {visits : List (Handle × Nat)}

/-- **Makes a visit** at the word that its depth comes to. -/
def meet (machine : Machine) (act : MachineAct σ) (visit : Handle × Nat) : EStateM Stop σ Unit := do
  act visit.1 (← MonadExcept.ofExcept (machine.fit visit.2))

/-- A visit whose depth has been brought into a word. -/
def wrap (machine : Machine) (visit : Handle × Nat) : Handle × Nat :=
  (visit.1, visit.2 % machine.words)

theorem meet_of_fit {act : MachineAct σ} {visit : Handle × Nat} {word : Nat}
    (h : machine.fit visit.2 = .ok word) : machine.meet act visit = act visit.1 word := by
  rw [meet, h]
  rfl

theorem meet_of_lt (act : MachineAct σ) {visit : Handle × Nat} (h : visit.2 < machine.words) :
    machine.meet act visit = act visit.1 visit.2 :=
  meet_of_fit (fit_of_lt h)

theorem meet_of_wraps (hwraps : machine.checks = false) (act : MachineAct σ)
    (visit : Handle × Nat) :
    machine.meet act visit = act (machine.wrap visit).1 (machine.wrap visit).2 :=
  meet_of_fit (fit_of_wraps hwraps visit.2)

/-- A visit whose depth is too great stops a checked walk. -/
theorem meet_of_checks (hchecks : machine.checks = true) (act : MachineAct σ)
    {visit : Handle × Nat} (h : machine.words ≤ visit.2) (state : σ) :
    machine.meet act visit state = .error .overflow state := by
  rw [meet, fit_of_checks hchecks h]
  rfl

/-- From the depth of a node on it makes no difference when it is brought into a word. -/
theorem meet_add {word number : Nat} (h : machine.fit number = .ok word) (act : MachineAct σ)
    (node : Handle) (more : Nat) :
    machine.meet act (node, word + more) = machine.meet act (node, number + more) := by
  unfold meet
  rw [fit_add h]

/-! ## Runs over visits -/

/-- Visits whose depths are words are made at these depths. -/
theorem forM_meet_of_lt (act : MachineAct σ) (h : ∀ visit ∈ visits, visit.2 < machine.words) :
    forM visits (machine.meet act) = forM visits (fun visit => act visit.1 visit.2) :=
  forM_congr fun visit hvisit => meet_of_lt act (h visit hvisit)

/-- Where calculations wrap, all visits are made, at what is left of their depths. -/
theorem forM_meet_of_wraps (hwraps : machine.checks = false) (act : MachineAct σ)
    (visits : List (Handle × Nat)) :
    forM visits (machine.meet act)
      = forM (visits.map machine.wrap) (fun visit => act visit.1 visit.2) := by
  rw [List.forM_map]
  exact forM_congr fun visit _ => meet_of_wraps hwraps act visit

/-- Where they are checked, the program stops in front of the first visit that is too deep. -/
theorem forM_meet_of_checks (hchecks : machine.checks = true) (act : MachineAct σ)
    {before after : List (Handle × Nat)} {visit : Handle × Nat} {state next : σ}
    (hbefore : forM before (machine.meet act) state = .ok () next)
    (hvisit : machine.words ≤ visit.2) :
    forM (before ++ visit :: after) (machine.meet act) state = .error .overflow next := by
  rw [List.forM_append, bind_of_ok hbefore, List.forM_cons]
  exact bind_of_error (meet_of_checks hchecks act hvisit next)

/-- How a walk ends for one who sees only a part of the state. -/
def viewed (view : σ → τ) : EStateM.Result Stop σ PUnit → EStateM.Result Stop τ PUnit
  | .ok _ state => .ok () (view state)
  | .error stop state => .error stop (view state)

/-- What is told of a walk when it is over: how it ended, and in which state. -/
def ended : EStateM.Result Stop σ PUnit → Except Stop Unit × σ
  | .ok _ state => (.ok (), state)
  | .error stop state => (.error stop, state)

theorem ended_injective :
    Function.Injective (ended : EStateM.Result Stop σ PUnit → Except Stop Unit × σ) := by
  intro result other h
  cases result <;> cases other <;> cases h <;> rfl

/-- Two runs that look the same up to a step look the same after it, if the step does. -/
theorem bind_viewed {step rest : EStateM Stop σ PUnit} {step' rest' : EStateM Stop τ PUnit}
    {view : σ → τ} {state : σ} (hstep : step' (view state) = viewed view (step state))
    (hrest : ∀ next, rest' (view next) = viewed view (rest next)) :
    (step' >>= fun _ => rest') (view state)
      = viewed view ((step >>= fun _ => rest) state) := by
  cases hresult : step state with
  | ok result next =>
    rw [hresult] at hstep
    rw [bind_of_ok hstep, bind_of_ok hresult, hrest]
  | error stop stopped =>
    rw [hresult] at hstep
    rw [bind_of_error hstep, bind_of_error hresult]
    rfl

/-- **Two acts that do the same to what is seen** do so over all visits. -/
theorem forM_meet_viewed {act : MachineAct σ} {other : MachineAct τ} {view : σ → τ}
    (h : ∀ node depth state, other node depth (view state) = viewed view (act node depth state))
    (visits : List (Handle × Nat)) (state : σ) :
    forM visits (machine.meet other) (view state)
      = viewed view (forM visits (machine.meet act) state) := by
  induction visits generalizing state with
  | nil => rfl
  | cons visit rest ih =>
    rw [List.forM_cons, List.forM_cons]
    refine bind_viewed ?_ ih
    unfold meet
    cases machine.fit visit.2 with
    | ok word => exact h visit.1 word state
    | error stop => rfl

end Machine

namespace Arena

variable {arena : Arena} {node root : Handle}

/-- A walk over children meets them one level deeper. -/
theorem machine_walkChildren_eq (machine : Machine) (h : node ∈ arena) (visit : MachineAct σ)
    (depth : Nat) :
    machine.walkChildren arena visit node depth
      = forM ((arena.childrenOf node).map fun child => (child, depth + 1)) (machine.meet visit) := by
  rw [Machine.walkChildren, children_eq_ok h, List.forM_map]
  rfl

theorem machine_walkChildren_of_not_mem (machine : Machine) (h : node ∉ arena)
    (visit : MachineAct σ) (depth : Nat) (state : σ) :
    machine.walkChildren arena visit node depth state
      = .error (.fault (.unknownNode node)) state := by
  rw [Machine.walkChildren, children, node_of_not_mem h]
  rfl

section Viewed

variable {act : MachineAct σ} {other : MachineAct τ} {view : σ → τ}

/-- They do so on a walk over children, -/
theorem machine_walkChildren_viewed (machine : Machine)
    (h : ∀ node depth state,
      other node depth (view state) = Machine.viewed view (act node depth state))
    (node : Handle) (depth : Nat) (state : σ) :
    machine.walkChildren arena other node depth (view state)
      = Machine.viewed view (machine.walkChildren arena act node depth state) := by
  by_cases hmem : node ∈ arena
  · rw [machine_walkChildren_eq machine hmem, machine_walkChildren_eq machine hmem]
    exact Machine.forM_meet_viewed h _ state
  · rw [machine_walkChildren_of_not_mem machine hmem, machine_walkChildren_of_not_mem machine hmem]
    rfl

/-- and on one that goes on below them, on any number of levels. -/
theorem machine_visitWithin_viewed (machine : Machine)
    (h : ∀ node depth state,
      other node depth (view state) = Machine.viewed view (act node depth state))
    (levels : Nat) (node : Handle) (depth : Nat) (state : σ) :
    machine.visitWithin arena other levels node depth (view state)
      = Machine.viewed view (machine.visitWithin arena act levels node depth state) := by
  induction levels generalizing node depth state with
  | zero => rfl
  | succ levels ih =>
    exact Machine.bind_viewed (h node depth state) (machine_walkChildren_viewed machine ih node depth)

end Viewed

namespace IsForest

/-- With levels enough for all that can stand below a node, a walk meets its whole tree. -/
theorem meet_visitWithin_eq (hforest : arena.IsForest) (machine : Machine) (act : MachineAct σ)
    {levels : Nat} (hmem : root ∈ arena) (hlevels : arena.size ≤ arena.level root + levels)
    (depth : Nat) :
    machine.meet (machine.visitWithin arena act levels) (root, depth)
      = forM ((arena.tree root).visits depth) (machine.meet act) := by
  induction levels generalizing root depth with
  | zero => exact absurd (hforest.level_lt_size hmem) (Nat.not_lt.2 hlevels)
  | succ levels ih =>
    rw [hforest.visits_tree_eq hmem, List.forM_cons, forM_flatMap]
    cases hfit : machine.fit depth with
    | error stop =>
      rw [Machine.meet, Machine.meet, hfit]
      rfl
    | ok word =>
      rw [Machine.meet_of_fit hfit, Machine.meet_of_fit hfit, Machine.visitWithin,
        machine_walkChildren_eq machine hmem, List.forM_map]
      refine congrArg (act root word >>= ·) ?_
      funext _
      refine forM_congr (fun child hchild => ?_)
      rw [Machine.meet_add hfit]
      refine ih (hforest.child_mem hchild) ?_ (depth + 1)
      rw [hforest.level_of_parent? (hforest.mem_childrenOf_iff.1 hchild)]
      omega

/-- **A walk on a machine meets the nodes of the tree**, in pre-order and at the words that their
depths come to. -/
theorem machine_visit_eq (hforest : arena.IsForest) (machine : Machine) (act : MachineAct σ)
    (hmem : root ∈ arena) {depth : Nat} (hdepth : depth < machine.words) :
    machine.visit arena act root depth
      = forM ((arena.tree root).visits depth) (machine.meet act) := by
  have hlevels : arena.size ≤ arena.level root + (arena.size + 1) := by omega
  rw [← hforest.meet_visitWithin_eq machine act hmem hlevels depth, Machine.meet_of_fit
    (Machine.fit_of_lt hdepth), Machine.visit]

/-- **A walk over the children** meets the nodes of the tree without the root. -/
theorem machine_walkChildren_visit_eq (hforest : arena.IsForest) (machine : Machine)
    (act : MachineAct σ) (hmem : root ∈ arena) (depth : Nat) :
    machine.walkChildren arena (machine.visit arena act) root depth
      = forM ((arena.tree root).visits depth).tail (machine.meet act) := by
  rw [hforest.visits_tree_eq hmem, List.tail_cons, forM_flatMap,
    machine_walkChildren_eq machine hmem, List.forM_map]
  refine forM_congr (fun child hchild => ?_)
  exact hforest.meet_visitWithin_eq machine act (hforest.child_mem hchild) (by omega) (depth + 1)

/-- **With words for all its depths** a walk does on a machine what it does in the arena. -/
theorem machine_visit_onMachine (hforest : arena.IsForest) {machine : Machine} (act : Act σ)
    (hmem : root ∈ arena) {depth : Nat}
    (h : ∀ visit ∈ (arena.tree root).visits depth, visit.2 < machine.words) :
    machine.visit arena act.onMachine root depth
      = (arena.visit act root depth).adaptExcept .fault := by
  have hroot : (root, depth) ∈ (arena.tree root).visits depth := by
    rw [hforest.visits_tree_eq hmem]
    exact List.mem_cons_self
  rw [hforest.machine_visit_eq machine _ hmem (h _ hroot), Machine.forM_meet_of_lt _ h,
    hforest.visit_eq act hmem]
  exact forM_adaptExcept Stop.fault (fun visit : Handle × Nat => act visit.1 visit.2) _

end IsForest

end Arena

/-- A machine with words of four bits, all of its calculations checked. -/
def nibble : Machine := ⟨4, true, by decide⟩

/-- One with words of eight bits. -/
def octet : Machine := ⟨8, true, by decide⟩

end SyntaxOutline
