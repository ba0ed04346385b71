import SyntaxOutline.Proofs.Grafts
import SyntaxOutline.Proofs.MachineWalks

/-!
# Walks that are stopped

A walk is stopped by the fault of a visit. A visit that fails may lie at any
level, between siblings that were visited and others that were not, and each
level above has to pass the fault on without a further visit. What has been
met by then is a beginning of what the whole walk would have met.

The act to see this by keeps a record and refuses to go on when the record has
a given length (`tryUpTo`). The record alone does not show whether a visit was
made and refused once the limit was reached, for a refused visit leaves no
trace in it. Therefore the act notes besides each visit that is tried. Its
walk through a tree is a run over the list of nodes below the root, so that
the record is that list, cut off, and of the visits tried there is at most one
more (`cutOff`).

A walk may also begin so deep that the depths below are no words any more. A
checked walk then stops in front of the first visit that is too deep, provided
that the limit lets it get there, and one that wraps makes its visits at what
is left of the depths (`Machine.CutsOff`).
-/

namespace SyntaxOutline

/-- **What has become of a walk that may be refused a visit.** -/
structure Trial where
  /-- The visits on record. -/
  seen : Arena.Visits
  /-- All visits made, with the one that was refused. -/
  tried : Arena.Visits

/-- **The act that records so many visits** and refuses each further one with the given fault. -/
def tryUpTo (most : Nat) (refusal : Fault) : MachineAct Trial := fun node depth trial =>
  let tried := trial.tried ++ [(node, depth)]
  if most ≤ trial.seen.length then .error (.fault refusal) ⟨trial.seen, tried⟩
  else .ok () ⟨trial.seen ++ [(node, depth)], tried⟩

/-- **Visits of which so many are recorded**, with the given fault if there are more: the one that
comes next is tried as well, and it is the last. -/
def cutOff (most : Nat) (refusal : Fault) (visits : Arena.Visits) :
    EStateM.Result Stop Trial PUnit :=
  if visits.length ≤ most then .ok () ⟨visits, visits⟩
  else .error (.fault refusal) ⟨visits.take most, visits.take (most + 1)⟩

variable {machine : Machine} {most : Nat} {refusal : Fault}

theorem tryUpTo_of_lt {trial : Trial} (h : trial.seen.length < most) (visit : Handle × Nat) :
    tryUpTo most refusal visit.1 visit.2 trial
      = .ok () ⟨trial.seen ++ [visit], trial.tried ++ [visit]⟩ :=
  if_neg (Nat.not_le.2 h)

theorem tryUpTo_of_le {trial : Trial} (h : most ≤ trial.seen.length) (visit : Handle × Nat) :
    tryUpTo most refusal visit.1 visit.2 trial
      = .error (.fault refusal) ⟨trial.seen, trial.tried ++ [visit]⟩ :=
  if_pos h

/-- **A run over a list of visits records the list, cut off.** -/
theorem forM_tryUpTo {seen : Arena.Visits} (h : seen.length ≤ most) (visits : Arena.Visits) :
    forM visits (fun visit => tryUpTo most refusal visit.1 visit.2) ⟨seen, seen⟩
      = cutOff most refusal (seen ++ visits) := by
  induction visits generalizing seen with
  | nil =>
    rw [List.append_nil, cutOff, if_pos h]
    rfl
  | cons visit rest ih =>
    obtain hroom | hfull := Nat.lt_or_ge seen.length most
    · have hlength : (seen ++ [visit]).length ≤ most := by
        rw [List.length_append, List.length_singleton]
        omega
      rw [List.forM_cons, bind_of_ok (tryUpTo_of_lt (by exact hroom) visit), ih hlength,
        List.append_assoc, List.singleton_append]
    · have hlong : ¬ (seen ++ visit :: rest).length ≤ most := by
        rw [List.length_append, List.length_cons]
        omega
      have hmost : seen.length = most := Nat.le_antisymm h hfull
      have hlast : (seen ++ [visit]).length = most + 1 := by
        rw [List.length_append, List.length_singleton, hmost]
      have htried : (seen ++ visit :: rest).take (most + 1) = seen ++ [visit] := by
        rw [List.append_cons]
        exact List.take_left' hlast
      rw [List.forM_cons, bind_of_error (tryUpTo_of_le (by exact hfull) visit), cutOff,
        if_neg hlong, List.take_left' hmost, htried]

/-! ## On a machine -/

namespace Machine

/-- **What a walk comes to on a machine that records up to a limit**, if it would make the given
visits. -/
structure CutsOff (machine : Machine) (most : Nat) (refusal : Fault) (visits : Arena.Visits)
    (ending : EStateM.Result Stop Trial PUnit) : Prop where
  /-- Where all visits that are tried are at words, they are cut off. -/
  of_words : (∀ visit ∈ visits.take (most + 1), visit.2 < machine.words) →
    ending = cutOff most refusal visits
  /-- If one is not, a checked walk stops in front of it. -/
  of_checks : machine.checks = true → ∀ before visit after, visits = before ++ visit :: after →
    before.length ≤ most → (∀ earlier ∈ before, earlier.2 < machine.words) →
    machine.words ≤ visit.2 → ending = .error .overflow ⟨before, before⟩
  /-- A walk that wraps is cut off at what is left of the depths. -/
  of_wraps : machine.checks = false → ending = cutOff most refusal (visits.map machine.wrap)

/-- Only the visits up to the one that is refused decide what is cut off. -/
theorem forM_meet_tryUpTo_of_words {visits : Arena.Visits}
    (h : ∀ visit ∈ visits.take (most + 1), visit.2 < machine.words) :
    forM visits (machine.meet (tryUpTo most refusal)) ⟨[], []⟩ = cutOff most refusal visits := by
  have hfront : forM (visits.take (most + 1)) (machine.meet (tryUpTo most refusal)) ⟨[], []⟩
      = cutOff most refusal (visits.take (most + 1)) := by
    rw [forM_meet_of_lt _ h]
    exact forM_tryUpTo (Nat.zero_le most) _
  obtain hshort | hlong := Nat.lt_or_ge most visits.length
  · have hmore : ¬ (visits.take (most + 1)).length ≤ most := by
      rw [List.length_take]
      omega
    rw [cutOff, if_neg hmore, List.take_take, List.take_take, Nat.min_self,
      Nat.min_eq_left (Nat.le_succ most)] at hfront
    rw [← List.take_append_drop (most + 1) visits, List.forM_append, bind_of_error hfront,
      List.take_append_drop, cutOff, if_neg (Nat.not_le.2 hshort)]
  · rwa [List.take_of_length_le (Nat.le_succ_of_le hlong)] at hfront

/-- **A run over visits on a machine is cut off.** -/
theorem cutsOff_forM_meet (machine : Machine) (most : Nat) (refusal : Fault)
    (visits : Arena.Visits) :
    machine.CutsOff most refusal visits
      (forM visits (machine.meet (tryUpTo most refusal)) ⟨[], []⟩) where
  of_words := forM_meet_tryUpTo_of_words
  of_checks := by
    rintro hchecks before visit after rfl hlength hbefore hvisit
    have hwords : ∀ earlier ∈ before.take (most + 1), earlier.2 < machine.words :=
      fun earlier hearlier => hbefore earlier (List.mem_of_mem_take hearlier)
    refine forM_meet_of_checks hchecks _ ?_ hvisit
    rw [forM_meet_tryUpTo_of_words hwords, cutOff, if_pos hlength]
  of_wraps hwraps := by
    rw [forM_meet_of_wraps hwraps]
    exact forM_tryUpTo (Nat.zero_le most) _

/-- A record kept without noting what is tried is the same record. -/
theorem record_eq_viewed (most : Nat) (node : Handle) (depth : Nat) (trial : Trial) :
    (Arena.record (some most)).onMachine node depth trial.seen
      = viewed Trial.seen (tryUpTo most (.output "visit limit") node depth trial) := by
  obtain hroom | hfull := Nat.lt_or_ge trial.seen.length most
  · rw [tryUpTo_of_lt hroom (node, depth)]
    exact adaptExcept_of_ok (if_neg (Nat.not_le.2 hroom))
  · rw [tryUpTo_of_le hfull (node, depth)]
    exact adaptExcept_of_error (if_pos hfull)

end Machine

namespace Arena

variable {arena : Arena} {node : Handle}

namespace IsForest

/-- What stands below a node in the order of a walk, each with the depth at which it is met. -/
theorem visits_tail (hforest : arena.IsForest) (h : node ∈ arena) (depth : Nat) :
    (arena.tree node).preorder = node :: ((arena.tree node).visits depth).tail.map Prod.fst := by
  rw [← Tree.map_fst_visits depth, hforest.visits_tree_eq h]
  rfl

end IsForest

/-- **To look around is to walk and to tell of the record**, at all levels or at the first alone. -/
theorem survey_eq_ended (machine : Machine) (arena : Arena) (node : Handle) (depth most : Nat)
    (recurse : Bool) :
    machine.survey arena node depth recurse (some most)
      = Machine.ended (Machine.viewed Trial.seen (machine.walkChildren arena
          (if recurse then machine.visit arena (tryUpTo most (.output "visit limit"))
            else tryUpTo most (.output "visit limit")) node depth ⟨[], []⟩)) := by
  have hvisit : ∀ met deep (trial : Trial),
      (if recurse then machine.visit arena (record (some most)).onMachine
        else (record (some most)).onMachine) met deep trial.seen
        = Machine.viewed Trial.seen ((if recurse then
            machine.visit arena (tryUpTo most (.output "visit limit"))
            else tryUpTo most (.output "visit limit")) met deep trial) := by
    cases recurse with
    | false => exact Machine.record_eq_viewed most
    | true =>
      exact machine_visitWithin_viewed machine (Machine.record_eq_viewed most) (arena.size + 1)
  rw [← machine_walkChildren_viewed machine hvisit node depth ⟨[], []⟩]
  unfold Machine.survey
  dsimp only
  cases machine.walkChildren arena (if recurse then machine.visit arena
    (record (some most)).onMachine else (record (some most)).onMachine) node depth [] <;> rfl

/-- **A walk that is stopped has met a beginning of what it would have met.** Let an act record what
it meets, and refuse to go on with a fault of its own once so many visits are on record. Then a walk
over the children of a node, with that act at every level, records the first so many of the nodes
below, in pre-order and each as deep as it stands below the node. If there are no more of them the
walk ends well; otherwise it ends with that fault, and the visit refused is the last one made.
Without the act at the deeper levels it is the same with the children in their order. Should a node
that is to be visited stand too deep for a word, the program stops before, or the depth wraps. From
a handle that does not belong to the arena there is no walk, whatever the visits would do. -/
theorem walk_records_beginning (hreach : arena.Reachable) (machine : Machine) (node : Handle)
    (depth most : Nat) (refusal : Fault) :
    (node ∈ arena → ∃ (children : List Handle) (top : Nat) (met : Visits),
      arena.children node = .ok children ∧ arena.depth node = .ok top ∧
      (arena.tree node).preorder = node :: met.map Prod.fst ∧
      (∀ visit ∈ met, ∃ deep, arena.depth visit.1 = .ok deep ∧ top ≤ deep ∧
        visit.2 = depth + (deep - top)) ∧
      machine.CutsOff most refusal met
        (machine.walkChildren arena (machine.visit arena (tryUpTo most refusal)) node depth
          ⟨[], []⟩) ∧
      machine.CutsOff most refusal (children.map fun child => (child, depth + 1))
        (machine.walkChildren arena (tryUpTo most refusal) node depth ⟨[], []⟩)) ∧
    (node ∉ arena → ∀ (σ : Type) (visit : MachineAct σ) (state : σ),
      machine.walkChildren arena visit node depth state
        = .error (.fault (.unknownNode node)) state) ∧
    arena.IsPreorder (fun root => (arena.tree root).preorder) ∧
    machine.survey arena node depth true (some most)
      = Machine.ended (Machine.viewed Trial.seen (machine.walkChildren arena
          (machine.visit arena (tryUpTo most (.output "visit limit"))) node depth ⟨[], []⟩)) ∧
    machine.survey arena node depth false (some most)
      = Machine.ended (Machine.viewed Trial.seen (machine.walkChildren arena
          (tryUpTo most (.output "visit limit")) node depth ⟨[], []⟩)) := by
  have hforest := hreach.isForest
  refine ⟨fun h => ?_,
    fun h σ visit state => machine_walkChildren_of_not_mem machine h visit depth state,
    hforest.isPreorder, ?_, ?_⟩
  · refine ⟨_, _, ((arena.tree node).visits depth).tail, children_eq_ok h, depth_eq_ok h,
      hforest.visits_tail h depth, fun visit hvisit => ?_, ?_, ?_⟩
    · have hmet := List.mem_of_mem_tail hvisit
      rw [hforest.visits_tree h] at hmet
      obtain ⟨handle, hbelow, rfl⟩ := List.mem_map.1 hmet
      exact ⟨_, depth_eq_ok (hforest.mem_of_mem_preorder_tree h hbelow),
        hforest.level_le_of_mem_preorder_tree h hbelow, rfl⟩
    · rw [hforest.machine_walkChildren_visit_eq machine _ h]
      exact machine.cutsOff_forM_meet most refusal _
    · rw [machine_walkChildren_eq machine h]
      exact machine.cutsOff_forM_meet most refusal _
  · exact survey_eq_ended machine arena node depth most true
  · exact survey_eq_ended machine arena node depth most false

/-- Of the three nodes below the block, a record of two holds the statement and its literal. The
visit to the literal beside them is refused, and it is the third and last. In words of four bits a
walk that begins at depth fourteen does not get further than the statement. -/
theorem walk_records_beginning_stock :
    (∃ met : Visits, met.map Prod.fst = [⟨7, 1⟩, ⟨7, 0⟩, ⟨7, 2⟩] ∧
      nibble.CutsOff 2 (.io "enough") met (.error (.fault (.io "enough"))
        ⟨[(⟨7, 1⟩, 5), (⟨7, 0⟩, 6)], [(⟨7, 1⟩, 5), (⟨7, 0⟩, 6), (⟨7, 2⟩, 5)]⟩)) ∧
    ∃ met : Visits, met.map Prod.fst = [⟨7, 1⟩, ⟨7, 0⟩, ⟨7, 2⟩] ∧
      nibble.CutsOff 2 (.io "enough") met
        (.error .overflow ⟨[(⟨7, 1⟩, 15)], [(⟨7, 1⟩, 15)]⟩) := by
  have hreach : stock.Reachable := (Reachable.empty 7).applyAll _
  have horder : (stock.tree ⟨7, 3⟩).preorder = [⟨7, 3⟩, ⟨7, 1⟩, ⟨7, 0⟩, ⟨7, 2⟩] := by decide
  have hrefused : nibble.walkChildren stock (nibble.visit stock (tryUpTo 2 (.io "enough")))
      ⟨7, 3⟩ 4 ⟨[], []⟩ = .error (.fault (.io "enough"))
        ⟨[(⟨7, 1⟩, 5), (⟨7, 0⟩, 6)], [(⟨7, 1⟩, 5), (⟨7, 0⟩, 6), (⟨7, 2⟩, 5)]⟩ := by rfl
  have hstopped : nibble.walkChildren stock (nibble.visit stock (tryUpTo 2 (.io "enough")))
      ⟨7, 3⟩ 14 ⟨[], []⟩ = .error .overflow ⟨[(⟨7, 1⟩, 15)], [(⟨7, 1⟩, 15)]⟩ := by rfl
  constructor
  · obtain ⟨children, top, met, -, -, hmet, -, hwalk, -⟩ :=
      (walk_records_beginning hreach nibble ⟨7, 3⟩ 4 2 (.io "enough")).1 (by decide)
    exact ⟨met, (List.cons.inj (hmet.symm.trans horder)).2, hrefused ▸ hwalk⟩
  · obtain ⟨children, top, met, -, -, hmet, -, hwalk, -⟩ :=
      (walk_records_beginning hreach nibble ⟨7, 3⟩ 14 2 (.io "enough")).1 (by decide)
    exact ⟨met, (List.cons.inj (hmet.symm.trans horder)).2, hstopped ▸ hwalk⟩

end Arena

end SyntaxOutline
