import SyntaxOutline.Proofs.MachineWalks
import SyntaxOutline.Proofs.Shifts

/-!
# Tallies that are carried on

A tally can be carried on from one visit to the next. Each visit to a node of
the arena adds the same to it, whatever was tallied before: the weight of the
tree, which is how many nodes it has, how far it reaches down, and how many of
its nodes are decorated. Only of the reach it matters at which depth the visit
is made. As nothing else of a visit shows in the tally, visits may as well
come in another order.

So it is as long as the sums are words. If they are not, a program whose
calculations are checked stops at some point. In one where they wrap, it is
enough to bring the sums into words at the end (`Machine.keep`). The depth
then stays at the greatest word, if it gets beyond, because a tree has nodes
at every depth on the way down (`Tree.exists_visit_between`).

A visit to a stranger adds something, too. It counts the node and notes the
depth before it looks the node up, and then it is the last visit. So from the
tally alone, a stranger cannot be told from a leaf without a decoration that
was met last.
-/

namespace SyntaxOutline

/-- **A walk leaves out no depth** on its way down. -/
theorem Tree.exists_visit_between {α : Type} {tree : Tree α} {depth between : Nat}
    {visit : α × Nat} (h : visit ∈ tree.visits depth) (hfrom : depth ≤ between)
    (hto : between ≤ visit.2) : ∃ other ∈ tree.visits depth, other.2 = between := by
  induction tree generalizing depth with
  | node value branches ih =>
    rw [visits_node] at h ⊢
    obtain rfl | hdeeper := Nat.eq_or_lt_of_le hfrom
    · exact ⟨_, List.mem_cons_self, rfl⟩
    · obtain rfl | hbelow := List.mem_cons.1 h
      · exact absurd hto (Nat.not_le.2 hdeeper)
      · obtain ⟨branch, hbranch, hvisit⟩ := List.mem_flatMap.1 hbelow
        obtain ⟨other, hother, hsame⟩ := ih branch hbranch hvisit hdeeper
        exact ⟨other, List.mem_cons_of_mem _ (List.mem_flatMap.2 ⟨branch, hbranch, hother⟩), hsame⟩

namespace Tally

/-- **What visits make of a tally**, given the weight of each tree. -/
def carry (weight : Handle → Tally) (tally : Tally) (visits : List (Handle × Nat)) : Tally :=
  visits.foldl (fun kept visit => kept.join ((weight visit.1).deepen visit.2)) tally

/-- In which order the visits are made does not matter. -/
theorem carry_perm (weight : Handle → Tally) (tally : Tally)
    {visits other : List (Handle × Nat)} (h : visits.Perm other) :
    tally.carry weight visits = tally.carry weight other :=
  h.foldl_eq' (fun _ _ _ _ kept => kept.join_right_comm _ _) tally

/-- **Whether the three numbers of a tally are words.** -/
structure FitsIn (tally : Tally) (machine : Machine) : Prop where
  nodes_lt : tally.nodes < machine.words
  maxDepth_lt : tally.maxDepth < machine.words
  decorated_lt : tally.decorated < machine.words

instance (tally : Tally) (machine : Machine) : Decidable (tally.FitsIn machine) :=
  decidable_of_iff (tally.nodes < machine.words ∧ tally.maxDepth < machine.words ∧
      tally.decorated < machine.words)
    ⟨fun ⟨hnodes, hdepth, hdecorated⟩ => ⟨hnodes, hdepth, hdecorated⟩,
      fun h => ⟨h.nodes_lt, h.maxDepth_lt, h.decorated_lt⟩⟩

variable {machine : Machine} {tally other : Tally}

/-- What is only a part of it fits, too. -/
theorem FitsIn.of_join (h : (tally.join other).FitsIn machine) : tally.FitsIn machine where
  nodes_lt := Nat.lt_of_le_of_lt (Nat.le_add_right _ _) h.nodes_lt
  maxDepth_lt := Nat.lt_of_le_of_lt (Nat.le_max_left _ _) h.maxDepth_lt
  decorated_lt := Nat.lt_of_le_of_lt (Nat.le_add_right _ _) h.decorated_lt

end Tally

namespace Machine

variable {machine : Machine} {tally other : Tally}

/-- **What a machine keeps of a tally**: of the two counts what is left when they wrap, and no depth
beyond the greatest word. -/
def keep (machine : Machine) (tally : Tally) : Tally :=
  ⟨tally.nodes % machine.words, min tally.maxDepth (machine.words - 1),
    tally.decorated % machine.words⟩

theorem keep_of_fits (h : tally.FitsIn machine) : machine.keep tally = tally := by
  have hdepth := Nat.le_sub_one_of_lt h.maxDepth_lt
  rw [keep, Nat.mod_eq_of_lt h.nodes_lt, Nat.min_eq_left hdepth, Nat.mod_eq_of_lt h.decorated_lt]

theorem fits_keep (machine : Machine) (tally : Tally) : (machine.keep tally).FitsIn machine where
  nodes_lt := Nat.mod_lt _ machine.words_pos
  maxDepth_lt := Nat.lt_of_le_of_lt (Nat.min_le_right _ _) (Nat.sub_one_lt_of_lt machine.words_pos)
  decorated_lt := Nat.mod_lt _ machine.words_pos

/-- **It is enough to keep what fits at the end.** -/
theorem keep_join_keep (machine : Machine) (tally other : Tally) :
    machine.keep ((machine.keep tally).join other) = machine.keep (tally.join other) := by
  unfold keep Tally.join
  dsimp only
  rw [Nat.mod_add_mod, Nat.mod_add_mod]
  congr 1
  omega

end Machine

namespace Arena

variable {arena : Arena} {handle root : Handle} {machine : Machine}

/-! ## One node counted -/

theorem tallied_singleton (arena : Arena) (tally : Tally) (handle : Handle) (depth : Nat) :
    arena.tallied tally [(handle, depth)]
      = ⟨tally.nodes + 1, max tally.maxDepth depth,
          tally.decorated + if (arena.decoration? handle).isSome then 1 else 0⟩ := by
  rw [tallied, List.countP_singleton]
  rfl

/-- A machine counts a node as long as there are words for it. -/
theorem machine_count_of_fits (h : handle ∈ arena) {depth : Nat} {tally : Tally}
    (hfits : (arena.tallied tally [(handle, depth)]).FitsIn machine) :
    machine.count arena handle depth tally = .ok () (arena.tallied tally [(handle, depth)]) := by
  rw [tallied_singleton] at hfits ⊢
  rw [Machine.count, Machine.fit_of_lt hfits.nodes_lt]
  dsimp only
  rw [decoration_eq_ok h]
  cases hdecoration : arena.decoration? handle with
  | none => rfl
  | some target =>
    rw [hdecoration] at hfits
    have hdecorated : tally.decorated + 1 < machine.words := hfits.decorated_lt
    dsimp only
    rw [Machine.fit_of_lt hdecorated]
    rfl

/-- If there are none, and calculations are checked, the program stops. -/
theorem machine_count_of_checks (hchecks : machine.checks = true) (h : handle ∈ arena)
    {depth : Nat} {tally : Tally} (htally : tally.FitsIn machine) (hdepth : depth < machine.words)
    (hfits : ¬ (arena.tallied tally [(handle, depth)]).FitsIn machine) :
    ∃ stopped, machine.count arena handle depth tally = .error .overflow stopped := by
  rw [tallied_singleton] at hfits
  rw [Machine.count]
  obtain hnodes | hnodes := Nat.lt_or_ge (tally.nodes + 1) machine.words
  · rw [Machine.fit_of_lt hnodes]
    dsimp only
    rw [decoration_eq_ok h]
    have hdeepest : max tally.maxDepth depth < machine.words :=
      Nat.max_lt.2 ⟨htally.maxDepth_lt, hdepth⟩
    cases hdecoration : arena.decoration? handle with
    | none =>
      rw [hdecoration] at hfits
      exact absurd ⟨hnodes, hdeepest, htally.decorated_lt⟩ hfits
    | some target =>
      rw [hdecoration] at hfits
      have hdecorated : machine.words ≤ tally.decorated + 1 :=
        Nat.not_lt.1 fun hlt => hfits ⟨hnodes, hdeepest, hlt⟩
      dsimp only
      rw [Machine.fit_of_checks hchecks hdecorated]
      exact ⟨_, rfl⟩
  · rw [Machine.fit_of_checks hchecks hnodes]
    exact ⟨_, rfl⟩

/-- If they wrap, what fits is kept. -/
theorem machine_count_of_wraps (hwraps : machine.checks = false) (h : handle ∈ arena)
    {depth : Nat} {tally : Tally} (htally : tally.FitsIn machine) (hdepth : depth < machine.words) :
    machine.count arena handle depth tally
      = .ok () (machine.keep (arena.tallied tally [(handle, depth)])) := by
  have hdeepest : min (max tally.maxDepth depth) (machine.words - 1) = max tally.maxDepth depth :=
    Nat.min_eq_left (Nat.le_sub_one_of_lt (Nat.max_lt.2 ⟨htally.maxDepth_lt, hdepth⟩))
  rw [tallied_singleton, Machine.keep, hdeepest, Machine.count, Machine.fit_of_wraps hwraps]
  dsimp only
  rw [decoration_eq_ok h]
  cases hdecoration : arena.decoration? handle with
  | none =>
    have hdecorated : (tally.decorated + 0) % machine.words = tally.decorated :=
      Nat.mod_eq_of_lt htally.decorated_lt
    exact congrArg (fun decorated => EStateM.Result.ok () (Tally.mk _ _ decorated)) hdecorated.symm
  | some target =>
    dsimp only
    rw [Machine.fit_of_wraps hwraps]
    rfl

/-! ## A list of visits counted -/

variable {visits : List (Handle × Nat)}

/-- The depth of a tally is the greatest one noted, before or on a visit. -/
theorem maxDepth_tallied (arena : Arena) (tally : Tally) (visits : List (Handle × Nat)) :
    (arena.tallied tally visits).maxDepth ∈ tally.maxDepth :: visits.map Prod.snd ∧
      ∀ depth ∈ tally.maxDepth :: visits.map Prod.snd,
        depth ≤ (arena.tallied tally visits).maxDepth :=
  List.max?_eq_some_iff.1 List.max?_cons'

theorem le_maxDepth_tallied (arena : Arena) (tally : Tally) {visit : Handle × Nat}
    (h : visit ∈ visits) : visit.2 ≤ (arena.tallied tally visits).maxDepth :=
  (maxDepth_tallied arena tally visits).2 _ (List.mem_cons_of_mem _ (List.mem_map_of_mem h))

theorem forM_meet_count_of_fits (h : ∀ visit ∈ visits, visit.1 ∈ arena) {tally : Tally}
    (hfits : (arena.tallied tally visits).FitsIn machine) :
    forM visits (machine.meet (machine.count arena)) tally
      = .ok () (arena.tallied tally visits) := by
  induction visits generalizing tally with
  | nil => rfl
  | cons visit rest ih =>
    rw [tallied_cons] at hfits ⊢
    have hone : (arena.tallied tally [visit]).FitsIn machine := by
      rw [tallied_eq_join] at hfits
      exact hfits.of_join
    have hdepth : visit.2 < machine.words :=
      Nat.lt_of_le_of_lt (le_maxDepth_tallied arena tally List.mem_cons_self) hone.maxDepth_lt
    have hvisit : machine.meet (machine.count arena) visit tally
        = .ok () (arena.tallied tally [visit]) := by
      rw [Machine.meet_of_lt _ hdepth]
      exact machine_count_of_fits (h visit List.mem_cons_self) hone
    rw [List.forM_cons, bind_of_ok hvisit]
    exact ih (fun later hlater => h later (List.mem_cons_of_mem visit hlater)) hfits

theorem forM_meet_count_of_checks (hchecks : machine.checks = true)
    (h : ∀ visit ∈ visits, visit.1 ∈ arena) {tally : Tally} (htally : tally.FitsIn machine)
    (hfits : ¬ (arena.tallied tally visits).FitsIn machine) :
    ∃ stopped, forM visits (machine.meet (machine.count arena)) tally
      = .error .overflow stopped := by
  induction visits generalizing tally with
  | nil => exact absurd htally hfits
  | cons visit rest ih =>
    rw [List.forM_cons]
    obtain hdepth | hdepth := Nat.lt_or_ge visit.2 machine.words
    · have hmem := h visit List.mem_cons_self
      by_cases hone : (arena.tallied tally [visit]).FitsIn machine
      · have hvisit : machine.meet (machine.count arena) visit tally
            = .ok () (arena.tallied tally [visit]) := by
          rw [Machine.meet_of_lt _ hdepth]
          exact machine_count_of_fits hmem hone
        rw [tallied_cons] at hfits
        rw [bind_of_ok hvisit]
        exact ih (fun later hlater => h later (List.mem_cons_of_mem visit hlater)) hone hfits
      · obtain ⟨stopped, hstopped⟩ := machine_count_of_checks hchecks hmem htally hdepth hone
        refine ⟨stopped, bind_of_error ?_⟩
        rw [Machine.meet_of_lt _ hdepth, hstopped]
    · exact ⟨tally, bind_of_error (Machine.meet_of_checks hchecks _ hdepth tally)⟩

theorem forM_meet_count_of_wraps (hwraps : machine.checks = false)
    (h : ∀ visit ∈ visits, visit.1 ∈ arena) {tally : Tally} (htally : tally.FitsIn machine) :
    forM visits (machine.meet (machine.count arena)) tally
      = .ok () (machine.keep (arena.tallied tally (visits.map machine.wrap))) := by
  induction visits generalizing tally with
  | nil => exact congrArg (EStateM.Result.ok ()) (machine.keep_of_fits htally).symm
  | cons visit rest ih =>
    have hvisit : machine.meet (machine.count arena) visit tally
        = .ok () (machine.keep (arena.tallied tally [machine.wrap visit])) := by
      rw [Machine.meet_of_wraps hwraps]
      exact machine_count_of_wraps hwraps (h visit List.mem_cons_self) htally
        (Nat.mod_lt _ machine.words_pos)
    rw [List.forM_cons, bind_of_ok hvisit,
      ih (fun later hlater => h later (List.mem_cons_of_mem visit hlater)) (machine.fits_keep _),
      tallied_eq_join, machine.keep_join_keep, ← tallied_eq_join, List.map_cons,
      tallied_cons arena tally (machine.wrap visit) (rest.map machine.wrap)]

/-- **It makes no difference to the depth that is kept whether depths wrap**, if no visit is past the
greatest word without another one there. -/
theorem min_maxDepth_tallied_wrap (machine : Machine) (arena : Arena) (tally : Tally)
    (h : ∀ visit ∈ visits, machine.words ≤ visit.2 →
      ∃ other ∈ visits, other.2 = machine.words - 1) :
    min (arena.tallied tally (visits.map machine.wrap)).maxDepth (machine.words - 1)
      = min (arena.tallied tally visits).maxDepth (machine.words - 1) := by
  obtain hfits | hgreat := Nat.lt_or_ge (arena.tallied tally visits).maxDepth machine.words
  · -- all depths are words, and stay as they are
    have hsame : visits.map machine.wrap = visits := by
      refine (List.map_congr_left fun visit hvisit => ?_).trans (List.map_id _)
      have hword := Nat.lt_of_le_of_lt (le_maxDepth_tallied arena tally hvisit) hfits
      exact congrArg (Prod.mk visit.1) (Nat.mod_eq_of_lt hword)
    rw [hsame]
  · obtain ⟨-, hbound⟩ := maxDepth_tallied arena tally (visits.map machine.wrap)
    have hwrapped : machine.words - 1
        ≤ (arena.tallied tally (visits.map machine.wrap)).maxDepth := by
      obtain hbefore | hnoted := List.mem_cons.1 (maxDepth_tallied arena tally visits).1
      · have hstart := hbound _ List.mem_cons_self
        omega
      · obtain ⟨visit, hvisit, hdepth⟩ := List.mem_map.1 hnoted
        obtain ⟨other, hother, hgreatest⟩ := h visit hvisit (hdepth ▸ hgreat)
        have hword : (machine.wrap other).2 = machine.words - 1 := by
          have hwords := machine.words_pos
          rw [Machine.wrap, hgreatest, Nat.mod_eq_of_lt (by omega)]
        rw [← hword]
        exact le_maxDepth_tallied arena tally (List.mem_map_of_mem hother)
    rw [Nat.min_eq_right hwrapped, Nat.min_eq_right (by omega)]

/-- So it makes none to what is kept of the tally. -/
theorem keep_tallied_wrap (machine : Machine) (arena : Arena) (tally : Tally)
    (h : ∀ visit ∈ visits, machine.words ≤ visit.2 →
      ∃ other ∈ visits, other.2 = machine.words - 1) :
    machine.keep (arena.tallied tally (visits.map machine.wrap))
      = machine.keep (arena.tallied tally visits) := by
  have hnodes : (arena.tallied tally (visits.map machine.wrap)).nodes
      = (arena.tallied tally visits).nodes := by
    unfold tallied
    rw [List.length_map]
  have hdecorated : (arena.tallied tally (visits.map machine.wrap)).decorated
      = (arena.tallied tally visits).decorated := by
    unfold tallied
    rw [List.countP_map]
    rfl
  rw [Machine.keep, hnodes, min_maxDepth_tallied_wrap machine arena tally h, hdecorated,
    Machine.keep]

/-! ## Trees counted -/

/-- What is met on visits to trees, one tree after the other. -/
def metOn (arena : Arena) (visits : List (Handle × Nat)) : List (Handle × Nat) :=
  visits.flatMap fun visit => (arena.tree visit.1).visits visit.2

/-- **What is tallied on visits to trees are their weights.** -/
theorem tallied_metOn (arena : Arena) (tally : Tally) (visits : List (Handle × Nat)) :
    arena.tallied tally (arena.metOn visits) = tally.carry arena.weight visits := by
  induction visits generalizing tally with
  | nil => rfl
  | cons visit rest ih =>
    have hjoin : arena.tallied tally ((arena.tree visit.1).visits visit.2)
        = tally.join ((arena.weight visit.1).deepen visit.2) := by
      rw [tallied_eq_join, tallied_visits, weight]
    rw [metOn, List.flatMap_cons, ← tallied_tallied, hjoin]
    exact ih _

/-- A visit that is past the greatest word has one there on its way down. -/
theorem exists_greatest_metOn (h : ∀ visit ∈ visits, visit.2 < machine.words) :
    ∀ visit ∈ arena.metOn visits, machine.words ≤ visit.2 →
      ∃ other ∈ arena.metOn visits, other.2 = machine.words - 1 := by
  intro visit hvisit hdeep
  obtain ⟨top, htop, hmet⟩ := List.mem_flatMap.1 hvisit
  have hword := h top htop
  obtain ⟨other, hother, hgreatest⟩ :=
    Tree.exists_visit_between hmet (Nat.le_sub_one_of_lt hword) (by omega)
  exact ⟨other, List.mem_flatMap.2 ⟨top, htop, hother⟩, hgreatest⟩

/-- A run of visits to trees, each counted. -/
def countEach (machine : Machine) (arena : Arena) (visits : List (Handle × Nat)) :
    EStateM Stop Tally Unit :=
  forM visits fun visit => machine.visit arena (machine.count arena) visit.1 visit.2

theorem IsForest.countEach_eq (hforest : arena.IsForest) (machine : Machine)
    (h : ∀ visit ∈ visits, visit.1 ∈ arena) (hdepths : ∀ visit ∈ visits, visit.2 < machine.words) :
    countEach machine arena visits
      = forM (arena.metOn visits) (machine.meet (machine.count arena)) := by
  rw [countEach, metOn, forM_flatMap]
  exact forM_congr fun visit hvisit =>
    hforest.machine_visit_eq machine _ (h visit hvisit) (hdepths visit hvisit)

variable {tally kept : Tally}

theorem tallyEach_eq_ended (machine : Machine) (arena : Arena) (visits : List (Handle × Nat))
    (tally : Tally) :
    machine.tallyEach arena visits tally = Machine.ended (countEach machine arena visits tally) := by
  show Machine.tallyEach _ _ _ _ = Machine.ended
    (visits.forM (fun visit => machine.visit arena (machine.count arena) visit.1 visit.2) tally)
  unfold Machine.tallyEach
  dsimp only
  cases visits.forM (fun visit => machine.visit arena (machine.count arena) visit.1 visit.2) tally
    <;> rfl

theorem tallyEach_eq_ok_iff :
    machine.tallyEach arena visits tally = (.ok (), kept)
      ↔ countEach machine arena visits tally = .ok () kept := by
  rw [tallyEach_eq_ended]
  exact Machine.ended_injective.eq_iff' rfl

theorem tallyEach_eq_error_iff {stop : Stop} :
    machine.tallyEach arena visits tally = (.error stop, kept)
      ↔ countEach machine arena visits tally = .error stop kept := by
  rw [tallyEach_eq_ended]
  exact Machine.ended_injective.eq_iff' rfl

/-- Nothing comes of visits after one that has no end. -/
theorem tallyEach_append_of_error {stop : Stop} {before : List (Handle × Nat)}
    (h : machine.tallyEach arena before tally = (.error stop, kept))
    (later : List (Handle × Nat)) :
    machine.tallyEach arena (before ++ later) tally = (.error stop, kept) := by
  rw [tallyEach_eq_error_iff] at h ⊢
  rw [countEach, List.forM_append]
  exact bind_of_error h

/-- **A stranger is counted before it is found out**, and then the run is at its end. -/
theorem tallyEach_append_stranger {before : List (Handle × Nat)} (hstranger : handle ∉ arena)
    (h : machine.tallyEach arena before tally = (.ok (), kept)) (depth : Nat)
    (later : List (Handle × Nat)) :
    (∀ nodes, machine.fit (kept.nodes + 1) = .ok nodes →
      machine.tallyEach arena (before ++ (handle, depth) :: later) tally
        = (.error (.fault (.unknownNode handle)),
            ⟨nodes, max kept.maxDepth depth, kept.decorated⟩)) ∧
    (machine.fit (kept.nodes + 1) = .error .overflow →
      machine.tallyEach arena (before ++ (handle, depth) :: later) tally
        = (.error .overflow, kept)) := by
  rw [tallyEach_eq_ok_iff, countEach] at h
  have hvisit {stop : Stop} {last : Tally}
      (hcount : machine.count arena handle depth kept = .error stop last) :
      machine.tallyEach arena (before ++ (handle, depth) :: later) tally = (.error stop, last) := by
    rw [tallyEach_eq_error_iff, countEach, List.forM_append, bind_of_ok h, List.forM_cons]
    exact bind_of_error (bind_of_error hcount)
  refine ⟨fun nodes hnodes => hvisit ?_, fun hoverflow => hvisit ?_⟩
  · rw [Machine.count, hnodes, decoration, node_of_not_mem hstranger]
    rfl
  · rw [Machine.count, hoverflow]

/-- **Visits to trees add up their weights**, in the three ways there are. -/
theorem IsForest.tallyEach_eq (hforest : arena.IsForest)
    (h : ∀ visit ∈ visits, visit.1 ∈ arena ∧ visit.2 < machine.words)
    (htally : tally.FitsIn machine) :
    ((tally.carry arena.weight visits).FitsIn machine →
      machine.tallyEach arena visits tally = (.ok (), tally.carry arena.weight visits)) ∧
    (machine.checks = true → ¬ (tally.carry arena.weight visits).FitsIn machine →
      (machine.tallyEach arena visits tally).1 = .error .overflow) ∧
    (machine.checks = false →
      machine.tallyEach arena visits tally
        = (.ok (), machine.keep (tally.carry arena.weight visits))) := by
  have hmem : ∀ visit ∈ arena.metOn visits, visit.1 ∈ arena := by
    intro visit hvisit
    obtain ⟨top, htop, hmet⟩ := List.mem_flatMap.1 hvisit
    exact hforest.mem_of_mem_visits (h top htop).1 hmet
  have hrun := hforest.countEach_eq machine (fun visit hvisit => (h visit hvisit).1)
    fun visit hvisit => (h visit hvisit).2
  rw [← tallied_metOn]
  refine ⟨fun hfits => ?_, fun hchecks hfits => ?_, fun hwraps => ?_⟩
  · rw [tallyEach_eq_ok_iff, hrun]
    exact forM_meet_count_of_fits hmem hfits
  · obtain ⟨stopped, hstopped⟩ := forM_meet_count_of_checks hchecks hmem htally hfits
    rw [← hrun] at hstopped
    rw [tallyEach_eq_error_iff.2 hstopped]
  · rw [tallyEach_eq_ok_iff, hrun, forM_meet_count_of_wraps hwraps hmem htally,
      keep_tallied_wrap machine arena tally
        (exists_greatest_metOn fun visit hvisit => (h visit hvisit).2)]

/-- In which order trees are visited makes no difference to a tally that is there at the end. -/
theorem IsForest.tallyEach_perm (hforest : arena.IsForest) {other : List (Handle × Nat)}
    (hperm : visits.Perm other) (h : ∀ visit ∈ visits, visit.1 ∈ arena ∧ visit.2 < machine.words)
    (htally : tally.FitsIn machine) :
    (machine.tallyEach arena other tally).1 = (machine.tallyEach arena visits tally).1 ∧
      ((machine.tallyEach arena visits tally).1 = .ok () →
        machine.tallyEach arena other tally = machine.tallyEach arena visits tally) := by
  have hother : ∀ visit ∈ other, visit.1 ∈ arena ∧ visit.2 < machine.words :=
    fun visit hvisit => h visit (hperm.mem_iff.2 hvisit)
  obtain ⟨hfit, hstop, hwrap⟩ := hforest.tallyEach_eq h htally
  obtain ⟨hfit', hstop', hwrap'⟩ := hforest.tallyEach_eq hother htally
  rw [← Tally.carry_perm arena.weight tally hperm] at hfit' hstop' hwrap'
  by_cases hfits : (tally.carry arena.weight visits).FitsIn machine
  · rw [hfit hfits, hfit' hfits]
    exact ⟨rfl, fun _ => rfl⟩
  · cases hchecks : machine.checks with
    | true =>
      rw [hstop hchecks hfits, hstop' hchecks hfits]
      exact ⟨rfl, nofun⟩
    | false =>
      rw [hwrap hchecks, hwrap' hchecks]
      exact ⟨rfl, fun _ => rfl⟩

/-- The first stranger among the nodes to be visited, with the visits before it. -/
theorem exists_first_stranger (arena : Arena) (visits : List (Handle × Nat)) :
    (∀ visit ∈ visits, visit.1 ∈ arena) ∨
      ∃ before handle depth later, visits = before ++ (handle, depth) :: later ∧
        (∀ visit ∈ before, visit.1 ∈ arena) ∧ handle ∉ arena := by
  induction visits with
  | nil => exact Or.inl nofun
  | cons visit rest ih =>
    by_cases hvisit : visit.1 ∈ arena
    · obtain hrest | ⟨before, handle, depth, later, rfl, hbefore, hstranger⟩ := ih
      · exact Or.inl (List.forall_mem_cons.2 ⟨hvisit, hrest⟩)
      · exact Or.inr ⟨visit :: before, handle, depth, later, rfl,
          List.forall_mem_cons.2 ⟨hvisit, hbefore⟩, hstranger⟩
    · exact Or.inr ⟨[], visit.1, visit.2, rest, rfl, nofun, hvisit⟩

/-- **A tally that is carried on adds up the weights of the trees that are visited.** Begin with any
tally and go through any list of visits. As long as they are to nodes of the arena, each adds the
size of the tree and the number of its decorated nodes, and raises the depth to that of the visit
and the height of the tree together, if it is not as great already. Should one of the sums be too
great for a word, then the program stops, or else it keeps what is left of them. In whatever order
the visits come, the same happens, and a tally that is there at the end is the same. The first visit
to a stranger ends the run with the fault that names it; it has counted one node more, at the depth
of the visit, and nothing comes of those that would have followed. -/
theorem tallyEach_adds_up (hreach : arena.Reachable) :
    ∃ weight : Handle → Tally,
      (∀ node ∈ arena, arena.Weighs node (weight node)) ∧
      ∀ (machine : Machine) (tally : Tally),
        (tally.FitsIn machine → ∀ visits : List (Handle × Nat),
          (∀ visit ∈ visits, visit.1 ∈ arena ∧ visit.2 < machine.words) →
          ((tally.carry weight visits).FitsIn machine →
            machine.tallyEach arena visits tally = (.ok (), tally.carry weight visits)) ∧
          (machine.checks = true → ¬ (tally.carry weight visits).FitsIn machine →
            (machine.tallyEach arena visits tally).1 = .error .overflow) ∧
          (machine.checks = false →
            machine.tallyEach arena visits tally
              = (.ok (), machine.keep (tally.carry weight visits))) ∧
          ∀ other, visits.Perm other →
            (machine.tallyEach arena other tally).1 = (machine.tallyEach arena visits tally).1 ∧
            ((machine.tallyEach arena visits tally).1 = .ok () →
              machine.tallyEach arena other tally = machine.tallyEach arena visits tally)) ∧
        (∀ before kept handle depth later, handle ∉ arena →
          machine.tallyEach arena before tally = (.ok (), kept) →
          (∀ nodes, machine.fit (kept.nodes + 1) = .ok nodes →
            machine.tallyEach arena (before ++ (handle, depth) :: later) tally
              = (.error (.fault (.unknownNode handle)),
                  ⟨nodes, max kept.maxDepth depth, kept.decorated⟩)) ∧
          (machine.fit (kept.nodes + 1) = .error .overflow →
            machine.tallyEach arena (before ++ (handle, depth) :: later) tally
              = (.error .overflow, kept))) ∧
        (∀ before stop kept later, machine.tallyEach arena before tally = (.error stop, kept) →
          machine.tallyEach arena (before ++ later) tally = (.error stop, kept)) ∧
        ∀ visits : List (Handle × Nat), (∀ visit ∈ visits, visit.1 ∈ arena) ∨
          ∃ before handle depth later, visits = before ++ (handle, depth) :: later ∧
            (∀ visit ∈ before, visit.1 ∈ arena) ∧ handle ∉ arena := by
  have hforest := hreach.isForest
  refine ⟨arena.weight, fun node h => hforest.weighs h, fun machine tally =>
    ⟨fun htally visits h => ?_,
      fun before kept handle depth later hstranger hbefore =>
        tallyEach_append_stranger hstranger hbefore depth later,
      fun before stop kept later hbefore => tallyEach_append_of_error hbefore later,
      arena.exists_first_stranger⟩⟩
  obtain ⟨hfit, hstop, hwrap⟩ := hforest.tallyEach_eq h htally
  exact ⟨hfit, hstop, hwrap, fun other hperm => hforest.tallyEach_perm hperm h htally⟩

/-- In words of four bits a tally of ten nodes can be carried on over an identifier and an
assignment, which has three, in either order. One of thirteen cannot. -/
theorem tallyEach_adds_up_adorned :
    ∃ weight : Handle → Tally,
      (weight ⟨3, 2⟩).nodes = 3 ∧
      nibble.tallyEach Printer.adorned [(⟨3, 0⟩, 5), (⟨3, 2⟩, 1)] ⟨10, 3, 4⟩
        = nibble.tallyEach Printer.adorned [(⟨3, 2⟩, 1), (⟨3, 0⟩, 5)] ⟨10, 3, 4⟩ ∧
      (nibble.tallyEach Printer.adorned [(⟨3, 0⟩, 5), (⟨3, 2⟩, 1)] ⟨13, 3, 4⟩).1
        = .error .overflow ∧
      nibble.tallyEach Printer.adorned [(⟨3, 0⟩, 5), (⟨9, 0⟩, 7), (⟨3, 2⟩, 1)] ⟨10, 3, 4⟩
        = (.error (.fault (.unknownNode ⟨9, 0⟩)), ⟨12, 7, 5⟩) := by
  have hreach : Printer.adorned.Reachable := (Reachable.empty 3).applyAll _
  have hleaf : nibble.tallyEach Printer.adorned [(⟨3, 0⟩, 5)] ⟨10, 3, 4⟩
      = (.ok (), ⟨11, 5, 5⟩) := by rfl
  have hswapped : nibble.tallyEach Printer.adorned [(⟨3, 2⟩, 1), (⟨3, 0⟩, 5)] ⟨10, 3, 4⟩
      = (.ok (), ⟨14, 5, 6⟩) := by rfl
  obtain ⟨weight, hweighs, htallies⟩ := tallyEach_adds_up hreach
  have hsmall : (weight ⟨3, 0⟩).nodes = 1 :=
    (Except.ok.inj ((hweighs ⟨3, 0⟩ (by decide)).size.symm.trans (by rfl)))
  have hgreat : (weight ⟨3, 2⟩).nodes = 3 :=
    (Except.ok.inj ((hweighs ⟨3, 2⟩ (by decide)).size.symm.trans (by rfl)))
  refine ⟨weight, hgreat, ?_, ?_, ?_⟩
  · obtain ⟨-, -, -, hperm⟩ := (htallies nibble ⟨10, 3, 4⟩).1 (by decide)
      [(⟨3, 2⟩, 1), (⟨3, 0⟩, 5)] (by decide)
    exact (hperm _ (List.Perm.swap _ _ [])).2 (congrArg Prod.fst hswapped)
  · obtain ⟨-, hstop, -⟩ := (htallies nibble ⟨13, 3, 4⟩).1 (by decide)
      [(⟨3, 0⟩, 5), (⟨3, 2⟩, 1)] (by decide)
    refine hstop rfl fun hfits => ?_
    have hnodes : 13 + (weight ⟨3, 0⟩).nodes + (weight ⟨3, 2⟩).nodes < 16 := hfits.nodes_lt
    rw [hsmall, hgreat] at hnodes
    exact absurd hnodes (by decide)
  · exact ((htallies nibble ⟨10, 3, 4⟩).2.1 [(⟨3, 0⟩, 5)] ⟨11, 5, 5⟩ ⟨9, 0⟩ 7 [(⟨3, 2⟩, 1)]
      (by decide) hleaf).1 12 (by rfl)

end Arena

end SyntaxOutline
