import SyntaxOutline.Arena.Basic

/-!
# The way up

From every node a way leads up over the parents to the root of its tree. In a forest it ends after
at most as many nodes as the arena holds, since no node is met twice, and so that many steps are
allowed for.
-/

namespace SyntaxOutline

namespace Arena

/-- The way up from a handle over the parents, cut off after the given number of nodes. -/
def climb (arena : Arena) : Nat → Handle → List Handle
  | 0, _ => []
  | steps + 1, handle =>
    match (arena.node? handle).bind Node.parent with
    | some parent => handle :: arena.climb steps parent
    | none => [handle]

/-- **The ancestors of a node**, from the node itself up to its root. A handle that does not belong
to the arena has none. -/
def ancestors (arena : Arena) (handle : Handle) : List Handle :=
  if handle ∈ arena then arena.climb arena.size handle else []

/-- **The depth of a node**: how many parents stand above it. -/
def depth (arena : Arena) (handle : Handle) : Except Fault Nat :=
  (arena.node handle).map fun _ => (arena.ancestors handle).length - 1

theorem length_climb_le (arena : Arena) (steps : Nat) (handle : Handle) :
    (arena.climb steps handle).length ≤ steps := by
  induction steps generalizing handle with
  | zero => simp [climb]
  | succ steps ih =>
    unfold climb
    split
    · next parent _ => simpa using ih parent
    · simp

theorem length_ancestors_le (arena : Arena) (handle : Handle) :
    (arena.ancestors handle).length ≤ arena.size := by
  unfold ancestors
  split
  · exact arena.length_climb_le arena.size handle
  · exact Nat.zero_le _

theorem ancestors_of_not_mem {arena : Arena} {handle : Handle} (h : handle ∉ arena) :
    arena.ancestors handle = [] := if_neg h

/-- The way up starts with the node itself. -/
theorem head?_ancestors {arena : Arena} {handle : Handle} (h : handle ∈ arena) :
    (arena.ancestors handle).head? = some handle := by
  obtain ⟨steps, hsteps⟩ : ∃ steps, arena.size = steps + 1 :=
    Nat.exists_eq_succ_of_ne_zero (Nat.ne_zero_of_lt h.2)
  rw [ancestors, if_pos h, hsteps, climb]
  split <;> rfl

theorem ancestors_eq_nil_iff {arena : Arena} {handle : Handle} :
    arena.ancestors handle = [] ↔ handle ∉ arena := by
  refine ⟨fun hnil hmem => ?_, ancestors_of_not_mem⟩
  have hhead := head?_ancestors hmem
  rw [hnil] at hhead
  cases hhead

end Arena

end SyntaxOutline
