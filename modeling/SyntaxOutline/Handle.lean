/-!
# Handles

An arena hands out a **handle** for every node it holds. A handle is the tag of the arena together
with the position of the node, and it is a plain value: it may be kept, compared and passed to any
arena, and it is the arena's business to recognise its own. Handles are ordered by tag first, so the
handles of an arena lie together, and by position within one arena.
-/

namespace SyntaxOutline

/-- **A handle**: the tag of an arena and a position in it, whether or not a node stands there. -/
structure Handle where
  /-- The tag of the arena the handle speaks of. -/
  tag : Nat
  /-- The position of the node, counted from zero. -/
  index : Nat
  deriving DecidableEq

namespace Handle

/-- Handles are written by their position alone. -/
instance : ToString Handle := ⟨fun handle => "#" ++ handle.index.repr⟩

/-- By tag, and by position where the tags agree. -/
instance : Ord Handle := ⟨fun a b => (compare a.tag b.tag).then (compare a.index b.index)⟩

theorem compare_eq (a b : Handle) :
    compare a b = (compare a.tag b.tag).then (compare a.index b.index) := rfl

/-- Handles are equal as soon as neither comes first. -/
theorem compare_eq_eq_iff {a b : Handle} : compare a b = .eq ↔ a = b := by
  cases a; cases b
  simp [compare_eq, Ordering.then_eq_eq]

end Handle

end SyntaxOutline
