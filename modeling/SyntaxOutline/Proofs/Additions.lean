import Mathlib.Data.List.Induction
import SyntaxOutline.Proofs.Verdicts

/-!
# Additions with children

An addition with children adds its node first and then attaches the children
one by one, each to the arena as the ones before it have left it. What becomes
of it can nevertheless be told from the arena as it was at the beginning. The
children must be different nodes, and each must be a root
(`Arena.CanTake`); the first that fails this is the one for which the addition
is refused, and the reason is the one it fails for
(`Arena.apply_addOver_decides`).

The reason is that the arenas in between are known entry by entry
(`Arena.GrownOver`). The children taken so far are owned by the new node, and
nothing else has been touched, so a child that is free in between was free at
the beginning and has not been named before. Nothing stands above the new
node at any time, so the only way to close a cycle is to name the new node
among its own children, by the handle that it is about to get.
-/

namespace SyntaxOutline

namespace Arena

variable {arena changed : Arena} {kind : Kind} {taken more : List Handle} {child handle : Handle}

/-! ## Children that a new node can have -/

/-- **Whether a new node can take the given children**: they are different nodes of the arena, and
none of them has a parent. -/
structure CanTake (arena : Arena) (children : List Handle) : Prop where
  nodup : children.Nodup
  mem : ∀ child ∈ children, child ∈ arena
  free : ∀ child ∈ children, arena.parent? child = none

instance (arena : Arena) (children : List Handle) : Decidable (arena.CanTake children) :=
  decidable_of_iff
    (children.Nodup ∧ (∀ child ∈ children, child ∈ arena) ∧
      ∀ child ∈ children, arena.parent? child = none)
    ⟨fun h => ⟨h.1, h.2.1, h.2.2⟩, fun h => ⟨h.nodup, h.mem, h.free⟩⟩

theorem canTake_nil (arena : Arena) : arena.CanTake [] :=
  ⟨List.nodup_nil, nofun, nofun⟩

/-- One more child can be taken if it is free and has not been taken yet. -/
theorem canTake_concat_iff :
    arena.CanTake (taken ++ [child]) ↔
      arena.CanTake taken ∧ child ∈ arena ∧ arena.parent? child = none ∧ child ∉ taken := by
  constructor
  · intro h
    obtain ⟨hnodup, -, hdisjoint⟩ := List.nodup_append.1 h.nodup
    refine ⟨⟨hnodup, fun other hother => h.mem other (List.mem_append_left _ hother),
      fun other hother => h.free other (List.mem_append_left _ hother)⟩, ?_, ?_, fun hchild => ?_⟩
    · exact h.mem child (List.mem_append_right _ List.mem_cons_self)
    · exact h.free child (List.mem_append_right _ List.mem_cons_self)
    · exact hdisjoint child hchild child List.mem_cons_self rfl
  · rintro ⟨h, hmem, hfree, hnew⟩
    refine ⟨List.nodup_append.2 ⟨h.nodup, List.nodup_singleton child, ?_⟩, fun other hother => ?_,
      fun other hother => ?_⟩
    · rintro other hother _ hchild rfl
      rw [List.mem_singleton.1 hchild] at hother
      exact hnew hother
    · obtain hother | hother := List.mem_append.1 hother
      · exact h.mem other hother
      · rwa [List.mem_singleton.1 hother]
    · obtain hother | hother := List.mem_append.1 hother
      · exact h.free other hother
      · rwa [List.mem_singleton.1 hother]

/-- Where not all children can be taken, there is a first that cannot. -/
theorem exists_first_of_not_canTake {children : List Handle} (h : ¬ arena.CanTake children) :
    ∃ taken child rest, children = taken ++ child :: rest ∧
      arena.CanTake taken ∧ ¬ arena.CanTake (taken ++ [child]) := by
  induction children using List.reverseRecOn with
  | nil => exact absurd arena.canTake_nil h
  | append_singleton children last ih =>
    by_cases hchildren : arena.CanTake children
    · exact ⟨children, last, [], rfl, hchildren, h⟩
    · obtain ⟨taken, child, rest, rfl, htaken, hchild⟩ := ih hchildren
      refine ⟨taken, child, rest ++ [last], ?_, htaken, hchild⟩
      rw [List.append_assoc, List.cons_append]

/-! ## The arena with the new node -/

/-- **An arena that has one more node, which has taken the given children**: the node has the next
number and the children in their order, they have it for their parent, and all else is as it was. -/
structure GrownOver (arena : Arena) (kind : Kind) (taken : List Handle) (changed : Arena) :
    Prop where
  tag_eq : changed.tag = arena.tag
  size_eq : changed.size = arena.size + 1
  node?_eq : ∀ handle, changed.node? handle =
    if handle = arena.next then
      some { Node.detached (arena.size + 1) kind with children := taken }
    else if handle ∈ taken then
      (arena.node? handle).map fun entry => { entry with parent := some arena.next }
    else arena.node? handle

/-- The arena that an addition has made when it has taken the given children. -/
def takeAll (arena : Arena) (kind : Kind) (taken : List Handle) : Arena :=
  taken.foldl (fun changed child => changed.link arena.next child) (arena.push kind)

theorem takeAll_concat (arena : Arena) (kind : Kind) (taken : List Handle) (child : Handle) :
    arena.takeAll kind (taken ++ [child]) = (arena.takeAll kind taken).link arena.next child := by
  rw [takeAll, List.foldl_concat, takeAll]

theorem CanTake.next_not_mem (h : arena.CanTake taken) : arena.next ∉ taken :=
  fun hnext => arena.next_not_mem (h.mem arena.next hnext)

/-- **Whatever children have been taken, the arena in between is known entry by entry.** -/
theorem CanTake.grownOver (h : arena.CanTake taken) (kind : Kind) :
    arena.GrownOver kind taken (arena.takeAll kind taken) := by
  induction taken using List.reverseRecOn with
  | nil =>
    refine ⟨tag_push kind arena, size_push kind arena, fun handle => ?_⟩
    show (arena.push kind).node? handle = _
    rw [node?_push, if_neg List.not_mem_nil]
    rfl
  | append_singleton taken child ih =>
    obtain ⟨htaken, hmem, -, hnew⟩ := canTake_concat_iff.1 h
    have hgrown := ih htaken
    have hne : child ≠ arena.next := fun heq => arena.next_not_mem (heq ▸ hmem)
    rw [takeAll_concat]
    refine ⟨?_, ?_, fun handle => ?_⟩
    · rw [tag_link, hgrown.tag_eq]
    · rw [size_link, hgrown.size_eq]
    · rw [node?_link hne]
      by_cases hnext : handle = arena.next
      · rw [if_pos hnext, if_pos hnext, hgrown.node?_eq, if_pos rfl]
        rfl
      · rw [if_neg hnext, if_neg hnext]
        by_cases hchild : handle = child
        · rw [if_pos hchild, hchild, hgrown.node?_eq, if_neg hne, if_neg hnew,
            if_pos (List.mem_append_right _ List.mem_cons_self)]
        · have hiff : handle ∈ taken ++ [child] ↔ handle ∈ taken := by
            rw [List.mem_append, List.mem_singleton, or_iff_left hchild]
          rw [if_neg hchild, hgrown.node?_eq, if_neg hnext]
          simp only [hiff]

namespace GrownOver

theorem mem_iff (hgrown : arena.GrownOver kind taken changed) :
    handle ∈ changed ↔ handle ∈ arena ∨ handle = arena.next := by
  have hpush : handle ∈ arena.push kind ↔ handle ∈ arena ∨ handle = arena.next := mem_push_iff
  rw [← hpush, Arena.mem_iff, Arena.mem_iff, hgrown.tag_eq, hgrown.size_eq, tag_push, size_push]

/-- The children that are taken have the new node for their parent, and no other node has. -/
theorem parent?_eq (hgrown : arena.GrownOver kind taken changed) (h : arena.CanTake taken)
    (handle : Handle) :
    changed.parent? handle = if handle ∈ taken then some arena.next else arena.parent? handle := by
  rw [parent?, hgrown.node?_eq]
  by_cases hnext : handle = arena.next
  · rw [if_pos hnext, hnext, if_neg h.next_not_mem, parent?,
      elim_node?_of_not_mem arena.next_not_mem]
    rfl
  · rw [if_neg hnext]
    by_cases htaken : handle ∈ taken
    · obtain ⟨node, hnode⟩ := exists_node? (h.mem handle htaken)
      rw [if_pos htaken, if_pos htaken, hnode]
      rfl
    · rw [if_neg htaken, if_neg htaken, parent?]

theorem parent?_next (hgrown : arena.GrownOver kind taken changed) (h : arena.CanTake taken) :
    changed.parent? arena.next = none := by
  rw [hgrown.parent?_eq h, if_neg h.next_not_mem, parent?,
    elim_node?_of_not_mem arena.next_not_mem]

/-- Nothing stands above the new node. -/
theorem ancestors_next (hgrown : arena.GrownOver kind taken changed) (h : arena.CanTake taken) :
    changed.ancestors arena.next = [arena.next] := by
  rw [ancestors, if_pos (hgrown.mem_iff.2 (Or.inr rfl)), hgrown.size_eq, climb_succ,
    hgrown.parent?_next h]
  rfl

/-- **One more child may be attached just if it can be taken with the others.** -/
theorem canAttach_iff (hgrown : arena.GrownOver kind taken changed) (h : arena.CanTake taken) :
    changed.CanAttach arena.next child ↔ arena.CanTake (taken ++ [child]) := by
  rw [canTake_concat_iff]
  constructor
  · intro hcan
    have hmem := hcan.child_mem
    have hfree := hcan.free
    have habove := hcan.not_above
    rw [hgrown.ancestors_next h, List.mem_singleton] at habove
    rw [hgrown.parent?_eq h] at hfree
    by_cases hchild : child ∈ taken
    · rw [if_pos hchild] at hfree
      cases hfree
    · rw [if_neg hchild] at hfree
      exact ⟨h, (hgrown.mem_iff.1 hmem).resolve_right habove, hfree, hchild⟩
  · rintro ⟨-, hmem, hfree, hchild⟩
    refine ⟨hgrown.mem_iff.2 (Or.inr rfl), hgrown.mem_iff.2 (Or.inl hmem), ?_, ?_⟩
    · rw [hgrown.parent?_eq h, if_neg hchild, hfree]
    · rw [hgrown.ancestors_next h, List.mem_singleton]
      rintro rfl
      exact arena.next_not_mem hmem

end GrownOver

/-! ## The run over the children -/

/-- **Children that can be taken are taken**, and the run goes on with those that come after. -/
theorem CanTake.attachEach_append (h : arena.CanTake taken) (kind : Kind) (rest : List Handle) :
    (arena.push kind).attachEach arena.next (taken ++ rest)
      = (arena.takeAll kind taken).attachEach arena.next rest := by
  induction taken using List.reverseRecOn generalizing rest with
  | nil => rfl
  | append_singleton taken child ih =>
    have htaken := (canTake_concat_iff.1 h).1
    have hattach : (arena.takeAll kind taken).attach arena.next child
        = .ok (arena.takeAll kind (taken ++ [child])) := by
      rw [takeAll_concat]
      exact attach_eq_ok_iff.2 ⟨((htaken.grownOver kind).canAttach_iff htaken).2 h, rfl⟩
    rw [List.append_assoc, ih htaken, List.singleton_append, attachEach, hattach]

/-- What an addition with children answers, and the arena that it makes, are those of the run over
the children. -/
theorem apply_addOver (arena : Arena) (kind : Kind) (children : List Handle) :
    arena.apply (.addOver kind children)
      = (((arena.push kind).attachEach arena.next children).1.map fun _ => arena.next,
        ((arena.push kind).attachEach arena.next children).2) := rfl

/-- An addition whose children can all be taken is carried out. -/
theorem CanTake.apply_addOver_eq {children : List Handle} (h : arena.CanTake children)
    (kind : Kind) :
    arena.apply (.addOver kind children) = (.ok arena.next, arena.takeAll kind children) := by
  have hrun := h.attachEach_append kind []
  rw [List.append_nil, attachEach_nil] at hrun
  rw [apply_addOver, hrun]
  rfl

/-- **An addition is refused for the first child that is**, and those before it have been taken. -/
theorem CanTake.apply_addOver_of_error {fault : Fault} (h : arena.CanTake taken) (kind : Kind)
    (rest : List Handle)
    (hfault : (arena.takeAll kind taken).attach arena.next child = .error fault) :
    arena.apply (.addOver kind (taken ++ child :: rest))
      = (.error fault, arena.takeAll kind taken) := by
  rw [apply_addOver, h.attachEach_append kind (child :: rest), attachEach, hfault]
  rfl

/-- **An addition with children is decided by the arena as it was before.** It is carried out just
if the children are different nodes of the arena without parents; the answer is then the handle of
the new node, and the node has the children in their order. Otherwise there is a first child that
cannot be taken with those before it. If it is named by the handle of the new node itself, the fault
is a cycle; if the arena does not know it, it is unknown; if it had an owner, it is attached to that
one already; and if it stands among those before it, it is attached to the new node. In each of
these cases the node stays with the children before that one, and nothing else is changed. -/
theorem apply_addOver_decides (arena : Arena) (kind : Kind) (children : List Handle) :
    (∀ handle, (arena.apply (.addOver kind children)).1 = .ok handle
      ↔ handle = arena.next ∧ arena.CanTake children) ∧
    (arena.CanTake children →
      arena.GrownOver kind children (arena.apply (.addOver kind children)).2) ∧
    (¬ arena.CanTake children → ∃ taken child rest, children = taken ++ child :: rest ∧
      arena.CanTake taken ∧ ¬ arena.CanTake (taken ++ [child])) ∧
    ∀ taken child rest, children = taken ++ child :: rest → arena.CanTake taken →
      ¬ arena.CanTake (taken ++ [child]) →
      arena.GrownOver kind taken (arena.apply (.addOver kind children)).2 ∧
      (child = arena.next → (arena.apply (.addOver kind children)).1
        = .error (.cycle arena.next arena.next)) ∧
      (child ≠ arena.next → child ∉ arena → (arena.apply (.addOver kind children)).1
        = .error (.unknownNode child)) ∧
      (∀ owner, arena.parent? child = some owner → (arena.apply (.addOver kind children)).1
        = .error (.alreadyAttached child owner)) ∧
      (child ∈ taken → (arena.apply (.addOver kind children)).1
        = .error (.alreadyAttached child arena.next)) := by
  have hrefused : ∀ taken child rest, children = taken ++ child :: rest → arena.CanTake taken →
      ¬ arena.CanTake (taken ++ [child]) →
      ∃ fault, (arena.takeAll kind taken).attach arena.next child = .error fault ∧
        arena.apply (.addOver kind children) = (.error fault, arena.takeAll kind taken) := by
    rintro taken child rest rfl htaken hchild
    cases hattach : (arena.takeAll kind taken).attach arena.next child with
    | error fault => exact ⟨fault, rfl, htaken.apply_addOver_of_error kind rest hattach⟩
    | ok attached =>
      have hcan := (attach_eq_ok_iff.1 hattach).1
      exact absurd (((htaken.grownOver kind).canAttach_iff htaken).1 hcan) hchild
  refine ⟨fun handle => ⟨fun hok => ?_, ?_⟩, fun hcan => ?_, exists_first_of_not_canTake,
    fun taken child rest hsplit htaken hchild => ?_⟩
  · by_cases hcan : arena.CanTake children
    · rw [hcan.apply_addOver_eq kind] at hok
      exact ⟨(Except.ok.inj hok).symm, hcan⟩
    · obtain ⟨taken, child, rest, hsplit, htaken, hchild⟩ := exists_first_of_not_canTake hcan
      obtain ⟨fault, -, happly⟩ := hrefused taken child rest hsplit htaken hchild
      rw [happly] at hok
      cases hok
  · rintro ⟨rfl, hcan⟩
    rw [hcan.apply_addOver_eq kind]
  · rw [hcan.apply_addOver_eq kind]
    exact hcan.grownOver kind
  · obtain ⟨fault, hattach, happly⟩ := hrefused taken child rest hsplit htaken hchild
    have hgrown := htaken.grownOver kind
    -- the verdict in between, of which the reason is told from the arena as it was
    have hverdict : ∀ {reason}, (arena.takeAll kind taken).attach arena.next child = .error reason →
        (arena.apply (.addOver kind children)).1 = .error reason := by
      intro reason hreason
      rw [happly, Except.error.inj (hattach.symm.trans hreason)]
    have hnext : arena.next ∈ arena.takeAll kind taken := hgrown.mem_iff.2 (Or.inr rfl)
    refine ⟨?_, fun hself => ?_, fun hother hstranger => ?_, fun owner howner => ?_,
      fun hrepeated => ?_⟩
    · rw [happly]
      exact hgrown
    · refine hverdict (attach_eq_error_iff.2 (Or.inr (Or.inr (Or.inr ?_))))
      rw [hself, hgrown.ancestors_next htaken]
      exact ⟨hnext, hnext, hgrown.parent?_next htaken, List.mem_cons_self, rfl⟩
    · refine hverdict (attach_eq_error_iff.2 (Or.inr (Or.inl ⟨hnext, fun hmem => ?_, rfl⟩)))
      exact (hgrown.mem_iff.1 hmem).elim hstranger hother
    · have hmem := hgrown.mem_iff.2 (Or.inl (mem_of_parent? howner))
      refine hverdict
        (attach_eq_error_iff.2 (Or.inr (Or.inr (Or.inl ⟨hnext, hmem, owner, ?_, rfl⟩))))
      rw [hgrown.parent?_eq htaken, if_neg, howner]
      intro hin
      rw [htaken.free child hin] at howner
      cases howner
    · have hmem := hgrown.mem_iff.2 (Or.inl (htaken.mem child hrepeated))
      refine hverdict (attach_eq_error_iff.2 (Or.inr (Or.inr (Or.inl ⟨hnext, hmem, _, ?_, rfl⟩))))
      rw [hgrown.parent?_eq htaken, if_pos hrepeated]

/-- Over the chain and the node that stands alone a block can be put. It is refused if it is to be a
child of itself, for a child of another arena, for a child out of the chain, and for one that is
named twice; then it has kept the two children before that one. -/
theorem apply_addOver_decides_chain :
    (chain.apply (.addOver .block [⟨4, 3⟩, ⟨4, 2⟩])).1 = .ok ⟨4, 4⟩ ∧
      (chain.apply (.addOver .block [⟨4, 3⟩, ⟨4, 4⟩, ⟨4, 2⟩])).1
        = .error (.cycle ⟨4, 4⟩ ⟨4, 4⟩) ∧
      (chain.apply (.addOver .block [⟨4, 3⟩, ⟨5, 4⟩])).1 = .error (.unknownNode ⟨5, 4⟩) ∧
      (chain.apply (.addOver .block [⟨4, 3⟩, ⟨4, 1⟩])).1
        = .error (.alreadyAttached ⟨4, 1⟩ ⟨4, 2⟩) ∧
      (chain.apply (.addOver .block [⟨4, 3⟩, ⟨4, 2⟩, ⟨4, 3⟩])).1
        = .error (.alreadyAttached ⟨4, 3⟩ ⟨4, 4⟩) ∧
      chain.GrownOver .block [⟨4, 3⟩, ⟨4, 2⟩]
        (chain.apply (.addOver .block [⟨4, 3⟩, ⟨4, 2⟩, ⟨4, 3⟩])).2 := by
  obtain ⟨hdone, -⟩ := apply_addOver_decides chain .block [⟨4, 3⟩, ⟨4, 2⟩]
  obtain ⟨-, -, -, hself⟩ := apply_addOver_decides chain .block [⟨4, 3⟩, ⟨4, 4⟩, ⟨4, 2⟩]
  obtain ⟨-, -, -, hstranger⟩ := apply_addOver_decides chain .block [⟨4, 3⟩, ⟨5, 4⟩]
  obtain ⟨-, -, -, howned⟩ := apply_addOver_decides chain .block [⟨4, 3⟩, ⟨4, 1⟩]
  obtain ⟨-, -, -, htwice⟩ := apply_addOver_decides chain .block [⟨4, 3⟩, ⟨4, 2⟩, ⟨4, 3⟩]
  have hkept := htwice [⟨4, 3⟩, ⟨4, 2⟩] ⟨4, 3⟩ [] rfl (by decide) (by decide)
  refine ⟨(hdone _).2 ⟨rfl, by decide⟩, ?_, ?_, ?_, hkept.2.2.2.2 (by decide), hkept.1⟩
  · exact (hself [⟨4, 3⟩] ⟨4, 4⟩ [⟨4, 2⟩] rfl (by decide) (by decide)).2.1 rfl
  · exact (hstranger [⟨4, 3⟩] ⟨5, 4⟩ [] rfl (by decide) (by decide)).2.2.1 (by decide) (by decide)
  · exact (howned [⟨4, 3⟩] ⟨4, 1⟩ [] rfl (by decide) (by decide)).2.2.2.1 ⟨4, 2⟩ (by decide)

end Arena

end SyntaxOutline
