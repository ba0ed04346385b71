import SyntaxOutline.Proofs.Roots

/-!
# The verdict on an attachment

An attachment may be refused for four reasons: the parent is unknown, the
child is unknown, the child has an owner already, or the parent stands at or
below the child, so that a cycle would be closed. They are looked at in this
order, and the first that is given is the verdict
(`Arena.attach_eq_error_iff`).

The last of them is told by the links *up*: the arena goes through the
ancestors of the parent and looks for the child. What makes a cycle is a fact
about the links *down*, which a walk would follow for ever. In a forest they
are the same fact (`IsForest.leadsDown_iff_mem_ancestors`). At that point the
child is known to have no parent, so if it is among the ancestors at all it is
the last of them, where the way up ends (`IsForest.getLast?_ancestors_iff`).
-/

namespace SyntaxOutline

namespace Arena

variable {arena : Arena} {parent child upper lower : Handle}

/-- **Whether links down lead from one node to another**, in any number of steps from a node to one
of its children. -/
def LeadsDown (arena : Arena) (upper lower : Handle) : Prop :=
  Relation.ReflTransGen (fun node below => below ∈ arena.childrenOf node) upper lower

/-! ## The four reasons -/

/-- **An attachment is refused for the first reason that is given**, and for no other. -/
theorem attach_eq_error_iff {fault : Fault} :
    arena.attach parent child = .error fault ↔
      (parent ∉ arena ∧ fault = .unknownNode parent) ∨
      (parent ∈ arena ∧ child ∉ arena ∧ fault = .unknownNode child) ∨
      (parent ∈ arena ∧ child ∈ arena ∧
        ∃ owner, arena.parent? child = some owner ∧ fault = .alreadyAttached child owner) ∨
      (parent ∈ arena ∧ child ∈ arena ∧ arena.parent? child = none ∧
        child ∈ arena.ancestors parent ∧ fault = .cycle parent child) := by
  by_cases hparent : parent ∈ arena
  · by_cases hchild : child ∈ arena
    · obtain ⟨_, hparentNode⟩ := exists_node? hparent
      obtain ⟨node, hnode⟩ := exists_node? hchild
      have hview := parent?_of_node? hnode
      rw [hview]
      unfold attach
      rw [node_eq_ok_iff.2 hparentNode, node_eq_ok_iff.2 hnode]
      cases hup : node.parent with
      | some owner => simp [bind, Except.bind, hup, hparent, hchild, eq_comm]
      | none =>
        by_cases habove : child ∈ arena.ancestors parent
        · simp [bind, Except.bind, hup, hparent, hchild, habove, eq_comm]
        · simp [bind, Except.bind, hup, hparent, hchild, habove]
    · have hstranger : arena.attach parent child = .error (.unknownNode child) := by
        obtain ⟨_, hparentNode⟩ := exists_node? hparent
        rw [attach, node_eq_ok_iff.2 hparentNode, node_of_not_mem hchild]
        rfl
      simp [hstranger, hparent, hchild, eq_comm]
  · have hstranger : arena.attach parent child = .error (.unknownNode parent) := by
      rw [attach, node_of_not_mem hparent]
      rfl
    simp [hstranger, hparent, eq_comm]

/-- The answer to an attachment names the parent, or says for what it was refused. -/
theorem apply_attach_eq_error_iff {fault : Fault} :
    (arena.apply (.attach parent child)).1 = .error fault
      ↔ arena.attach parent child = .error fault := by
  show (arena.settle parent (arena.attach parent child)).1 = _ ↔ _
  cases arena.attach parent child <;> simp [settle]

theorem apply_attach_eq_ok_iff {node : Handle} :
    (arena.apply (.attach parent child)).1 = .ok node
      ↔ node = parent ∧ arena.CanAttach parent child := by
  show (arena.settle parent (arena.attach parent child)).1 = _ ↔ _
  cases hattach : arena.attach parent child with
  | error fault =>
    have hcan : ¬ arena.CanAttach parent child := by
      intro hcan
      rw [attach_eq_ok_iff.2 ⟨hcan, rfl⟩] at hattach
      cases hattach
    simp [settle, hcan]
  | ok changed =>
    have hcan := (attach_eq_ok_iff.1 hattach).1
    simp [settle, hcan, eq_comm]

/-! ## Up and down -/

namespace IsForest

theorem leadsDown_iff_mem_ancestors (hforest : arena.IsForest) (h : lower ∈ arena) :
    arena.LeadsDown upper lower ↔ upper ∈ arena.ancestors lower := by
  have hswap : (fun node below => below ∈ arena.childrenOf node)
      = Function.swap arena.ChildOf := by
    funext node below
    exact propext hforest.mem_childrenOf_iff
  rw [LeadsDown, hswap, Relation.reflTransGen_swap, hforest.mem_ancestors_iff h]

/-- **A node without a parent stands above another just if the way up from there ends at it.** -/
theorem getLast?_ancestors_iff (hforest : arena.IsForest) (h : lower ∈ arena)
    (hupper : upper ∈ arena.roots) :
    (arena.ancestors lower).getLast? = some upper ↔ upper ∈ arena.ancestors lower := by
  obtain ⟨root, hlast, hroot⟩ := hforest.exists_root h
  refine ⟨List.mem_of_getLast?, fun habove => ?_⟩
  rw [hlast, (hroot upper).1 ⟨hupper, habove⟩]

end IsForest

/-! ## What an attachment changes -/

/-- **A link changes two entries**: the child is one more of the parent's children, and the parent
is the child's parent. -/
theorem node?_link (hne : child ≠ parent) (handle : Handle) :
    (arena.link parent child).node? handle
      = if handle = parent then
          (arena.node? parent).map fun entry => { entry with children := entry.children ++ [child] }
        else if handle = child then
          (arena.node? child).map fun entry => { entry with parent := some parent }
        else arena.node? handle := by
  rw [link, node?_modify, node?_modify]
  by_cases hparent : handle = parent
  · rw [hparent, if_pos rfl, if_neg hne, if_pos rfl]
  · rw [if_neg (Ne.symm hparent), if_neg hparent]
    by_cases hchild : handle = child
    · rw [hchild, if_pos rfl]
    · rw [if_neg (Ne.symm hchild), if_neg hchild]

/-- Nothing can be attached under itself. -/
theorem CanAttach.ne (hforest : arena.IsForest) (hcan : arena.CanAttach parent child) :
    child ≠ parent := by
  rintro rfl
  refine hcan.not_above ?_
  rw [hforest.ancestors_eq hcan.parent_mem]
  exact List.mem_cons_self

/-- **An attachment is decided exactly**, for any two handles. It is refused for the parent just if
the arena does not know it; else for the child just if the arena does not know that; else for an
owner just if that one has the child among its children; else for a cycle just if links down lead
from the child to the parent, which is to say that the way up from the parent ends at the child; and
else it is carried out. Refused, it leaves the arena as it was. Carried out, it puts the child after
the other children of the parent and gives it its parent, and that is all that it changes. -/
theorem apply_attach_decides (hreach : arena.Reachable) (parent child : Handle) :
    ((arena.apply (.attach parent child)).1 = .error (.unknownNode parent) ↔ parent ∉ arena) ∧
    (parent ∈ arena →
      ((arena.apply (.attach parent child)).1 = .error (.unknownNode child) ↔ child ∉ arena)) ∧
    (parent ∈ arena → child ∈ arena →
      (∀ owner,
        ((arena.apply (.attach parent child)).1 = .error (.alreadyAttached child owner)
          ↔ arena.parent? child = some owner) ∧
        (arena.parent? child = some owner ↔ child ∈ arena.childrenOf owner)) ∧
      (arena.parent? child = none →
        ((arena.apply (.attach parent child)).1 = .error (.cycle parent child)
          ↔ arena.LeadsDown child parent) ∧
        (arena.LeadsDown child parent ↔ (arena.ancestors parent).getLast? = some child) ∧
        ((arena.apply (.attach parent child)).1 = .ok parent
          ↔ ¬ arena.LeadsDown child parent))) ∧
    (∀ fault, (arena.apply (.attach parent child)).1 = .error fault →
      (arena.apply (.attach parent child)).2 = arena) ∧
    (∀ node, (arena.apply (.attach parent child)).1 = .ok node →
      (arena.apply (.attach parent child)).2.tag = arena.tag ∧
      (arena.apply (.attach parent child)).2.size = arena.size ∧
      child ≠ parent ∧
      ∀ handle, (arena.apply (.attach parent child)).2.node? handle
        = if handle = parent then
            (arena.node? parent).map fun entry =>
              { entry with children := entry.children ++ [child] }
          else if handle = child then
            (arena.node? child).map fun entry => { entry with parent := some parent }
          else arena.node? handle) := by
  have hforest := hreach.isForest
  refine ⟨?_, fun hparent => ?_, fun hparent hchild => ⟨fun owner => ⟨?_, ?_⟩, fun hfree => ?_⟩,
    fun fault hfault => ?_, fun node hnode => ?_⟩
  · rw [apply_attach_eq_error_iff, attach_eq_error_iff]
    by_cases hparent : parent ∈ arena
    · by_cases hsame : child = parent
      · simp [hsame, hparent]
      · simp [hparent, Ne.symm hsame]
    · simp [hparent]
  · rw [apply_attach_eq_error_iff, attach_eq_error_iff]
    simp [hparent]
  · rw [apply_attach_eq_error_iff, attach_eq_error_iff]
    simp [hparent, hchild]
  · exact hforest.mem_childrenOf_iff.symm
  · have hroot : child ∈ arena.roots := mem_roots_iff.2 ⟨hchild, hfree⟩
    have hdown : arena.LeadsDown child parent ↔ child ∈ arena.ancestors parent :=
      hforest.leadsDown_iff_mem_ancestors hparent
    refine ⟨?_, hdown.trans (hforest.getLast?_ancestors_iff hparent hroot).symm, ?_⟩
    · rw [apply_attach_eq_error_iff, attach_eq_error_iff, hdown]
      simp [hparent, hchild, hfree]
    · rw [apply_attach_eq_ok_iff, hdown]
      exact ⟨fun hok => hok.2.not_above, fun hnot => ⟨rfl, hparent, hchild, hfree, hnot⟩⟩
  · rw [apply_attach_eq_error_iff] at hfault
    show (arena.settle parent (arena.attach parent child)).2 = arena
    rw [hfault]
    rfl
  · obtain ⟨-, hcan⟩ := apply_attach_eq_ok_iff.1 hnode
    have hchanged : (arena.apply (.attach parent child)).2 = arena.link parent child := by
      show (arena.settle parent (arena.attach parent child)).2 = _
      rw [attach_eq_ok_iff.2 ⟨hcan, rfl⟩]
      rfl
    rw [hchanged]
    exact ⟨tag_link parent child arena, size_link parent child arena, hcan.ne hforest,
      node?_link (hcan.ne hforest)⟩

/-- A chain of three nodes, ⟨4, 2⟩ over ⟨4, 1⟩ over ⟨4, 0⟩, and a node that stands alone. -/
def chain : Arena :=
  (Arena.empty 4).applyAll [.add (.int ⟨"1"⟩), .addOver .returnStmt [⟨4, 0⟩],
    .addOver .block [⟨4, 1⟩], .add .program]

/-- Under the lowest node of the chain the top of it would close a cycle, and its middle is owned
already, though it is an ancestor as well. Under the top the node that stands alone may come. -/
theorem apply_attach_decides_chain :
    (chain.apply (.attach ⟨4, 0⟩ ⟨4, 2⟩)).1 = .error (.cycle ⟨4, 0⟩ ⟨4, 2⟩) ∧
      (chain.apply (.attach ⟨4, 0⟩ ⟨4, 1⟩)).1 = .error (.alreadyAttached ⟨4, 1⟩ ⟨4, 2⟩) ∧
      (chain.apply (.attach ⟨4, 0⟩ ⟨5, 2⟩)).1 = .error (.unknownNode ⟨5, 2⟩) ∧
      (chain.apply (.attach ⟨4, 2⟩ ⟨4, 3⟩)).1 = .ok ⟨4, 2⟩ := by
  have hreach : chain.Reachable := (Reachable.empty 4).applyAll _
  have hmem : ∀ index < 4, (⟨4, index⟩ : Handle) ∈ chain := by decide
  have htop : (chain.ancestors ⟨4, 0⟩).getLast? = some ⟨4, 2⟩ := by decide
  have halone : (chain.ancestors ⟨4, 2⟩).getLast? ≠ some ⟨4, 3⟩ := by decide
  obtain ⟨-, -, hcycle, -⟩ := apply_attach_decides hreach ⟨4, 0⟩ ⟨4, 2⟩
  obtain ⟨-, -, howned, -⟩ := apply_attach_decides hreach ⟨4, 0⟩ ⟨4, 1⟩
  obtain ⟨-, hunknown, -⟩ := apply_attach_decides hreach ⟨4, 0⟩ ⟨5, 2⟩
  obtain ⟨-, -, hdone, -⟩ := apply_attach_decides hreach ⟨4, 2⟩ ⟨4, 3⟩
  refine ⟨?_, ?_, ?_, ?_⟩
  · obtain ⟨hverdict, hlast, -⟩ := (hcycle (hmem 0 (by decide)) (hmem 2 (by decide))).2 (by decide)
    exact hverdict.2 (hlast.2 htop)
  · exact ((howned (hmem 0 (by decide)) (hmem 1 (by decide))).1 ⟨4, 2⟩).1.2 (by decide)
  · exact (hunknown (hmem 0 (by decide))).2 (by decide)
  · obtain ⟨-, hlast, hverdict⟩ := (hdone (hmem 2 (by decide)) (hmem 3 (by decide))).2 (by decide)
    exact hverdict.2 (fun hdown => halone (hlast.1 hdown))

end Arena

end SyntaxOutline
