import SyntaxOutline.Proofs.Reachable

/-!
# The order of attachments

A tree can be built from its root down, from its leaves up, or in any other
order, and it comes out the same, as long as the children of each node are
attached in the order in which they are to stand. That is what this module
proves, from any reachable arena: attachments that are all carried out in one
order are all carried out in each such order, and make the same arena.

Two attachments under different parents can change places. That the arena
comes out the same is plain, since four entries are written and none of them
twice (`link_comm`). What has to be shown is that neither attachment is
refused in its new place (`CanAttach.swap`). The one that now comes first is
asked for in an arena with a link less, where a child that is free is free all
the more, and less stands above its parent. The one that now comes second is
asked for in an arena in which the first has not been made before; if its
child stood above its parent there, the way up would pass the new link, and
the two links together would have closed a cycle in the old order as well.

From there it is a matter of sorting: the first attachment of the new order is
the first under its parent in the old one, so it can be taken to the front,
past attachments under other parents only, and the rest is put in order in the
same way.
-/

namespace SyntaxOutline

namespace Arena

variable {arena other changed : Arena} {parent child parent' child' : Handle}

/-- **Attaches children one after the other**, each given with its parent, and fails with the first
attachment that is refused. -/
def attachAll (requests : List (Handle × Handle)) (arena : Arena) : Except Fault Arena :=
  requests.foldlM (fun arena request => arena.attach request.1 request.2) arena

theorem attachAll_cons_eq_ok_iff {request : Handle × Handle} {rest : List (Handle × Handle)} :
    arena.attachAll (request :: rest) = .ok changed
      ↔ ∃ middle, arena.attach request.1 request.2 = .ok middle ∧
        middle.attachAll rest = .ok changed := by
  unfold attachAll
  rw [List.foldlM_cons]
  cases arena.attach request.1 request.2 with
  | error fault => exact ⟨nofun, fun ⟨_, hfirst, _⟩ => nomatch hfirst⟩
  | ok middle =>
    refine ⟨fun hrest => ⟨middle, rfl, hrest⟩, ?_⟩
    rintro ⟨_, ⟨⟩, hrest⟩
    exact hrest

/-! ## Two links in either order -/

/-- An arena is what it shows at each handle. -/
theorem eq_of_node?_eq (htag : arena.tag = other.tag)
    (h : ∀ handle, arena.node? handle = other.node? handle) : arena = other := by
  obtain ⟨tag, nodes⟩ := arena
  obtain ⟨_, otherNodes⟩ := other
  cases htag
  refine congrArg (mk tag) (Array.ext_getElem? fun index => ?_)
  have hindex := h ⟨tag, index⟩
  rwa [node?, node?, if_pos rfl, if_pos rfl] at hindex

/-- Changes of two nodes, or changes that go together, can be made in either order. -/
theorem modify_comm {handle handle' : Handle} {change change' : Node → Node}
    (h : handle ≠ handle' ∨ ∀ node, change' (change node) = change (change' node)) (arena : Arena) :
    (arena.modify handle change).modify handle' change'
      = (arena.modify handle' change').modify handle change := by
  refine eq_of_node?_eq ?_ (fun node => ?_)
  · rw [tag_modify, tag_modify, tag_modify, tag_modify]
  · rw [node?_modify, node?_modify, node?_modify, node?_modify]
    by_cases hfirst : handle = node
    · by_cases hsecond : handle' = node
      · rw [if_pos hfirst, if_pos hfirst, if_pos hsecond, if_pos hsecond, Option.map_map,
          Option.map_map]
        obtain hne | hsame := h
        · exact absurd (hfirst.trans hsecond.symm) hne
        · exact congrArg (Option.map · (arena.node? node)) (funext hsame)
      · rw [if_neg hsecond, if_neg hsecond]
    · rw [if_neg hfirst, if_neg hfirst]

/-- A change that goes together with both entries of a link can be made before it. -/
theorem modify_link {handle : Handle} {change : Node → Node}
    (hparent : parent ≠ handle ∨ ∀ node,
      change { node with children := node.children ++ [child] }
        = { change node with children := (change node).children ++ [child] })
    (hchild : child ≠ handle ∨ ∀ node,
      change { node with parent := some parent } = { change node with parent := some parent })
    (arena : Arena) :
    (arena.link parent child).modify handle change
      = (arena.modify handle change).link parent child := by
  unfold link
  rw [modify_comm hparent, modify_comm hchild]

/-- **Links of different children under different parents** can be made in either order. -/
theorem link_comm (hparent : parent ≠ parent') (hchild : child ≠ child') (arena : Arena) :
    (arena.link parent child).link parent' child'
      = (arena.link parent' child').link parent child := by
  -- the new parent of a node and the new child of one do not get in each other's way
  rw [link, modify_link (Or.inr fun _ => by rfl) (Or.inl hchild),
    modify_link (Or.inl hparent) (Or.inr fun _ => by rfl), ← link]

/-- A way up after a link, of any length, was one before or passes the new link. -/
theorem reflTransGen_link (hcan : arena.CanAttach parent child) {lower upper : Handle}
    (h : Relation.ReflTransGen (arena.link parent child).ChildOf lower upper) :
    Relation.ReflTransGen arena.ChildOf lower upper ∨
      Relation.ReflTransGen arena.ChildOf lower child ∧
        Relation.ReflTransGen arena.ChildOf parent upper := by
  obtain rfl | hway := Relation.reflTransGen_iff_eq_or_transGen.1 h
  · exact Or.inl Relation.ReflTransGen.refl
  · exact (IsForest.transGen_link hcan hway).imp_left Relation.TransGen.to_reflTransGen

/-- A child that is attached is not attached again. -/
theorem CanAttach.child_ne (hfirst : arena.CanAttach parent child)
    (hsecond : (arena.link parent child).CanAttach parent' child') : child ≠ child' := by
  rintro rfl
  have hfree := hsecond.free
  rw [parent?_link hfirst.child_mem, if_pos rfl] at hfree
  cases hfree

/-- **Two attachments can change places**: if one may be made, and the other after it, then the
other may be made as well, and the one after that. -/
theorem CanAttach.swap (hforest : arena.IsForest) (hfirst : arena.CanAttach parent child)
    (hsecond : (arena.link parent child).CanAttach parent' child') :
    arena.CanAttach parent' child' ∧ (arena.link parent' child').CanAttach parent child := by
  have hmem : parent' ∈ arena := mem_link_iff.1 hsecond.parent_mem
  have hne : child ≠ child' := hfirst.child_ne hsecond
  have hfree := hsecond.free
  rw [parent?_link hfirst.child_mem, if_neg (Ne.symm hne)] at hfree
  -- what leads up before the link leads up after it
  have hgrows : ∀ {lower upper}, Relation.ReflTransGen arena.ChildOf lower upper →
      Relation.ReflTransGen (arena.link parent child).ChildOf lower upper :=
    Relation.ReflTransGen.mono
      (fun _ _ hstep => (IsForest.childOf_link_iff hfirst).2 (Or.inl hstep)) _ _
  have hnot : ¬ Relation.ReflTransGen (arena.link parent child).ChildOf parent' child' := by
    rw [← (hforest.link hfirst).mem_ancestors_iff hsecond.parent_mem]
    exact hsecond.not_above
  have hother : arena.CanAttach parent' child' := by
    refine ⟨hmem, mem_link_iff.1 hsecond.child_mem, hfree, fun habove => ?_⟩
    exact hnot (hgrows ((hforest.mem_ancestors_iff hmem).1 habove))
  refine ⟨hother, mem_link_iff.2 hfirst.parent_mem, mem_link_iff.2 hfirst.child_mem, ?_, ?_⟩
  · rw [parent?_link hother.child_mem, if_neg hne]
    exact hfirst.free
  · rw [(hforest.link hother).mem_ancestors_iff (mem_link_iff.2 hfirst.parent_mem)]
    intro hway
    obtain hold | ⟨hto, hfrom⟩ := reflTransGen_link hother hway
    · exact hfirst.not_above ((hforest.mem_ancestors_iff hfirst.parent_mem).2 hold)
    · -- both links together would close a cycle
      have hlink : (arena.link parent child).ChildOf child parent :=
        (IsForest.childOf_link_iff hfirst).2 (Or.inr ⟨rfl, rfl⟩)
      exact hnot ((hgrows hfrom).trans (Relation.ReflTransGen.head hlink (hgrows hto)))

/-! ## Many attachments in another order -/

/-- **An attachment can be made earlier** than one under another parent right before it. -/
theorem attach_swap (hforest : arena.IsForest) {middle : Arena} (hparent : parent ≠ parent')
    (hfirst : arena.attach parent child = .ok middle)
    (hsecond : middle.attach parent' child' = .ok changed) :
    ∃ between, arena.attach parent' child' = .ok between ∧
      between.attach parent child = .ok changed := by
  obtain ⟨hcan, rfl⟩ := attach_eq_ok_iff.1 hfirst
  obtain ⟨hcan', rfl⟩ := attach_eq_ok_iff.1 hsecond
  obtain ⟨hearlier, hlater⟩ := CanAttach.swap hforest hcan hcan'
  refine ⟨_, attach_eq_ok_iff.2 ⟨hearlier, rfl⟩, attach_eq_ok_iff.2 ⟨hlater, ?_⟩⟩
  exact link_comm hparent (hcan.child_ne hcan') arena

/-- An attachment can be made before any number of them under other parents. -/
theorem attachAll_front (hforest : arena.IsForest) {request : Handle × Handle}
    {before after : List (Handle × Handle)} (hbefore : ∀ earlier ∈ before, earlier.1 ≠ request.1)
    (h : arena.attachAll (before ++ request :: after) = .ok changed) :
    arena.attachAll (request :: (before ++ after)) = .ok changed := by
  induction before generalizing arena with
  | nil => exact h
  | cons earlier before ih =>
    rw [List.cons_append] at h ⊢
    obtain ⟨middle, hearlier, hrest⟩ := attachAll_cons_eq_ok_iff.1 h
    obtain ⟨hcan, rfl⟩ := attach_eq_ok_iff.1 hearlier
    have hfront := ih (hforest.link hcan) (fun other hother =>
      hbefore other (List.mem_cons_of_mem earlier hother)) hrest
    obtain ⟨next, hrequest, hrest⟩ := attachAll_cons_eq_ok_iff.1 hfront
    obtain ⟨between, hrequest, hearlier⟩ := attach_swap hforest
      (hbefore earlier List.mem_cons_self) hearlier hrequest
    refine attachAll_cons_eq_ok_iff.2 ⟨between, hrequest, ?_⟩
    exact attachAll_cons_eq_ok_iff.2 ⟨next, hearlier, hrest⟩

/-- **The order of attachments does not matter across parents.** Where attachments are all carried
out from a reachable arena in one order, they are all carried out in every order in which those
under the same parent come as before, and the arena that they make is the same. -/
theorem attachAll_of_perm (hreach : arena.Reachable) {requests reordered : List (Handle × Handle)}
    (h : arena.attachAll requests = .ok changed) (hperm : reordered.Perm requests)
    (hkept : ∀ parent, reordered.filter (fun request => request.1 = parent)
      = requests.filter (fun request => request.1 = parent)) :
    arena.attachAll reordered = .ok changed := by
  have hforest := hreach.isForest
  clear hreach
  induction reordered generalizing arena requests with
  | nil =>
    rw [hperm.nil_eq]
    exact h
  | cons request rest ih =>
    -- the first attachment under its parent in the one order is so in the other
    have hfirst := (hkept request.1).symm
    rw [List.filter_cons, if_pos (by exact decide_eq_true rfl), List.filter_eq_cons_iff] at hfirst
    obtain ⟨before, after, rfl, hbefore, -, hafter⟩ := hfirst
    have hnone : before.filter (fun earlier => earlier.1 = request.1) = [] :=
      List.filter_eq_nil_iff.2 hbefore
    have hfront := attachAll_front hforest
      (fun earlier hearlier hsame => hbefore earlier hearlier (decide_eq_true hsame)) h
    obtain ⟨middle, hrequest, hrest⟩ := attachAll_cons_eq_ok_iff.1 hfront
    obtain ⟨hcan, rfl⟩ := attach_eq_ok_iff.1 hrequest
    refine attachAll_cons_eq_ok_iff.2 ⟨_, hrequest, ih hrest ?_ (fun parent => ?_)
      (hforest.link hcan)⟩
    · exact (hperm.trans List.perm_middle).cons_inv
    · have hparent := hkept parent
      rw [List.filter_append, List.filter_cons, List.filter_cons] at hparent
      rw [List.filter_append]
      by_cases hown : request.1 = parent
      · rw [← hown, hnone, hafter, List.nil_append]
      · rwa [if_neg (by exact fun hof => hown (of_decide_eq_true hof)),
          if_neg (by exact fun hof => hown (of_decide_eq_true hof))] at hparent

/-- Four nodes that stand alone. -/
def loose : Arena :=
  (empty 4).applyAll [.add .program, .add .block, .add (.int ⟨"1"⟩), .add (.int ⟨"2"⟩)]

theorem attachAll_of_perm_loose :
    ∃ changed,
      loose.attachAll [(⟨4, 0⟩, ⟨4, 1⟩), (⟨4, 0⟩, ⟨4, 2⟩), (⟨4, 1⟩, ⟨4, 3⟩)] = .ok changed ∧
      loose.attachAll [(⟨4, 1⟩, ⟨4, 3⟩), (⟨4, 0⟩, ⟨4, 1⟩), (⟨4, 0⟩, ⟨4, 2⟩)] = .ok changed ∧
      changed.children ⟨4, 0⟩ = .ok [⟨4, 1⟩, ⟨4, 2⟩] ∧
      changed.ancestors ⟨4, 3⟩ = [⟨4, 3⟩, ⟨4, 1⟩, ⟨4, 0⟩] := by
  have hreach : loose.Reachable := (Reachable.empty 4).applyAll _
  have htopDown : loose.attachAll [(⟨4, 0⟩, ⟨4, 1⟩), (⟨4, 0⟩, ⟨4, 2⟩), (⟨4, 1⟩, ⟨4, 3⟩)]
      = .ok (((loose.link ⟨4, 0⟩ ⟨4, 1⟩).link ⟨4, 0⟩ ⟨4, 2⟩).link ⟨4, 1⟩ ⟨4, 3⟩) := by
    decide
  refine ⟨_, htopDown, attachAll_of_perm hreach htopDown (by decide) (fun parent => ?_), ?_, ?_⟩
  · by_cases hroot : (⟨4, 0⟩ : Handle) = parent
    · rw [← hroot]
      rfl
    · simp [List.filter_cons, hroot]
  · decide
  · decide

end Arena

end SyntaxOutline
