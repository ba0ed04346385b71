import SyntaxOutline.Proofs.Growth
import SyntaxOutline.Proofs.Measures

/-!
# What an edit changes in an outline

The outline of a tree tells of the nodes of the tree, and of others only their
numbers, where they decorate a node. Numbers never change. So an edit that is
about a node elsewhere leaves the outline as it is, and it may even put the
root under another node: what stands above the root is no part of what is
printed. An addition is always of this sort, since the node that it is about
is new, and so is an edit that is refused, with a trace or without.

An edit that says something of a node in the tree – what decorates it, what its
label is, where its frame slot lies – changes the line of that node, and of the
line the one part that it speaks of (`Edit.revise`). The lines before and after
it stay as they are. There remains the one edit that does more to an outline,
which is to attach a child to a node of the tree.
-/

namespace SyntaxOutline

namespace Edit

/-- The node of which an edit says something other than who its children are. -/
def remarkedOn? : Edit → Option Handle
  | decorate node _ | clearDecoration node | setLabel node _ | setFrameOffset node _
  | clearFrameOffset node => some node
  | add _ | addOver _ _ | attach _ _ => none

/-- **The node that an edit is about**, if that is a node that was there before. -/
def subject? : Edit → Option Handle
  | attach parent _ => some parent
  | edit => edit.remarkedOn?

/-- **The line of the node that an edit speaks of**, with what the edit says of it. -/
def revise (arena : Arena) (line : Line) : Edit → Line
  | decorate _ target => { line with decoration := some (arena.numberOf target) }
  | clearDecoration _ => { line with decoration := none }
  | setLabel _ label => { line with label := label }
  | setFrameOffset _ offset => { line with address := some offset }
  | clearFrameOffset _ => { line with address := none }
  | add _ | addOver _ _ | attach _ _ => line

/-- Of a node that an edit is not about, the edit keeps all but the parent. -/
theorem Keeps.eq_of_subject?_ne {edit : Edit} {node : Handle} {before after : Node}
    (h : edit.Keeps node before after) (hother : edit.subject? ≠ some node) :
    after = { before with parent := after.parent } := by
  have hnumber := h.number_eq
  have hkind := h.kind_eq (fun _ heq => hother (heq ▸ rfl)) (fun heq => hother (heq ▸ rfl))
  have hchildren := h.children_eq fun _ heq => hother (heq ▸ rfl)
  have hdecoration :=
    h.decoration_eq (fun _ heq => hother (heq ▸ rfl)) (fun heq => hother (heq ▸ rfl))
  have hlabel := h.label_eq fun _ heq => hother (heq ▸ rfl)
  cases before
  cases after
  cases hnumber
  cases hkind
  cases hchildren
  cases hdecoration
  cases hlabel
  rfl

end Edit

namespace Arena

variable {arena changed : Arena} {handle root : Handle} {node : Node}

/-! ## Arenas that say the same of a node -/

/-- **Whether two arenas say the same of a node**, whose parent it may be excepted. -/
def SaysAlike (arena changed : Arena) (handle : Handle) : Prop :=
  ∃ before after, arena.node? handle = some before ∧ changed.node? handle = some after ∧
    after = { before with parent := after.parent }

/-- A view that does not look at the parent shows the same. -/
theorem SaysAlike.elim_node?_eq {α : Type} {default : α} {read : Node → α}
    (h : arena.SaysAlike changed handle)
    (hread : ∀ (node : Node) (parent : Option Handle),
      read { node with parent := parent } = read node) :
    (changed.node? handle).elim default read = (arena.node? handle).elim default read := by
  obtain ⟨before, after, hbefore, hafter, heq⟩ := h
  rw [hbefore, hafter, heq]
  exact hread before after.parent

theorem SaysAlike.childrenOf_eq (h : arena.SaysAlike changed handle) :
    changed.childrenOf handle = arena.childrenOf handle :=
  h.elim_node?_eq fun _ _ => rfl

theorem SaysAlike.decoration?_eq (h : arena.SaysAlike changed handle) :
    changed.decoration? handle = arena.decoration? handle :=
  h.elim_node?_eq fun _ _ => rfl

/-- **An edit changes nothing that is said of a node** but of the one that it is about. -/
theorem IsForest.saysAlike_apply (hforest : arena.IsForest) {edit : Edit} (h : handle ∈ arena)
    (hother : edit.subject? ≠ some handle) : arena.SaysAlike (arena.apply edit).2 handle := by
  obtain ⟨before, hbefore⟩ := exists_node? h
  obtain ⟨after, hafter, hkeeps⟩ := hforest.apply_keeps edit hbefore
  exact ⟨before, after, hbefore, hafter, hkeeps.eq_of_subject?_ne hother⟩

/-- The line of a node tells the same, if what decorates it has the number that it had. -/
theorem SaysAlike.lineOf_eq (h : arena.SaysAlike changed handle)
    (hnumber : ∀ target, arena.decoration? handle = some target →
      changed.numberOf target = arena.numberOf target) (heading : String) (depth : Nat) :
    changed.lineOf handle heading depth = arena.lineOf handle heading depth := by
  have hown : changed.numberOf handle = arena.numberOf handle := h.elim_node?_eq fun _ _ => rfl
  have hlabel : (changed.node? handle).elim "" Node.label
      = (arena.node? handle).elim "" Node.label := h.elim_node?_eq fun _ _ => rfl
  have haddress : (changed.node? handle).elim none (fun node => node.kind.frameOffset)
      = (arena.node? handle).elim none (fun node => node.kind.frameOffset) :=
    h.elim_node?_eq fun _ _ => rfl
  have hdecoration : (changed.decoration? handle).map changed.numberOf
      = (arena.decoration? handle).map arena.numberOf := by
    rw [h.decoration?_eq]
    exact Option.map_congr hnumber
  unfold lineOf
  rw [hown, hlabel, haddress, hdecoration]

/-! ## Trees that stay -/

namespace IsForest

/-- **A tree depends only on the children of its nodes.** -/
theorem tree_congr (hforest : arena.IsForest) (hchanged : changed.IsForest) (h : root ∈ arena)
    (hkeep : ∀ node ∈ (arena.tree root).preorder,
      node ∈ changed ∧ changed.childrenOf node = arena.childrenOf node) :
    changed.tree root = arena.tree root := by
  induction root, h using hforest.induction_down with
  | step root hmem ih =>
    obtain ⟨hroot, hchildren⟩ := hkeep root (hforest.mem_preorder_tree_self hmem)
    rw [hforest.tree_eq hmem, hchanged.tree_eq hroot, hchildren]
    refine congrArg (Tree.node root) (List.map_congr_left fun child hchild => ih child hchild ?_)
    exact fun node hnode => hkeep node (hforest.preorder_tree_subset hchild hnode)

/-- The lines of a tree, where headings and the shape of the tree have stayed. -/
theorem treeLines_of_extends (hforest : arena.IsForest) (hextends : arena.Extends changed)
    (h : root ∈ arena) (htree : changed.tree root = arena.tree root) (depth : Nat) :
    changed.treeLines root depth = ((arena.tree root).visits depth).map
      (fun visit => changed.lineOf visit.1 (arena.headingOf visit.1) visit.2) := by
  rw [treeLines, htree]
  refine List.map_congr_left (fun visit hvisit => ?_)
  rw [hextends.headingOf_eq (hforest.mem_of_mem_visits h hvisit)]

/-- A tally of a tree that has stayed counts the same, if the same nodes are decorated. -/
theorem tally_congr (hforest : arena.IsForest) (hchanged : changed.IsForest) (h : root ∈ arena)
    (hmem : root ∈ changed) (htree : changed.tree root = arena.tree root)
    (hdecoration : ∀ node ∈ (arena.tree root).preorder,
      changed.decoration? node = arena.decoration? node) :
    changed.tally root = arena.tally root := by
  have hcount :
      ((arena.tree root).visits 0).countP (fun visit => (changed.decoration? visit.1).isSome)
      = ((arena.tree root).visits 0).countP (fun visit => (arena.decoration? visit.1).isSome) := by
    refine List.countP_congr (fun visit hvisit => ?_)
    rw [hdecoration visit.1 (Tree.mem_preorder_of_mem_visits hvisit)]
  rw [hforest.tally_eq_ok h, hchanged.tally_eq_ok hmem, htree, tallied, tallied, hcount]

end IsForest

end Arena

namespace Printer

variable {arena changed : Arena} {root : Handle}

/-- **What is printed of a tree, and told of the printing, depends only on its lines.** -/
theorem printTree_congr (hforest : arena.IsForest) (hchanged : changed.IsForest)
    (h : root ∈ arena) (hmem : root ∈ changed)
    (hlines : changed.treeLines root 0 = arena.treeLines root 0) (threshold : Threshold)
    (printer : Printer) :
    printer.printTree threshold changed root = printer.printTree threshold arena root := by
  -- the first line tells the heading and the number of the root
  have hfirst : changed.lineOf root (changed.headingOf root) 0
      = arena.lineOf root (arena.headingOf root) 0 := by
    rw [hforest.treeLines_eq h, hchanged.treeLines_eq hmem] at hlines
    exact (List.cons.inj hlines).1
  have hheading : changed.headingOf root = arena.headingOf root := congrArg Line.heading hfirst
  have hnumber : changed.numberOf root = arena.numberOf root := congrArg Line.number hfirst
  have houtline : changed.outlineLines (arena.headingOf root) root
      = arena.outlineLines (arena.headingOf root) root := by
    unfold Arena.outlineLines
    rw [hlines, ← hfirst, hheading]
  rw [printTree, printTree, Arena.baseLabel_eq_ok h, Arena.baseLabel_eq_ok hmem, hheading]
  show printer.print threshold changed (arena.headingOf root) root
    = printer.print threshold arena (arena.headingOf root) root
  unfold print
  rw [Arena.number_eq_ok h, Arena.number_eq_ok hmem, hnumber, outline_eq hforest h,
    outline_eq hchanged hmem, houtline]

theorem render_congr (hforest : arena.IsForest) (hchanged : changed.IsForest)
    (h : root ∈ arena) (hmem : root ∈ changed)
    (hlines : changed.treeLines root 0 = arena.treeLines root 0) (threshold : Threshold) :
    changed.render threshold root = arena.render threshold root := by
  unfold Arena.render
  rw [printTree_congr hforest hchanged h hmem hlines]

end Printer

namespace Arena

variable {arena : Arena} {node : Handle}

/-! ## The line of the node -/

/-- A change at a node that keeps all numbers shows in its line. -/
theorem lineOf_modify_self {entry : Node} {change : Node → Node}
    (h : arena.node? node = some entry) (hchange : ∀ node, (change node).number = node.number)
    (heading : String) (depth : Nat) :
    (arena.modify node change).lineOf node heading depth
      = ⟨entry.number, depth, heading, (change entry).decoration.map arena.numberOf,
          (change entry).label, (change entry).kind.frameOffset⟩ := by
  have hentry : (arena.modify node change).node? node = some (change entry) := by
    rw [node?_modify, if_pos rfl, h]
    rfl
  have hnumber : (arena.modify node change).numberOf = arena.numberOf :=
    funext fun _ => elim_node?_modify hchange node _
  rw [lineOf_of_node? hentry, hnumber, hchange]

end Arena

namespace Deed

open Arena

variable {arena changed : Arena} {node : Handle}

theorem Leads.lineOf_of_decorate {target : Option Handle}
    (h : (Deed.decorate node target).Leads arena changed) (heading : String) (depth : Nat) :
    changed.lineOf node heading depth
      = { arena.lineOf node heading depth with decoration := target.map arena.numberOf } := by
  cases h with
  | decorate _ hnode =>
    obtain ⟨entry, hentry⟩ := exists_node? hnode
    refine (lineOf_modify_self hentry (fun _ => by rfl) heading depth).trans ?_
    rw [lineOf_of_node? hentry]

theorem Leads.lineOf_of_relabel {label : String}
    (h : (Deed.relabel node label).Leads arena changed) (heading : String) (depth : Nat) :
    changed.lineOf node heading depth
      = { arena.lineOf node heading depth with label := label } := by
  cases h with
  | relabel _ hnode =>
    obtain ⟨entry, hentry⟩ := exists_node? hnode
    refine (lineOf_modify_self hentry (fun _ => by rfl) heading depth).trans ?_
    rw [lineOf_of_node? hentry]

theorem Leads.lineOf_of_reoffset {offset : Option Nat}
    (h : (Deed.reoffset node offset).Leads arena changed) (heading : String) (depth : Nat) :
    changed.lineOf node heading depth
      = { arena.lineOf node heading depth with address := offset } := by
  cases h with
  | reoffset hentry hkind =>
    refine (lineOf_modify_self hentry (fun _ => by rfl) heading depth).trans ?_
    rw [lineOf_of_node? hentry, ← Kind.frameOffset_of_withFrameOffset? hkind]

end Deed

namespace Arena

variable {arena : Arena} {root node answer : Handle} {edit : Edit}

/-- An edit of one node that is carried out has made what was tried. -/
theorem settle_eq_ok {outcome : Except Fault Arena}
    (h : (arena.settle node outcome).1 = .ok answer) :
    outcome = .ok (arena.settle node outcome).2 := by
  cases outcome with
  | error fault => cases h
  | ok changed => rfl

/-- **The line of a node of which an edit speaks** is the one it was, but for what the edit says. -/
theorem lineOf_apply_of_remarkedOn? (h : (arena.apply edit).1 = .ok answer)
    (hnode : edit.remarkedOn? = some node) (heading : String) (depth : Nat) :
    (arena.apply edit).2.lineOf node heading depth
      = edit.revise arena (arena.lineOf node heading depth) := by
  cases edit with
  | add kind => cases hnode
  | addOver kind children => cases hnode
  | attach parent child => cases hnode
  | decorate other target =>
    cases hnode
    exact (leads_of_decorate (settle_eq_ok h)).lineOf_of_decorate heading depth
  | clearDecoration other =>
    cases hnode
    exact (leads_of_clearDecoration (settle_eq_ok h)).lineOf_of_decorate heading depth
  | setLabel other label =>
    cases hnode
    exact (leads_of_setLabel (settle_eq_ok h)).lineOf_of_relabel heading depth
  | setFrameOffset other offset =>
    cases hnode
    exact (leads_of_putFrameOffset (settle_eq_ok h)).lineOf_of_reoffset heading depth
  | clearFrameOffset other =>
    cases hnode
    exact (leads_of_putFrameOffset (settle_eq_ok h)).lineOf_of_reoffset heading depth

/-- The node of which an edit speaks is the one that it is about. -/
theorem subject?_of_remarkedOn? (h : edit.remarkedOn? = some node) :
    edit.subject? = some node := by
  cases edit with
  | attach parent child => cases h
  | _ => exact h

/-! ## The outline -/

/-- The line of a node that an edit is not about stays as it is. -/
theorem IsForest.lineOf_apply_eq (hforest : arena.IsForest) (h : node ∈ arena)
    (hother : edit.subject? ≠ some node) (heading : String) (depth : Nat) :
    (arena.apply edit).2.lineOf node heading depth = arena.lineOf node heading depth := by
  have hextends := (apply_leads edit arena).extends
  have hchanged := (apply_changes edit arena).isForest hforest
  refine (hforest.saysAlike_apply h hother).lineOf_eq (fun target htarget => ?_) heading depth
  exact hextends.numberOf_eq hforest hchanged (hforest.decoration_mem htarget)

/-- **An edit of which the tree holds no trace** leaves its lines as they are, and with them what is
rendered and tallied. -/
theorem IsForest.outline_apply_eq (hforest : arena.IsForest) (h : root ∈ arena)
    (hother : ∀ node ∈ (arena.tree root).preorder, edit.subject? ≠ some node) :
    (∀ threshold, (arena.apply edit).2.render threshold root = arena.render threshold root) ∧
      (arena.apply edit).2.tally root = arena.tally root ∧
      (arena.apply edit).2.subtreeSize root = arena.subtreeSize root := by
  have hextends := (apply_leads edit arena).extends
  have hchanged := (apply_changes edit arena).isForest hforest
  have hmem := hextends.mem h
  have halike : ∀ node ∈ (arena.tree root).preorder,
      arena.SaysAlike (arena.apply edit).2 node := fun node hnode =>
    hforest.saysAlike_apply (hforest.mem_of_mem_preorder_tree h hnode) (hother node hnode)
  have htree : (arena.apply edit).2.tree root = arena.tree root :=
    hforest.tree_congr hchanged h fun node hnode =>
      ⟨hextends.mem (hforest.mem_of_mem_preorder_tree h hnode), (halike node hnode).childrenOf_eq⟩
  have hlines : (arena.apply edit).2.treeLines root 0 = arena.treeLines root 0 := by
    rw [hforest.treeLines_of_extends hextends h htree, treeLines]
    refine List.map_congr_left (fun visit hvisit => ?_)
    exact hforest.lineOf_apply_eq (hforest.mem_of_mem_visits h hvisit)
      (hother visit.1 (Tree.mem_preorder_of_mem_visits hvisit)) _ _
  refine ⟨Printer.render_congr hforest hchanged h hmem hlines, ?_, ?_⟩
  · exact hforest.tally_congr hchanged h hmem htree fun node hnode =>
      (halike node hnode).decoration?_eq
  · rw [hforest.subtreeSize_eq_ok h, hchanged.subtreeSize_eq_ok hmem, htree]

/-- An edit that says something of a node but who its children are leaves every tree as it is. -/
theorem IsForest.tree_apply_eq (hforest : arena.IsForest) (h : root ∈ arena)
    (hremark : edit.remarkedOn? = some node) :
    (arena.apply edit).2.tree root = arena.tree root := by
  have hchanged := (apply_changes edit arena).isForest hforest
  refine hforest.tree_congr hchanged h (fun other hother => ?_)
  have hmem := hforest.mem_of_mem_preorder_tree h hother
  obtain ⟨entry, hentry⟩ := exists_node? hmem
  obtain ⟨_, hafter, hkeeps⟩ := hforest.apply_keeps edit hentry
  refine ⟨(apply_leads edit arena).extends.mem hmem, ?_⟩
  rw [childrenOf_of_node? hafter, childrenOf_of_node? hentry]
  refine hkeeps.children_eq (fun child hedit => ?_)
  rw [hedit] at hremark
  cases hremark

/-- **An edit that speaks of a node in the tree** revises the line of that node and no other. -/
theorem IsForest.treeLines_apply_eq (hforest : arena.IsForest) (h : root ∈ arena)
    (hnode : node ∈ (arena.tree root).preorder) (hremark : edit.remarkedOn? = some node)
    (hdone : (arena.apply edit).1 = .ok answer) :
    ∃ before depth after,
      arena.treeLines root 0
        = before ++ arena.lineOf node (arena.headingOf node) depth :: after ∧
      (arena.apply edit).2.treeLines root 0
        = before ++ edit.revise arena (arena.lineOf node (arena.headingOf node) depth) ::
          after := by
  have hextends := (apply_leads edit arena).extends
  have hsubject := subject?_of_remarkedOn? hremark
  have hlines := hforest.treeLines_of_extends hextends h (hforest.tree_apply_eq h hremark) 0
  have hnodup := hforest.nodup_preorder_tree h
  rw [← Tree.map_fst_visits 0] at hnode hnodup
  obtain ⟨⟨_, depth⟩, hvisit, rfl⟩ := List.mem_map.1 hnode
  obtain ⟨before, after, hsplit⟩ := List.append_of_mem hvisit
  rw [hsplit, List.map_append, List.map_cons] at hnodup hlines
  -- a line of another node stays
  have hsame : ∀ visit ∈ before ++ after,
      (arena.apply edit).2.lineOf visit.1 (arena.headingOf visit.1) visit.2
        = arena.lineOf visit.1 (arena.headingOf visit.1) visit.2 := by
    intro visit hother
    have hvisit : visit ∈ (arena.tree root).visits 0 := by
      rw [hsplit, List.mem_append, List.mem_cons]
      exact (List.mem_append.1 hother).imp_right Or.inr
    refine hforest.lineOf_apply_eq (hforest.mem_of_mem_visits h hvisit) (fun hsame => ?_) _ _
    have hne := (List.nodup_cons.1 (List.nodup_middle.1 hnodup)).1
    rw [hsubject] at hsame
    rw [Option.some.inj hsame, ← List.map_append] at hne
    exact hne (List.mem_map_of_mem hother)
  refine ⟨before.map fun visit => arena.lineOf visit.1 (arena.headingOf visit.1) visit.2, depth,
    after.map fun visit => arena.lineOf visit.1 (arena.headingOf visit.1) visit.2, ?_, ?_⟩
  · rw [treeLines, hsplit, List.map_append, List.map_cons]
  · rw [hlines, List.map_congr_left fun visit hin => hsame visit (List.mem_append_left _ hin),
      List.map_congr_left fun visit hin => hsame visit (List.mem_append_right _ hin),
      lineOf_apply_of_remarkedOn? hdone hremark]

/-- **An outline changes only where an edit speaks of its tree.** If an edit of a reachable arena is
refused, or is about a node that does not belong to the tree of the root – and an addition is about
none that was there –, then what is rendered, tallied and counted from the root is as it was. If the
edit says something of a node of the tree and is carried out, then the line of this node is revised
in what the edit says, and all other lines are as they were. What is rendered is these lines. -/
theorem outline_changes_locally (hreach : arena.Reachable) (h : root ∈ arena) (edit : Edit) :
    ((∃ fault, (arena.apply edit).1 = .error fault) ∨
        (∀ node, edit.subject? = some node → node ∉ arena.subtree root) →
      (∀ threshold, (arena.apply edit).2.render threshold root = arena.render threshold root) ∧
        (arena.apply edit).2.tally root = arena.tally root ∧
        (arena.apply edit).2.subtreeSize root = arena.subtreeSize root) ∧
    (∀ node answer, edit.remarkedOn? = some node → node ∈ arena.subtree root →
      (arena.apply edit).1 = .ok answer →
      ∃ before line after heading,
        arena.treeLines root 0 = before ++ line :: after ∧
        (arena.apply edit).2.treeLines root 0 = before ++ edit.revise arena line :: after ∧
        arena.baseLabel node = .ok heading ∧
        arena.line node heading line.depth = .ok line) ∧
    ∀ threshold,
      (arena.render threshold root).1 = .ok (unlines ((arena.treeLines root 0).map Line.text)) ∧
      ((arena.apply edit).2.render threshold root).1
        = .ok (unlines (((arena.apply edit).2.treeLines root 0).map Line.text)) := by
  have hforest := hreach.isForest
  have hchanged := (hreach.apply edit).isForest
  have hmem := (apply_leads edit arena).extends.mem h
  refine ⟨fun houtside => ?_, fun node answer hremark hnode hdone => ?_, fun threshold =>
    ⟨Printer.render_eq_treeLines hforest h threshold,
      Printer.render_eq_treeLines hchanged hmem threshold⟩⟩
  · obtain ⟨fault, hfault⟩ | hother := houtside
    · obtain ⟨-, hsame⟩ | ⟨kind, _, _, _, rfl, -⟩ := apply_eq_error hfault
      · rw [hsame]
        exact ⟨fun _ => rfl, rfl, rfl⟩
      · exact hforest.outline_apply_eq h fun _ _ => nofun
    · refine hforest.outline_apply_eq h fun node hnode hsubject => ?_
      exact hother node hsubject ((hforest.mem_subtree_iff h).2 hnode)
  · rw [hforest.mem_subtree_iff h] at hnode
    obtain ⟨before, depth, after, hbefore, hafter⟩ :=
      hforest.treeLines_apply_eq h hnode hremark hdone
    have hin := hforest.mem_of_mem_preorder_tree h hnode
    exact ⟨before, _, after, _, hbefore, hafter, baseLabel_eq_ok hin,
      hforest.line_eq_ok hin _ depth⟩

theorem outline_changes_locally_adorned :
    let captured := (Printer.adorned.apply (.addOver .block [⟨3, 2⟩, ⟨9, 0⟩])).2
    captured.ancestors ⟨3, 2⟩ = [⟨3, 2⟩, ⟨3, 3⟩] ∧
      (∀ threshold, captured.render threshold ⟨3, 2⟩ = Printer.adorned.render threshold ⟨3, 2⟩) ∧
      ∃ before line after, line.number = 2 ∧
        Printer.adorned.treeLines ⟨3, 2⟩ 0 = before ++ line :: after ∧
        (Printer.adorned.apply (.decorate ⟨3, 1⟩ ⟨3, 0⟩)).2.treeLines ⟨3, 2⟩ 0
          = before ++ { line with decoration := some 1 } :: after := by
  intro captured
  have hreach : Printer.adorned.Reachable := (Reachable.empty 3).applyAll _
  have hroot : (⟨3, 2⟩ : Handle) ∈ Printer.adorned := by decide
  have houtside := (outline_changes_locally hreach hroot (.addOver .block [⟨3, 2⟩, ⟨9, 0⟩])).1
    (Or.inl ⟨.unknownNode ⟨9, 0⟩, rfl⟩)
  have hbelow : (⟨3, 2⟩ : Handle) ∈ Printer.adorned.ancestors ⟨3, 1⟩ := by decide
  obtain ⟨-, hinside, -⟩ := outline_changes_locally hreach hroot (.decorate ⟨3, 1⟩ ⟨3, 0⟩)
  obtain ⟨before, line, after, heading, hbefore, hafter, -, hline⟩ :=
    hinside ⟨3, 1⟩ ⟨3, 1⟩ rfl hbelow rfl
  have hread : Printer.adorned.line ⟨3, 1⟩ heading line.depth
      = .ok ⟨2, line.depth, heading, none, "", none⟩ := by rfl
  refine ⟨by decide, houtside.1, before, line, after, ?_, hbefore, hafter⟩
  rw [← Except.ok.inj (hread.symm.trans hline)]

end Arena

end SyntaxOutline
