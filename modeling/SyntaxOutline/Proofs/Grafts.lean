import SyntaxOutline.Proofs.Stretches
import SyntaxOutline.Proofs.Verdicts

/-!
# What an attachment puts into an outline

An attachment is the one edit that does more to an outline than to revise a
line. It makes the tree of the child the last branch of the parent
(`visits_link_parent`), and so a walk that comes through the tree of the
parent goes on through the tree of the child before it leaves for what comes
next. In the outline of every node above the parent one block of lines is new,
and it stands where the lines of the parent's tree ended.

Beside that block nothing is new, since the parent alone has got another child
(`exists_visits_link`). The tree of the child is what it was, as the parent
does not belong to it. And the lines themselves tell neither parents nor
children, so they are read before and after with the same result.
-/

namespace SyntaxOutline

namespace Arena

variable {arena : Arena} {parent child node root : Handle}

/-! ## Walks after a link -/

section Link

variable (hforest : arena.IsForest) (hcan : arena.CanAttach parent child)

include hforest hcan

/-- Of children, a link changes those of the parent alone. -/
theorem sameBut_link (h : root ∈ arena) :
    arena.SameBut (arena.link parent child) parent root := by
  intro node hnode
  refine ⟨mem_link_iff.2 (hforest.mem_of_mem_preorder_tree h hnode), fun hne => ?_⟩
  rw [childrenOf_link hcan.parent_mem, if_neg hne]

/-- A tree to which the parent does not belong stays as it is. -/
theorem tree_link_of_not_mem (h : root ∈ arena) (hout : parent ∉ (arena.tree root).preorder) :
    (arena.link parent child).tree root = arena.tree root :=
  (sameBut_link hforest hcan h).tree_eq hforest (hforest.link hcan) h hout

/-- The tree of the child is one of those. -/
theorem tree_link_child : (arena.link parent child).tree child = arena.tree child := by
  refine tree_link_of_not_mem hforest hcan hcan.child_mem fun hbelow => hcan.not_above ?_
  exact (hforest.mem_preorder_tree_iff_mem_ancestors hcan.child_mem).1 hbelow

/-- **The tree of the child becomes the last branch of the parent.** -/
theorem visits_link_parent (depth : Nat) :
    ((arena.link parent child).tree parent).visits depth
      = (arena.tree parent).visits depth ++ (arena.tree child).visits (depth + 1) := by
  have hbranches : ∀ branch ∈ arena.childrenOf parent,
      (arena.link parent child).tree branch = arena.tree branch := by
    intro branch hbranch
    refine tree_link_of_not_mem hforest hcan (hforest.child_mem hbranch) fun hbelow => ?_
    have hway := (hforest.mem_preorder_tree_iff (hforest.child_mem hbranch)).1 hbelow
    exact hforest.acyclic parent
      (Relation.TransGen.tail' hway (hforest.mem_childrenOf_iff.1 hbranch))
  rw [(hforest.link hcan).visits_tree_eq (mem_link_iff.2 hcan.parent_mem),
    childrenOf_link hcan.parent_mem, if_pos rfl, List.flatMap_append, List.flatMap_singleton,
    tree_link_child hforest hcan, hforest.visits_tree_eq hcan.parent_mem, List.cons_append,
    List.flatMap_congr fun branch hbranch =>
      congrArg (Tree.visits (depth + 1)) (hbranches branch hbranch)]

/-- **A link puts one stretch into a walk that comes by the parent**, after the tree that the parent
had, and changes nothing else in it. -/
theorem exists_visits_link (h : root ∈ arena) (hparent : parent ∈ (arena.tree root).preorder)
    (depth : Nat) :
    ∃ before after,
      (arena.tree root).visits depth = before ++
        (arena.tree parent).visits (depth + (arena.level parent - arena.level root)) ++ after ∧
      ((arena.link parent child).tree root).visits depth = before ++
        (arena.tree parent).visits (depth + (arena.level parent - arena.level root)) ++
        (arena.tree child).visits (depth + (arena.level parent - arena.level root) + 1) ++
        after := by
  obtain ⟨before, after, hbefore, hafter, -⟩ := hforest.exists_visits_eq (hforest.link hcan) h
    hparent (sameBut_link hforest hcan h) depth
  rw [visits_link_parent hforest hcan, ← List.append_assoc] at hafter
  exact ⟨before, after, hbefore, hafter⟩

end Link

/-! ## Lines after a link -/

theorem headingOf_link (parent child handle : Handle) :
    (arena.link parent child).headingOf handle = arena.headingOf handle :=
  elim_node?_link (fun _ _ _ => rfl) parent child handle

theorem numberOf_link (parent child handle : Handle) :
    (arena.link parent child).numberOf handle = arena.numberOf handle :=
  elim_node?_link (fun _ _ _ => rfl) parent child handle

/-- The line of a node tells neither parents nor children. -/
theorem lineOf_link (parent child handle : Handle) (heading : String) (depth : Nat) :
    (arena.link parent child).lineOf handle heading depth = arena.lineOf handle heading depth := by
  have hlabel : ((arena.link parent child).node? handle).elim "" Node.label
      = (arena.node? handle).elim "" Node.label := elim_node?_link (fun _ _ _ => rfl) _ _ _
  have haddress : ((arena.link parent child).node? handle).elim none
        (fun node => node.kind.frameOffset)
      = (arena.node? handle).elim none (fun node => node.kind.frameOffset) :=
    elim_node?_link (fun _ _ _ => rfl) _ _ _
  unfold lineOf
  rw [numberOf_link, decoration?_link, hlabel, haddress, funext (numberOf_link parent child)]

/-- The lines after a link are told of the same nodes as before, on another walk. -/
theorem treeLines_link (parent child root : Handle) (depth : Nat) :
    (arena.link parent child).treeLines root depth
      = (((arena.link parent child).tree root).visits depth).map
        (fun visit => arena.lineOf visit.1 (arena.headingOf visit.1) visit.2) := by
  rw [treeLines]
  refine List.map_congr_left fun visit _ => ?_
  rw [lineOf_link, headingOf_link]

section Link

variable (hforest : arena.IsForest) (hcan : arena.CanAttach parent child)

include hforest hcan

/-- **A link puts the lines of the child's tree between the lines of a tree**, where those of the
parent's tree end. -/
theorem exists_treeLines_link (h : root ∈ arena) (hparent : parent ∈ (arena.tree root).preorder)
    (depth : Nat) :
    ∃ front after,
      front.length
        = (arena.tree root).preorder.idxOf parent + (arena.tree parent).preorder.length ∧
      arena.treeLines root depth = front ++ after ∧
      (arena.link parent child).treeLines root depth = front ++
        arena.treeLines child (depth + (arena.level parent - arena.level root) + 1) ++ after := by
  obtain ⟨before, after, hbefore, hafter⟩ := exists_visits_link hforest hcan h hparent depth
  let lineAt : Handle × Nat → Line := fun visit =>
    arena.lineOf visit.1 (arena.headingOf visit.1) visit.2
  refine ⟨(before ++ (arena.tree parent).visits
    (depth + (arena.level parent - arena.level root))).map lineAt, after.map lineAt, ?_, ?_, ?_⟩
  · rw [List.length_map, List.length_append, Tree.length_visits,
      hforest.idxOf_of_visits_eq h hcan.parent_mem hbefore]
  · rw [treeLines, hbefore, List.map_append]
  · rw [treeLines_link, hafter, List.map_append, List.map_append, treeLines]

/-- An outline differs from that in its first line only, which stays the first. -/
theorem outlineLines_link (h : root ∈ arena) (hparent : parent ∈ (arena.tree root).preorder)
    (heading : String) {place : Nat}
    (hplace : (arena.tree root).preorder.idxOf parent + (arena.tree parent).preorder.length
      = place) :
    (arena.link parent child).outlineLines heading root
      = (arena.outlineLines heading root).take place
        ++ arena.treeLines child (arena.level parent - arena.level root + 1)
        ++ (arena.outlineLines heading root).drop place := by
  obtain ⟨front, after, hlength, hbefore, hafter⟩ :=
    exists_treeLines_link hforest hcan h hparent 0
  rw [hplace] at hlength
  cases front with
  | nil =>
    rw [hforest.preorder_tree_eq hcan.parent_mem, List.length_cons] at hplace
    cases hplace.trans hlength.symm
  | cons first front =>
    have hold : arena.outlineLines heading root
        = arena.lineOf root heading 0 :: front ++ after := by
      rw [outlineLines, hbefore]
      rfl
    have hnew : (arena.link parent child).outlineLines heading root
        = arena.lineOf root heading 0 :: front
          ++ arena.treeLines child (arena.level parent - arena.level root + 1) ++ after := by
      rw [outlineLines, hafter, lineOf_link, Nat.zero_add]
      rfl
    have hfront : (arena.lineOf root heading 0 :: front).length = place := hlength
    rw [hnew, hold, List.take_left' hfront, List.drop_left' hfront]

end Link

/-- An attachment that is carried out makes a link. -/
theorem apply_attach_eq_link {answer : Handle}
    (h : (arena.apply (.attach parent child)).1 = .ok answer) :
    arena.CanAttach parent child ∧
      (arena.apply (.attach parent child)).2 = arena.link parent child :=
  attach_eq_ok_iff.1 (settle_eq_ok h)

/-- What a print writes is an outline under some heading, before a link and after it. -/
theorem IsForest.exists_lines_eq (hforest : arena.IsForest) (hcan : arena.CanAttach parent child)
    (h : root ∈ arena) {job : Job} (hroot : job.handle = root) (hprints : job.flushes = true) :
    ∃ heading, job.lines arena = arena.outlineLines heading root ∧
      job.lines (arena.link parent child)
        = (arena.link parent child).outlineLines heading root := by
  have hlink : root ∈ arena.link parent child := mem_link_iff.2 h
  have hlines : job.lines arena = job.ownLines arena := if_pos (hroot ▸ h)
  have hchanged : job.lines (arena.link parent child) = job.ownLines (arena.link parent child) :=
    if_pos (hroot ▸ hlink)
  rw [hlines, hchanged]
  cases job with
  | print heading other =>
    cases hroot
    exact ⟨heading, rfl, rfl⟩
  | printTree other =>
    cases hroot
    refine ⟨arena.headingOf other, hforest.treeLines_eq h 0, ?_⟩
    refine ((hforest.link hcan).treeLines_eq hlink 0).trans ?_
    rw [headingOf_link]
    rfl
  | visit node depth => cases hprints
  | walk node depth => cases hprints

/-- A number says where its node stands in the arena. -/
theorem IsForest.numberOf_eq (hforest : arena.IsForest) (h : node ∈ arena) :
    arena.numberOf node = node.index + 1 := by
  obtain ⟨entry, hentry⟩ := exists_node? h
  rw [numberOf, hentry]
  exact hforest.number_eq hentry

/-- The numbers on a walk through a tree are distinct. -/
theorem IsForest.nodup_map_numberOf (hforest : arena.IsForest) (h : root ∈ arena) :
    ((arena.tree root).preorder.map arena.numberOf).Nodup := by
  refine List.Nodup.map_on (fun node hnode other hother hsame => ?_)
    (hforest.nodup_preorder_tree h)
  have hnode := hforest.mem_of_mem_preorder_tree h hnode
  have hother := hforest.mem_of_mem_preorder_tree h hother
  rw [hforest.numberOf_eq hnode, hforest.numberOf_eq hother] at hsame
  have htag : node.tag = other.tag := (mem_iff.1 hnode).1.trans (mem_iff.1 hother).1.symm
  cases node
  cases other
  cases htag
  cases Nat.succ.inj hsame
  rfl

/-- **An attachment puts one block of lines into an outline.** Once a child is attached, each print
of a node above the parent has the lines that it had, and after the last line of the parent's tree
it has the lines of the child's tree, set off so far that the child comes one level below the
parent. The place is found by the line that bears the number of the parent: it lies as many lines
behind as the tree of the parent has had nodes. A job writes its lines, one by one, before the
attachment and after it, and a sink that takes everything has got their bytes. -/
theorem attach_inserts_block (hreach : arena.Reachable) {answer : Handle}
    (hdone : (arena.apply (.attach parent child)).1 = .ok answer) (h : root ∈ arena)
    (hparent : parent ∈ arena.subtree root) :
    ∃ number size deep top,
      arena.number parent = .ok number ∧ arena.subtreeSize parent = .ok size ∧
      arena.depth parent = .ok deep ∧ arena.depth root = .ok top ∧ top ≤ deep ∧
      (∀ job : Job, job.handle = root → job.flushes = true →
        ((job.lines arena).map Line.number).Nodup ∧
        ∃ place, ((job.lines arena).map Line.number)[place]? = some number ∧
          (((job.lines arena).drop place).take size).map Line.number
            = ((Job.visit parent (deep - top)).lines arena).map Line.number ∧
          job.lines (arena.apply (.attach parent child)).2
            = (job.lines arena).take (place + size)
              ++ (Job.visit child (deep - top + 1)).lines arena
              ++ (job.lines arena).drop (place + size)) ∧
      (Job.visit child (deep - top + 1)).lines (arena.apply (.attach parent child)).2
        = (Job.visit child (deep - top + 1)).lines arena ∧
      ∀ state ∈ [arena, (arena.apply (.attach parent child)).2], ∀ job : Job, job.handle ∈ arena →
        ∀ threshold (printer : Printer),
          ((printer.run threshold state job).outcome, (printer.run threshold state job).printer)
            = Printer.conclude ((do
                Printer.writeLines (job.lines state)
                if job.flushes then Printer.flush) printer) ∧
          (printer.sink.TakesAll →
            (printer.run threshold state job).outcome = .ok () ∧
            (printer.run threshold state job).printer.sink.contents
              = printer.sink.contents ++ Line.bytes (job.lines state) ∧
            (printer.run threshold state job).printer.lines
              = printer.lines + (job.lines state).length ∧
            (printer.run threshold state job).printer.sink.flushes
              = printer.sink.flushes + if job.flushes then 1 else 0) := by
  have hforest := hreach.isForest
  obtain ⟨hcan, hchanged⟩ := apply_attach_eq_link hdone
  rw [hforest.mem_subtree_iff h] at hparent
  rw [hchanged]
  have hblock (state : Arena) (hmem : child ∈ state) (depth : Nat) :
      (Job.visit child depth).lines state = state.treeLines child depth := if_pos hmem
  have hown : (Job.visit parent (arena.level parent - arena.level root)).lines arena
      = arena.treeLines parent (arena.level parent - arena.level root) := if_pos hcan.parent_mem
  refine ⟨_, _, _, _, number_eq_ok hcan.parent_mem, hforest.subtreeSize_eq_ok hcan.parent_mem,
    depth_eq_ok hcan.parent_mem, depth_eq_ok h,
    hforest.level_le_of_mem_preorder_tree h hparent,
    fun job hroot hprints => ?_, ?_, fun state hstate job hmem threshold printer => ?_⟩
  · obtain ⟨heading, hbefore, hafter⟩ := hforest.exists_lines_eq hcan h hroot hprints
    have hnumbers := hforest.map_number_outlineLines h heading
    rw [hbefore, hafter, hblock arena hcan.child_mem, hown, hnumbers]
    refine ⟨hforest.nodup_map_numberOf h, (arena.tree root).preorder.idxOf parent, ?_, ?_,
      outlineLines_link hforest hcan h hparent heading rfl⟩
    · rw [List.getElem?_map, List.getElem?_idxOf hparent]
      rfl
    · rw [List.map_take, List.map_drop, hnumbers, ← List.map_drop, ← List.map_take,
        hforest.take_drop_preorder_tree h hparent, map_number_treeLines]
  · rw [hblock _ (mem_link_iff.2 hcan.child_mem), hblock arena hcan.child_mem, treeLines_link,
      tree_link_child hforest hcan]
    rfl
  · have hboth : state.IsForest ∧ job.handle ∈ state := by
      obtain rfl | hlink := List.mem_cons.1 hstate
      · exact ⟨hforest, hmem⟩
      · rw [List.mem_singleton.1 hlink]
        exact ⟨hforest.link hcan, mem_link_iff.2 hmem⟩
    refine ⟨?_, fun htakes => Printer.run_of_takesAll htakes hboth.1 job hboth.2 threshold⟩
    rw [Printer.run_eq hboth.1 job hboth.2, Job.script, Job.lines, if_pos hboth.2]

/-- A block over a statement and a literal, where the statement is over a literal as well, and a
program over a literal, which stands beside it. -/
def stock : Arena :=
  (empty 7).applyAll [.add (.int ⟨"1"⟩), .addOver .returnStmt [⟨7, 0⟩], .add (.int ⟨"2"⟩),
    .addOver .block [⟨7, 1⟩, ⟨7, 2⟩], .add (.int ⟨"3"⟩), .addOver .program [⟨7, 4⟩]]

/-- The program comes under the statement, and its lines before that of the literal beside. -/
theorem attach_inserts_block_stock :
    (stock.apply (.attach ⟨7, 1⟩ ⟨7, 5⟩)).1 = .ok ⟨7, 1⟩ ∧
      ((Job.printTree ⟨7, 3⟩).lines stock).map (fun line => (line.number, line.depth))
        = [(4, 0), (2, 1), (1, 2), (3, 1)] ∧
      ((Job.printTree ⟨7, 3⟩).lines (stock.apply (.attach ⟨7, 1⟩ ⟨7, 5⟩)).2).map
          (fun line => (line.number, line.depth))
        = [(4, 0), (2, 1), (1, 2), (6, 2), (5, 3), (3, 1)] := by
  have hreach : stock.Reachable := (Reachable.empty 7).applyAll _
  have hdone : (stock.apply (.attach ⟨7, 1⟩ ⟨7, 5⟩)).1 = .ok ⟨7, 1⟩ := by rfl
  have hparent : (⟨7, 3⟩ : Handle) ∈ stock.ancestors ⟨7, 1⟩ := by decide
  have hlines : (Job.printTree ⟨7, 3⟩).lines stock
      = [⟨4, 0, "Block", none, "", none⟩, ⟨2, 1, "Return", none, "", none⟩,
          ⟨1, 2, "Int: 1", none, "", none⟩, ⟨3, 1, "Int: 2", none, "", none⟩] := by
    decide +kernel
  have hblock : (Job.visit ⟨7, 5⟩ 2).lines stock
      = [⟨6, 2, "Program", none, "", none⟩, ⟨5, 3, "Int: 3", none, "", none⟩] := by
    decide +kernel
  obtain ⟨number, size, deep, top, hnumber, hsize, hdeep, htop, -, hprints, -⟩ :=
    attach_inserts_block hreach hdone (by decide) hparent
  cases (show stock.number ⟨7, 1⟩ = .ok 2 by rfl).symm.trans hnumber
  cases (show stock.subtreeSize ⟨7, 1⟩ = .ok 2 by rfl).symm.trans hsize
  cases (show stock.depth ⟨7, 1⟩ = .ok 1 by rfl).symm.trans hdeep
  cases (show stock.depth ⟨7, 3⟩ = .ok 0 by rfl).symm.trans htop
  obtain ⟨hnodup, place, hplace, -, hinserted⟩ := hprints (.printTree ⟨7, 3⟩) rfl rfl
  rw [hlines] at hnodup hplace hinserted ⊢
  -- the statement has the second line
  have hsecond : 1 = place := (List.getElem?_inj (by decide) hnodup).1 hplace.symm
  rw [hinserted, hblock, ← hsecond]
  exact ⟨hdone, rfl, rfl⟩

end Arena

end SyntaxOutline
