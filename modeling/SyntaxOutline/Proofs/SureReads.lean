import SyntaxOutline.Proofs.MachineLines
import SyntaxOutline.Proofs.Measures
import SyntaxOutline.Proofs.Strangers

/-!
# Sure reads

Many a read of an arena follows the handles that are stored there: a line
looks up the number of the decoration, a depth is the length of a way up, a
size, a tally and an outline are of all that stands below. One might fear for
such a read that it breaks off at a handle it has come upon by the way. It
does not, because a forest stores no handles but its own. So whether a read
succeeds is up to the handle that was asked about, and if it fails, then with
the fault that names this handle (`Arena.HingesOn`).

The same reason lets a program do without asking again. Where a handle is
known to belong to the arena, its entry may be taken straight from its
position. Below, the way up, the attachment and the decoration are carried
out like that, with no answer at all for a position that does not exist
(`Arena.entryAt?`). In a forest they always have an answer, and it is the one
that careful look-ups give.
-/

namespace SyntaxOutline

namespace Arena

variable {arena : Arena} {handle parent child node target : Handle}

/-! ## Reads that hinge on a handle -/

/-- **A read hinges on a handle** if it succeeds just if the handle belongs to the arena, and if
the one fault it can end with is the one that names the handle. -/
def HingesOn {α : Type} (arena : Arena) (handle : Handle) (read : Except Fault α) : Prop :=
  ((∃ result, read = .ok result) ↔ handle ∈ arena) ∧
    ∀ fault, read = .error fault → fault = .unknownNode handle

theorem hingesOn_of {α : Type} {read : Except Fault α}
    (hmem : handle ∈ arena → ∃ result, read = .ok result)
    (hnot : handle ∉ arena → read = .error (.unknownNode handle)) :
    arena.HingesOn handle read := by
  by_cases h : handle ∈ arena
  · obtain ⟨result, hresult⟩ := hmem h
    rw [hresult]
    exact ⟨⟨fun _ => h, fun _ => ⟨result, rfl⟩⟩, nofun⟩
  · rw [hnot h]
    refine ⟨⟨nofun, fun hin => absurd hin h⟩, fun fault hfault => ?_⟩
    exact (Except.error.inj hfault).symm

/-- **An arena answers for a handle** if all reads of it hinge on the handle, those included that
look at other nodes on their way. -/
structure AnswersFor (arena : Arena) (handle : Handle) : Prop where
  node : arena.HingesOn handle (arena.node handle)
  number : arena.HingesOn handle (arena.number handle)
  kind : arena.HingesOn handle (arena.kind handle)
  children : arena.HingesOn handle (arena.children handle)
  parent : arena.HingesOn handle (arena.parent handle)
  decoration : arena.HingesOn handle (arena.decoration handle)
  label : arena.HingesOn handle (arena.label handle)
  frameOffset : arena.HingesOn handle (arena.frameOffset handle)
  depth : arena.HingesOn handle (arena.depth handle)
  subtreeSize : arena.HingesOn handle (arena.subtreeSize handle)
  tally : arena.HingesOn handle (arena.tally handle)
  line : ∀ heading depth, arena.HingesOn handle (arena.line handle heading depth)
  /-- The line put together on a machine that has room for it. -/
  text : ∀ (machine : Machine) heading depth,
    (∀ line, arena.line handle heading depth = .ok line →
      machine.formatLine arena handle heading depth
        = if machine.Holds (machine.setOff line) then .ok (machine.setOff line).text
          else .error .overflow) ∧
    ∀ fault, arena.line handle heading depth = .error fault →
      machine.formatLine arena handle heading depth = .error (.fault fault)
  render : ∀ threshold, arena.HingesOn handle (arena.render threshold handle).1
  /-- The way up cannot fail; it is empty instead. -/
  ancestors : arena.ancestors handle = [] ↔ handle ∉ arena

/-- **A forest answers for every handle**, its own and those of others. -/
theorem IsForest.answersFor (hforest : arena.IsForest) (handle : Handle) :
    arena.AnswersFor handle := by
  -- what is read off the entry of a node
  have hread {α : Type} (read : Node → α) :
      arena.HingesOn handle ((arena.node handle).map read) := by
    refine hingesOn_of (fun h => ?_) (fun h => ?_)
    · obtain ⟨entry, hentry⟩ := exists_node? h
      rw [node_eq_ok_iff.2 hentry]
      exact ⟨read entry, rfl⟩
    · rw [node_of_not_mem h]
      rfl
  exact {
    node := hingesOn_of (fun h => (exists_node? h).imp fun _ => node_eq_ok_iff.2) node_of_not_mem
    number := hread _
    kind := hread _
    children := hread _
    parent := hread _
    decoration := hread _
    label := hread _
    frameOffset := hread _
    depth := hread _
    subtreeSize := hingesOn_of (fun h => ⟨_, hforest.subtreeSize_eq_ok h⟩)
      (fun h => (disowns_of_not_mem h).subtreeSize)
    tally := hingesOn_of (fun h => ⟨_, hforest.tally_eq_ok h⟩)
      (fun h => (disowns_of_not_mem h).tally)
    line := fun heading depth => hingesOn_of (fun h => ⟨_, hforest.line_eq_ok h heading depth⟩)
      (fun h => line_of_not_mem h heading depth)
    text := fun machine heading depth => by
      by_cases h : handle ∈ arena
      · rw [hforest.line_eq_ok h, hforest.formatLine_eq machine h]
        refine ⟨?_, nofun⟩
        rintro _ ⟨⟩
        rfl
      · rw [line_of_not_mem h, formatLine_of_not_mem machine h]
        refine ⟨nofun, ?_⟩
        rintro _ ⟨⟩
        rfl
    render := fun threshold => hingesOn_of (fun h => ⟨_, Printer.render_eq hforest h threshold⟩)
      (fun h => congrArg Prod.fst ((disowns_of_not_mem h).render threshold))
    ancestors := ancestors_eq_nil_iff
  }

/-! ## Reads by position -/

/-- **The entry at the position of a handle**, whichever arena has issued the handle. There is none
behind the last node. -/
def entryAt? (arena : Arena) (handle : Handle) : Option Node :=
  arena.nodes[handle.index]?

/-- Changes the entry at the position of a handle, which has to be there. -/
def changeAt? (handle : Handle) (change : Node → Node) (arena : Arena) : Option Arena :=
  if handle.index < arena.size then
    some { arena with nodes := arena.nodes.modify handle.index change }
  else
    none

theorem entryAt?_eq (h : handle ∈ arena) : arena.entryAt? handle = arena.node? handle :=
  (if_pos h.1).symm

theorem changeAt?_eq (h : handle ∈ arena) (change : Node → Node) :
    arena.changeAt? handle change = some (arena.modify handle change) := by
  rw [changeAt?, modify, if_pos h.1, if_pos h.2]

/-- The way up, each entry on it taken from its position. -/
def climbAt? (arena : Arena) : Nat → Handle → Option (List Handle)
  | 0, _ => some []
  | steps + 1, handle => do
    let entry ← arena.entryAt? handle
    match entry.parent with
    | some parent => return handle :: (← arena.climbAt? steps parent)
    | none => return [handle]

/-- The ancestors, after a look at the handle that the way up starts from. -/
def ancestorsAt? (arena : Arena) (handle : Handle) : Option (List Handle) :=
  if handle ∈ arena then arena.climbAt? arena.size handle else some []

/-- A link, made where child and parent stand. -/
def linkAt? (parent child : Handle) (arena : Arena) : Option Arena := do
  let owned ← arena.changeAt? child fun node => { node with parent := some parent }
  owned.changeAt? parent fun node => { node with children := node.children ++ [child] }

/-- **An attachment by position**: parent and child are looked up once, and from then on their
entries, and those on the way up from the parent, are taken from where they stand. The whole way up
is read, so no less than a search that ends where it finds the child. -/
def attachAt? (parent child : Handle) (arena : Arena) : Option (Except Fault Arena) :=
  if parent ∉ arena then some (.error (.unknownNode parent))
  else if child ∉ arena then some (.error (.unknownNode child))
  else do
    let entry ← arena.entryAt? child
    match entry.parent with
    | some owner => return .error (.alreadyAttached child owner)
    | none =>
      let above ← arena.ancestorsAt? parent
      if child ∈ above then return .error (.cycle parent child)
      return .ok (← arena.linkAt? parent child)

/-- **A decoration by position**, with what is told of it: node and target are looked up once, and
then their numbers are read, and the node is changed, where they stand. -/
def decorateAt? (node target : Handle) (arena : Arena) :
    Option (Except Fault (List Event × Arena)) :=
  if node ∉ arena then some (.error (.unknownNode node))
  else if target ∉ arena then some (.error (.unknownNode target))
  else do
    let entry ← arena.entryAt? node
    let other ← arena.entryAt? target
    let changed ← arena.changeAt? node fun entry => { entry with decoration := some target }
    return .ok ([.decorated entry.number other.number], changed)

/-- **A way up in a forest never leaves it**, however far it is followed. -/
theorem IsForest.climbAt?_eq (hforest : arena.IsForest) (h : handle ∈ arena) (steps : Nat) :
    arena.climbAt? steps handle = some (arena.climb steps handle) := by
  induction steps generalizing handle with
  | zero => rfl
  | succ steps ih =>
    obtain ⟨entry, hentry⟩ := exists_node? h
    rw [climbAt?, entryAt?_eq h, climb_succ, hentry, parent?_of_node? hentry]
    cases hparent : entry.parent with
    | none => simp [hparent]
    | some parent =>
      have hmem : parent ∈ arena :=
        hforest.parent_mem ((parent?_of_node? hentry).trans hparent)
      simp [hparent, ih hmem]

theorem IsForest.ancestorsAt?_eq (hforest : arena.IsForest) (handle : Handle) :
    arena.ancestorsAt? handle = some (arena.ancestors handle) := by
  unfold ancestorsAt? ancestors
  split_ifs with h
  · exact hforest.climbAt?_eq h arena.size
  · rfl

theorem linkAt?_eq (hparent : parent ∈ arena) (hchild : child ∈ arena) :
    arena.linkAt? parent child = some (arena.link parent child) := by
  rw [linkAt?, changeAt?_eq hchild]
  show changeAt? parent _ (arena.modify child _) = _
  rw [changeAt?_eq (mem_modify_iff.2 hparent)]
  rfl

theorem IsForest.attachAt?_eq (hforest : arena.IsForest) (parent child : Handle) :
    arena.attachAt? parent child = some (arena.attach parent child) := by
  rw [attachAt?, attach]
  by_cases hparent : parent ∈ arena
  · obtain ⟨above, habove⟩ := exists_node? hparent
    rw [if_neg (not_not.2 hparent), node_eq_ok_iff.2 habove]
    by_cases hchild : child ∈ arena
    · obtain ⟨entry, hentry⟩ := exists_node? hchild
      rw [if_neg (not_not.2 hchild), node_eq_ok_iff.2 hentry, entryAt?_eq hchild, hentry,
        hforest.ancestorsAt?_eq]
      simp only [bind, Option.bind, Except.bind, linkAt?_eq hparent hchild]
      cases entry.parent with
      | some owner => rfl
      | none => split_ifs <;> rfl
    · rw [if_pos hchild, node_of_not_mem hchild]
      rfl
  · rw [if_pos hparent, node_of_not_mem hparent]
    rfl

theorem decorateAt?_eq (arena : Arena) (node target : Handle) :
    arena.decorateAt? node target
      = some ((arena.decorate node target).map fun changed =>
          (arena.events (.decorate node target), changed)) := by
  rw [decorateAt?, decorate, events]
  by_cases hnode : node ∈ arena
  · obtain ⟨entry, hentry⟩ := exists_node? hnode
    rw [if_neg (not_not.2 hnode), node_eq_ok_iff.2 hentry]
    by_cases htarget : target ∈ arena
    · obtain ⟨other, hother⟩ := exists_node? htarget
      rw [if_neg (not_not.2 htarget), node_eq_ok_iff.2 hother, entryAt?_eq hnode,
        entryAt?_eq htarget, changeAt?_eq hnode, hentry, hother]
      rfl
    · rw [if_pos htarget, node_of_not_mem htarget]
      rfl
  · rw [if_pos hnode, node_of_not_mem hnode]
    rfl

/-- **Reads of a reachable arena hinge on the handle asked about**, and no position is read that does
not exist. Of any handle, whatever its tag and its index, each read succeeds just if the arena has
the handle, and otherwise ends with the fault that names this handle; only the text of a line may be
too long for a machine, which then does not come to an answer. The way up from a handle is empty
just if the arena does not have it. Followed from a node of the arena for any number of steps, the
way up can be read position by position; and the ancestors of any handle, an attachment of any two
and a decoration of any two, told of included, have answers when entries are read and changed where
they stand, and these are the answers that they have otherwise. -/
theorem reads_hinge_on_handle (hreach : arena.Reachable) :
    (∀ handle, arena.AnswersFor handle) ∧
      (∀ handle ∈ arena, ∀ steps,
        arena.climbAt? steps handle = some (arena.climb steps handle)) ∧
      (∀ handle, arena.ancestorsAt? handle = some (arena.ancestors handle)) ∧
      (∀ parent child, arena.attachAt? parent child = some (arena.attach parent child)) ∧
      ∀ node target, arena.decorateAt? node target
        = some ((arena.decorate node target).map fun changed =>
            (arena.events (.decorate node target), changed)) := by
  have hforest := hreach.isForest
  exact ⟨hforest.answersFor, fun handle hmem => hforest.climbAt?_eq hmem,
    hforest.ancestorsAt?_eq, hforest.attachAt?_eq, decorateAt?_eq arena⟩

theorem reads_hinge_on_handle_adorned :
    Printer.adorned.AnswersFor ⟨3, 2⟩ ∧ Printer.adorned.AnswersFor ⟨3, 7⟩ ∧
      Printer.adorned.AnswersFor ⟨4, 0⟩ ∧
      octet.formatLine Printer.adorned ⟨3, 2⟩ "Root" 1 = .ok "3:    Root  Label: top" ∧
      octet.formatLine Printer.adorned ⟨3, 2⟩ "Root" 64 = .error .overflow ∧
      Printer.adorned.attachAt? ⟨3, 0⟩ ⟨3, 2⟩ = some (.error (.cycle ⟨3, 0⟩ ⟨3, 2⟩)) ∧
      Printer.adorned.attachAt? ⟨3, 0⟩ ⟨4, 2⟩ = some (.error (.unknownNode ⟨4, 2⟩)) := by
  have hreach : Printer.adorned.Reachable := (Reachable.empty 3).applyAll _
  obtain ⟨hanswers, -, -, hattach, -⟩ := reads_hinge_on_handle hreach
  have htext (depth : Nat) := ((hanswers ⟨3, 2⟩).text octet "Root" depth).1 _ rfl
  refine ⟨hanswers _, hanswers _, hanswers _, (htext 1).trans (if_pos (by decide +kernel)),
    (htext 64).trans (if_neg (by decide +kernel)), ?_, ?_⟩
  · rw [hattach]
    rfl
  · rw [hattach]
    rfl

end Arena

end SyntaxOutline
