import SyntaxOutline.Proofs.JobLines
import SyntaxOutline.Proofs.Reachable

/-!
# Strangers

A handle that does not belong to an arena is a **stranger** there, be it that
another arena has issued it or that no node has its position yet. An arena
looks a handle up before it does anything else with it. So whatever it is
asked about a stranger, it answers with the fault that names the stranger; and
an edit that relies on one is refused with the same fault and leaves the arena
as it was (`Arena.Disowns`). Of several nodes that an edit relies on, it is
the first stranger that is named (`Arena.apply_of_stranger?_needs`).

An addition with children is the exception among the edits, because its node
is there before the first child is looked at. What holds of it is less: it is
not carried out, and a handle of another tag does not come into the arena by
it. It could not stay there either, for a forest stores no handles but its own
(`Arena.IsForest.mem_of_stores`).
-/

namespace SyntaxOutline

/-- The nodes that an edit relies on, in the order in which they are looked up. An addition relies
on none, not even with children, since it has added its node before it looks at them. -/
def Edit.needs : Edit → List Handle
  | .add _ | .addOver _ _ => []
  | .attach parent child => [parent, child]
  | .decorate node target => [node, target]
  | .clearDecoration node | .setLabel node _ | .setFrameOffset node _ | .clearFrameOffset node =>
    [node]

namespace Arena

variable {arena : Arena} {handle : Handle}

/-! ## Edits that rely on a stranger -/

/-- The first stranger on a list of handles. -/
def stranger? (arena : Arena) (handles : List Handle) : Option Handle :=
  handles.find? fun handle => decide (handle ∉ arena)

theorem not_mem_of_stranger? {handles : List Handle} (h : arena.stranger? handles = some handle) :
    handle ∉ arena := by
  have hfound := List.find?_some h
  exact of_decide_eq_true hfound

/-- A stranger that stands on a list with nodes of the arena is the first on it. -/
theorem stranger?_eq_some {handles : List Handle} (hmem : handle ∈ handles) (h : handle ∉ arena)
    (hothers : ∀ other ∈ handles, other = handle ∨ other ∈ arena) :
    arena.stranger? handles = some handle := by
  obtain ⟨first, hfirst⟩ : ∃ first, arena.stranger? handles = some first := by
    refine Option.isSome_iff_exists.1 (List.find?_isSome.2 ⟨handle, hmem, ?_⟩)
    exact decide_eq_true h
  rw [hfirst, (hothers first (List.mem_of_find?_eq_some hfirst)).resolve_right
    (not_mem_of_stranger? hfirst)]

theorem eq_of_stranger?_singleton {node : Handle} (h : arena.stranger? [node] = some handle) :
    handle = node :=
  List.mem_singleton.1 (List.mem_of_find?_eq_some h)

/-- What looks a node up fails if the node is a stranger. -/
theorem node_bind_of_stranger? {α : Type} {node : Handle} {rest : Node → Except Fault α}
    (h : arena.stranger? [node] = some handle) :
    (arena.node node >>= rest) = .error (.unknownNode handle) := by
  have hnode := not_mem_of_stranger? h
  rw [eq_of_stranger?_singleton h] at hnode ⊢
  rw [node_of_not_mem hnode]
  rfl

/-- What looks two nodes up fails at the first stranger of the two. -/
theorem node_bind_node_of_stranger? {α : Type} {first second : Handle}
    {rest : Node → Node → Except Fault α} (h : arena.stranger? [first, second] = some handle) :
    (arena.node first >>= fun entry => arena.node second >>= rest entry)
      = .error (.unknownNode handle) := by
  unfold stranger? at h
  by_cases hfirst : first ∈ arena
  · rw [List.find?_cons_of_neg (by simpa using hfirst)] at h
    obtain ⟨entry, hentry⟩ := exists_node? hfirst
    rw [node_eq_ok_iff.2 hentry]
    exact node_bind_of_stranger? h
  · rw [List.find?_cons_of_pos (by simpa using hfirst)] at h
    cases h
    rw [node_of_not_mem hfirst]
    rfl

/-- **An edit that relies on strangers is refused for the first of them**, and the arena stays as it
was. -/
theorem apply_of_stranger?_needs {edit : Edit} (h : arena.stranger? edit.needs = some handle) :
    arena.apply edit = (.error (.unknownNode handle), arena) := by
  -- a fault settles an edit
  have hsettle {node : Handle} {outcome : Except Fault Arena}
      (houtcome : outcome = .error (.unknownNode handle)) :
      arena.settle node outcome = (.error (.unknownNode handle), arena) := by
    rw [houtcome]
    rfl
  cases edit with
  | add kind => cases h
  | addOver kind children => cases h
  | attach parent child => exact hsettle (node_bind_node_of_stranger? h)
  | decorate node target => exact hsettle (node_bind_node_of_stranger? h)
  | clearDecoration node => exact hsettle (node_bind_of_stranger? h)
  | setLabel node label => exact hsettle (node_bind_of_stranger? h)
  | setFrameOffset node offset => exact hsettle (node_bind_of_stranger? h)
  | clearFrameOffset node => exact hsettle (node_bind_of_stranger? h)

/-! ## Nothing is known of a stranger -/

/-- **An arena disowns a handle** if it refuses everything that is asked about it or relies on it,
with the fault that names the handle, and stays as it is. The way up from the handle is empty, and
nothing is written. -/
structure Disowns (arena : Arena) (handle : Handle) : Prop where
  not_mem : handle ∉ arena
  node : arena.node handle = .error (.unknownNode handle)
  number : arena.number handle = .error (.unknownNode handle)
  kind : arena.kind handle = .error (.unknownNode handle)
  children : arena.children handle = .error (.unknownNode handle)
  parent : arena.parent handle = .error (.unknownNode handle)
  decoration : arena.decoration handle = .error (.unknownNode handle)
  label : arena.label handle = .error (.unknownNode handle)
  frameOffset : arena.frameOffset handle = .error (.unknownNode handle)
  ancestors : arena.ancestors handle = []
  depth : arena.depth handle = .error (.unknownNode handle)
  subtreeSize : arena.subtreeSize handle = .error (.unknownNode handle)
  tally : arena.tally handle = .error (.unknownNode handle)
  /-- A visit that carries a tally on has counted the handle before it fails. -/
  tallyEach : ∀ depth rest tally, arena.tallyEach ((handle, depth) :: rest) tally
    = (.error (.unknownNode handle), tally.enter depth)
  walkChildren : ∀ {σ : Type} (visit : Act σ) depth state,
    arena.walkChildren visit handle depth state = .error (.unknownNode handle) state
  line : ∀ heading depth, arena.line handle heading depth = .error (.unknownNode handle)
  render : ∀ threshold, arena.render threshold handle = (.error (.unknownNode handle), [])
  run : ∀ threshold (printer : Printer) (job : Job), job.handle = handle →
    printer.run threshold arena job = ⟨.error (.unknownNode handle), printer, [], []⟩
  apply : ∀ edit : Edit, handle ∈ edit.needs →
    (∀ other ∈ edit.needs, other = handle ∨ other ∈ arena) →
      arena.apply edit = (.error (.unknownNode handle), arena)

/-- The visit that counts a node fails at a stranger after it has counted it. -/
theorem visit_count_of_not_mem (h : handle ∉ arena) (depth : Nat) (tally : Tally) :
    arena.visit arena.count handle depth tally
      = .error (.unknownNode handle) (tally.enter depth) := by
  have hcount : arena.count handle depth tally
      = .error (.unknownNode handle) (tally.enter depth) := by
    rw [count, Arena.decoration, node_of_not_mem h]
    rfl
  exact bind_of_error hcount

theorem tallyEach_of_not_mem (h : handle ∉ arena) (depth : Nat) (rest : List (Handle × Nat))
    (tally : Tally) :
    arena.tallyEach ((handle, depth) :: rest) tally
      = (.error (.unknownNode handle), tally.enter depth) := by
  have hrun : ((handle, depth) :: rest).forM
      (fun visit => (arena.visit arena.count visit.1 visit.2 : EStateM Fault Tally Unit)) tally
      = .error (.unknownNode handle) (tally.enter depth) :=
    bind_of_error (visit_count_of_not_mem h depth tally)
  unfold tallyEach
  dsimp only
  rw [hrun]

/-- **Every stranger is disowned.** -/
theorem disowns_of_not_mem (h : handle ∉ arena) : arena.Disowns handle := by
  have hnode := node_of_not_mem h
  -- what is read off the entry of a node
  have hread {α : Type} (read : Node → α) :
      (arena.node handle).map read = .error (.unknownNode handle) := by
    rw [hnode]
    rfl
  have hrender (threshold : Threshold) :
      arena.render threshold handle = (.error (.unknownNode handle), []) := by
    have hprint : (Printer.start .unbounded).printTree threshold arena handle
        = ⟨.error (.unknownNode handle), .start .unbounded, [], []⟩ :=
      Printer.run_of_not_mem (.printTree handle) h threshold (.start .unbounded)
    unfold Arena.render
    rw [hprint]
    rfl
  exact {
    not_mem := h
    node := hnode
    number := hread _
    kind := hread _
    children := hread _
    parent := hread _
    decoration := hread _
    label := hread _
    frameOffset := hread _
    ancestors := ancestors_of_not_mem h
    depth := hread _
    subtreeSize := by
      rw [Arena.subtreeSize, countPending, Arena.children, hnode]
      rfl
    tally := by rw [Arena.tally, visit_count_of_not_mem h]
    tallyEach := tallyEach_of_not_mem h
    walkChildren := walkChildren_of_not_mem h
    line := line_of_not_mem h
    render := hrender
    run := fun threshold printer job hjob => by
      rw [Printer.run_of_not_mem job (hjob ▸ h), hjob]
    apply := fun _ hmem hothers => apply_of_stranger?_needs (stranger?_eq_some hmem h hothers)
  }

/-! ## Nothing is stored of a stranger -/

/-- **Whether an arena stores a handle**: one of its nodes has it among its children, for its parent
or for its decoration. -/
def Stores (arena : Arena) (handle : Handle) : Prop :=
  ∃ other node, arena.node? other = some node ∧
    (handle ∈ node.children ∨ node.parent = some handle ∨ node.decoration = some handle)

/-- **A forest stores only handles of its own.** -/
theorem IsForest.mem_of_stores (hforest : arena.IsForest) (h : arena.Stores handle) :
    handle ∈ arena := by
  obtain ⟨other, node, hnode, hchild | hparent | hdecoration⟩ := h
  · rw [← childrenOf_of_node? hnode] at hchild
    exact hforest.child_mem hchild
  · rw [← parent?_of_node? hnode] at hparent
    exact hforest.parent_mem hparent
  · rw [← decoration?_of_node? hnode] at hdecoration
    exact hforest.decoration_mem hdecoration

/-- Children are all attached only if all of them belong to the arena. -/
theorem mem_of_attachEach_eq_ok {parent : Handle} {children : List Handle}
    (h : (arena.attachEach parent children).1 = .ok ()) (hmem : handle ∈ children) :
    handle ∈ arena := by
  induction children generalizing arena with
  | nil => cases hmem
  | cons child rest ih =>
    rw [attachEach] at h
    cases hattach : arena.attach parent child with
    | error fault =>
      rw [hattach] at h
      cases h
    | ok attached =>
      rw [hattach] at h
      obtain ⟨hcan, rfl⟩ := attach_eq_ok_iff.1 hattach
      obtain rfl | hrest := List.mem_cons.1 hmem
      · exact hcan.child_mem
      · exact mem_link_iff.1 (ih h hrest)

/-- An addition with children is carried out only if all of them are attached. -/
theorem apply_addOver_eq_ok {kind : Kind} {children : List Handle}
    (h : (arena.apply (.addOver kind children)).1 = .ok handle) :
    handle = arena.next ∧ ((arena.push kind).attachEach arena.next children).1 = .ok () := by
  change (((arena.push kind).attachEach arena.next children).1.map fun _ => arena.next)
    = .ok handle at h
  cases houtcome : ((arena.push kind).attachEach arena.next children).1 with
  | error fault =>
    rw [houtcome] at h
    cases h
  | ok done =>
    rw [houtcome] at h
    exact ⟨(Except.ok.inj h).symm, rfl⟩

/-- **An addition never takes a handle of another tag for a child**: it is not carried out, and the
arena that it leaves does not store the handle. -/
theorem IsForest.apply_addOver_of_tag_ne (hforest : arena.IsForest) (htag : handle.tag ≠ arena.tag)
    (kind : Kind) {children : List Handle} (hmem : handle ∈ children) :
    (∃ fault, (arena.apply (.addOver kind children)).1 = .error fault) ∧
      ¬ (arena.apply (.addOver kind children)).2.Stores handle := by
  constructor
  · cases houtcome : (arena.apply (.addOver kind children)).1 with
    | error fault => exact ⟨fault, rfl⟩
    | ok node => exact absurd (mem_of_attachEach_eq_ok (apply_addOver_eq_ok houtcome).2 hmem).1 htag
  · intro hstores
    have hchanged := (apply_changes (.addOver kind children) arena).isForest hforest
    refine htag ((hchanged.mem_of_stores hstores).1.trans ?_)
    exact tag_apply (.addOver kind children) arena

end Arena

end SyntaxOutline
