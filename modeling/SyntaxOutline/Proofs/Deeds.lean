import SyntaxOutline.Proofs.Links

/-!
# Deeds

What edits bring about comes down to **deeds**, and there are five of them: a
node is added, a child is attached, and a node gets another decoration, label
or frame offset. An edit that is carried out is one deed, or for an addition
with children one and then one for each child. An edit that is refused is
none – but for an addition with children, which has added its node and may
have attached some children before it met with the one refused
(`Arena.deeds`).

So the deeds of a run of edits are an account of what the run has achieved.
They are told from the answers of the edits, and not from the arena that the
edits leave behind. That the account is complete is said by
`Arena.applyAll_leads`: the deeds alone, one after the other, lead to the
arena that the edits have led to. What is to be shown of edits, refusals
included, can therefore be shown of deeds, each of which does one thing.
-/

namespace SyntaxOutline

/-- **A deed**: one thing that was done to an arena. -/
inductive Deed where
  /-- A node was added, and stands alone. -/
  | add (node : Handle) (kind : Kind)
  /-- A child was attached, as the last one of its parent. -/
  | attach (parent child : Handle)
  /-- A node was given a decoration, or for `none` lost the one it had. -/
  | decorate (node : Handle) (target : Option Handle)
  | relabel (node : Handle) (label : String)
  /-- An identifier was given a frame offset, or for `none` lost the one it had. -/
  | reoffset (node : Handle) (offset : Option Nat)
  deriving DecidableEq

namespace Deed

/-- **What a deed makes of an arena** in which it can be done. -/
inductive Leads : Deed → Arena → Arena → Prop
  | add (arena : Arena) (kind : Kind) : Leads (.add arena.next kind) arena (arena.push kind)
  | attach {arena : Arena} {parent child : Handle} (h : arena.CanAttach parent child) :
    Leads (.attach parent child) arena (arena.link parent child)
  | decorate {arena : Arena} {node : Handle} (target : Option Handle) (hnode : node ∈ arena)
    (htarget : ∀ handle ∈ target, handle ∈ arena) :
    Leads (.decorate node target) arena
      (arena.modify node fun entry => { entry with decoration := target })
  | relabel {arena : Arena} {node : Handle} (label : String) (hnode : node ∈ arena) :
    Leads (.relabel node label) arena
      (arena.modify node fun entry => { entry with label := label })
  | reoffset {arena : Arena} {node : Handle} {entry : Node} {offset : Option Nat} {kind : Kind}
    (hnode : arena.node? node = some entry)
    (hkind : entry.kind.withFrameOffset? offset = some kind) :
    Leads (.reoffset node offset) arena
      (arena.modify node fun entry => { entry with kind := kind })

/-- **What deeds make of an arena**, one after the other. -/
inductive LeadsAll : List Deed → Arena → Arena → Prop
  | nil (arena : Arena) : LeadsAll [] arena arena
  | cons {deed : Deed} {rest : List Deed} {arena middle changed : Arena}
    (hdeed : deed.Leads arena middle) (hrest : LeadsAll rest middle changed) :
    LeadsAll (deed :: rest) arena changed

/-- The deed, if what was tried for it was carried out. -/
def ifDone (deed : Deed) : Except Fault Arena → List Deed
  | .ok _ => [deed]
  | .error _ => []

variable {deed : Deed} {deeds more : List Deed} {arena middle changed : Arena}

theorem Leads.leadsAll (h : deed.Leads arena changed) : LeadsAll [deed] arena changed :=
  LeadsAll.cons h (LeadsAll.nil changed)

theorem LeadsAll.append (h : LeadsAll deeds arena middle) (hmore : LeadsAll more middle changed) :
    LeadsAll (deeds ++ more) arena changed := by
  induction h with
  | nil => exact hmore
  | cons hdeed _ ih => exact LeadsAll.cons hdeed (ih hmore)

end Deed

/-- **Whether an edit asks for a deed**, given the handle that a new node gets. A deed that is asked
for is about a node that the edit names, or about the new node. -/
def Edit.Asks (edit : Edit) (next : Handle) : Deed → Prop
  | .add node _ => node = next
  | .attach parent child =>
    edit = .attach parent child ∨
      parent = next ∧ ∃ kind children, edit = .addOver kind children ∧ child ∈ children
  | .decorate node (some target) => edit = .decorate node target
  | .decorate node none => edit = .clearDecoration node
  | .relabel node label => edit = .setLabel node label
  | .reoffset node (some offset) => edit = .setFrameOffset node offset
  | .reoffset node none => edit = .clearFrameOffset node

namespace Arena

open Deed

variable {arena changed : Arena} {node : Handle}

/-! ## The deeds of an edit -/

/-- The children that are attached when they are attached one after the other up to the first that
is refused. -/
def attachedOf (parent : Handle) : List Handle → Arena → List Handle
  | [], _ => []
  | child :: rest, arena =>
    match arena.attach parent child with
    | .ok attached => child :: attached.attachedOf parent rest
    | .error _ => []

/-- **The deeds of an edit**, by how it is answered. -/
def deeds (edit : Edit) (arena : Arena) : List Deed :=
  match edit with
  | .add kind => [.add arena.next kind]
  | .addOver kind children =>
    .add arena.next kind ::
      ((arena.push kind).attachedOf arena.next children).map (.attach arena.next)
  | .attach parent child => (Deed.attach parent child).ifDone (arena.attach parent child)
  | .decorate node target => (Deed.decorate node (some target)).ifDone (arena.decorate node target)
  | .clearDecoration node => (Deed.decorate node none).ifDone (arena.clearDecoration node)
  | .setLabel node label => (Deed.relabel node label).ifDone (arena.setLabel node label)
  | .setFrameOffset node offset =>
    (Deed.reoffset node (some offset)).ifDone (arena.putFrameOffset node (some offset))
  | .clearFrameOffset node => (Deed.reoffset node none).ifDone (arena.putFrameOffset node none)

/-- **The deeds of a run of edits**, in the order in which they were done. -/
def deedsAll : List Edit → Arena → List Deed
  | [], _ => []
  | edit :: rest, arena => arena.deeds edit ++ (arena.apply edit).2.deedsAll rest

theorem leads_of_attach {parent child : Handle} (h : arena.attach parent child = .ok changed) :
    (Deed.attach parent child).Leads arena changed := by
  obtain ⟨hcan, rfl⟩ := attach_eq_ok_iff.1 h
  exact Leads.attach hcan

/-- Attaching children up to the first that is refused does what the deeds say. -/
theorem attachEach_leads (parent : Handle) (children : List Handle) (arena : Arena) :
    LeadsAll ((arena.attachedOf parent children).map (.attach parent)) arena
      (arena.attachEach parent children).2 := by
  induction children generalizing arena with
  | nil => exact LeadsAll.nil arena
  | cons child rest ih =>
    rw [attachEach, attachedOf]
    cases hattach : arena.attach parent child with
    | error fault => exact LeadsAll.nil arena
    | ok attached =>
      exact LeadsAll.cons (leads_of_attach hattach) (ih attached)

theorem leads_of_decorate {target : Handle} (h : arena.decorate node target = .ok changed) :
    (Deed.decorate node (some target)).Leads arena changed := by
  obtain ⟨_, hnode, h⟩ := node_bind_eq_ok_iff.1 h
  obtain ⟨_, htarget, h⟩ := node_bind_eq_ok_iff.1 h
  rw [← Except.ok.inj h]
  refine Leads.decorate (some target) (mem_of_node? hnode) ?_
  rintro _ ⟨⟩
  exact mem_of_node? htarget

theorem leads_of_clearDecoration (h : arena.clearDecoration node = .ok changed) :
    (Deed.decorate node none).Leads arena changed := by
  obtain ⟨_, hnode, h⟩ := node_bind_eq_ok_iff.1 h
  rw [← Except.ok.inj h]
  exact Leads.decorate none (mem_of_node? hnode) nofun

theorem leads_of_setLabel {label : String} (h : arena.setLabel node label = .ok changed) :
    (Deed.relabel node label).Leads arena changed := by
  obtain ⟨_, hnode, h⟩ := node_bind_eq_ok_iff.1 h
  rw [← Except.ok.inj h]
  exact Leads.relabel label (mem_of_node? hnode)

theorem leads_of_putFrameOffset {offset : Option Nat}
    (h : arena.putFrameOffset node offset = .ok changed) :
    (Deed.reoffset node offset).Leads arena changed := by
  obtain ⟨entry, hnode, h⟩ := node_bind_eq_ok_iff.1 h
  cases hkind : entry.kind.withFrameOffset? offset with
  | none =>
    rw [hkind] at h
    cases h
  | some kind =>
    rw [hkind] at h
    rw [← Except.ok.inj h]
    exact Leads.reoffset hnode hkind

/-- An edit of one node is its deed if it is carried out, and nothing if it is refused. -/
theorem settle_leads {deed : Deed} {outcome : Except Fault Arena} (node : Handle)
    (h : ∀ changed, outcome = .ok changed → deed.Leads arena changed) :
    LeadsAll (deed.ifDone outcome) arena (arena.settle node outcome).2 := by
  cases outcome with
  | error fault => exact LeadsAll.nil arena
  | ok changed => exact (h changed rfl).leadsAll

/-- **An edit does what its deeds say**, carried out or refused. -/
theorem apply_leads (edit : Edit) (arena : Arena) :
    LeadsAll (arena.deeds edit) arena (arena.apply edit).2 := by
  cases edit with
  | add kind => exact (Leads.add arena kind).leadsAll
  | addOver kind children =>
    exact LeadsAll.cons (Leads.add arena kind) (attachEach_leads arena.next children _)
  | attach parent child => exact settle_leads parent fun _ => leads_of_attach
  | decorate node target => exact settle_leads node fun _ => leads_of_decorate
  | clearDecoration node => exact settle_leads node fun _ => leads_of_clearDecoration
  | setLabel node label => exact settle_leads node fun _ => leads_of_setLabel
  | setFrameOffset node offset => exact settle_leads node fun _ => leads_of_putFrameOffset
  | clearFrameOffset node => exact settle_leads node fun _ => leads_of_putFrameOffset

/-- **A run of edits does what its deeds say**, whichever of the edits were refused. -/
theorem applyAll_leads (edits : List Edit) (arena : Arena) :
    LeadsAll (arena.deedsAll edits) arena (arena.applyAll edits) := by
  induction edits generalizing arena with
  | nil => exact LeadsAll.nil arena
  | cons edit rest ih => exact (apply_leads edit arena).append (ih _)

/-! ## Refused edits -/

/-- An edit of one node that is refused has no deed and leaves the arena as it was. -/
theorem settle_eq_error {deed : Deed} {outcome : Except Fault Arena} {fault : Fault}
    (h : (arena.settle node outcome).1 = .error fault) :
    deed.ifDone outcome = [] ∧ (arena.settle node outcome).2 = arena := by
  cases outcome with
  | error _ => exact ⟨rfl, rfl⟩
  | ok changed => cases h

/-- Where the attaching of children is refused, there is a first child that is. Those before it are
attached, and it would still be refused. -/
theorem attachEach_eq_error {parent : Handle} {children : List Handle} {fault : Fault}
    (h : (arena.attachEach parent children).1 = .error fault) :
    ∃ attached child rest, children = attached ++ child :: rest ∧
      arena.attachedOf parent children = attached ∧
      (arena.attachEach parent children).2.attach parent child = .error fault := by
  induction children generalizing arena with
  | nil => cases h
  | cons first rest ih =>
    rw [attachEach] at h
    rw [attachEach, attachedOf]
    cases hattach : arena.attach parent first with
    | error refusal =>
      rw [hattach] at h
      exact ⟨[], first, rest, rfl, rfl, hattach.trans (congrArg _ (Except.error.inj h))⟩
    | ok attached =>
      rw [hattach] at h
      obtain ⟨before, child, after, rfl, hbefore, hchild⟩ := ih h
      exact ⟨first :: before, child, after, rfl, congrArg (first :: ·) hbefore, hchild⟩

/-- **A refused edit leaves no trace**, unless it is an addition with children. Of that the node
stays, and so do the children that were attached before the one refused. -/
theorem apply_eq_error {edit : Edit} {fault : Fault} (h : (arena.apply edit).1 = .error fault) :
    (arena.deeds edit = [] ∧ (arena.apply edit).2 = arena) ∨
      ∃ kind attached child rest, edit = .addOver kind (attached ++ child :: rest) ∧
        arena.deeds edit = .add arena.next kind :: attached.map (.attach arena.next) ∧
        (arena.apply edit).2.attach arena.next child = .error fault := by
  cases edit with
  | add kind => cases h
  | addOver kind children =>
    have houtcome : ((arena.push kind).attachEach arena.next children).1 = .error fault := by
      change (((arena.push kind).attachEach arena.next children).1.map fun _ => arena.next) = _ at h
      cases hfirst : ((arena.push kind).attachEach arena.next children).1 with
      | error refusal =>
        rw [hfirst] at h
        exact congrArg _ (Except.error.inj h)
      | ok done =>
        rw [hfirst] at h
        cases h
    obtain ⟨attached, child, rest, rfl, hattached, hchild⟩ := attachEach_eq_error houtcome
    refine Or.inr ⟨kind, attached, child, rest, rfl, ?_, hchild⟩
    rw [deeds, hattached]
  | _ => exact Or.inl (settle_eq_error h)

/-! ## Whose deeds they are -/

theorem eq_of_mem_ifDone {deed other : Deed} {outcome : Except Fault Arena}
    (h : deed ∈ other.ifDone outcome) : deed = other := by
  cases outcome with
  | error fault => cases h
  | ok changed => exact List.mem_singleton.1 h

theorem mem_of_mem_attachedOf {parent child : Handle} {children : List Handle}
    (h : child ∈ arena.attachedOf parent children) : child ∈ children := by
  induction children generalizing arena with
  | nil => cases h
  | cons first rest ih =>
    rw [attachedOf] at h
    cases hattach : arena.attach parent first with
    | error fault =>
      rw [hattach] at h
      cases h
    | ok attached =>
      rw [hattach, List.mem_cons] at h
      exact List.mem_cons.2 (h.imp_right ih)

/-- **A deed of an edit is one that the edit asks for.** -/
theorem asks_of_mem_deeds {edit : Edit} {deed : Deed} (h : deed ∈ arena.deeds edit) :
    edit.Asks arena.next deed := by
  cases edit with
  | add kind =>
    rw [List.mem_singleton.1 h]
    exact rfl
  | addOver kind children =>
    obtain rfl | hattached := List.mem_cons.1 h
    · exact rfl
    · obtain ⟨child, hchild, rfl⟩ := List.mem_map.1 hattached
      exact Or.inr ⟨rfl, kind, children, rfl, mem_of_mem_attachedOf hchild⟩
  | attach parent child =>
    rw [eq_of_mem_ifDone h]
    exact Or.inl rfl
  | _ =>
    rw [eq_of_mem_ifDone h]
    exact rfl

end Arena

end SyntaxOutline
