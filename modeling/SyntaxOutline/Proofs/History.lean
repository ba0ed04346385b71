import SyntaxOutline.Proofs.Deeds
import SyntaxOutline.Proofs.Reachable

/-!
# An arena and its history

The deeds of all edits since an arena was empty are its **history**. The main
statement of this module is that the arena shows its history and nothing
else: what a node says of itself can be told from the deeds about it, and
from no others.

Two readings of a history are enough. Attachments add up, so the children of
a node are all that were attached under it, in the order in which that was
done, and its parent is the one it was attached under. Everything else is
replaced, so what counts is the last deed about it: the last decoration, the
last label, the last frame offset. Each reading is an equation for one deed
(`Deed.Leads.childrenOf_eq` and the like), which the two inductions
`Deed.LeadsAll.added_up` and `Deed.LeadsAll.last_told` carry over to any
number of them.
-/

namespace SyntaxOutline

/-- The kind with another frame offset, where it can have one. -/
def Kind.withFrameOffset (offset : Option Nat) (kind : Kind) : Kind :=
  (kind.withFrameOffset? offset).getD kind

namespace Kind

@[simp] theorem withFrameOffset_frameOffset (kind : Kind) :
    kind.withFrameOffset kind.frameOffset = kind := by
  cases kind <;> rfl

@[simp] theorem withFrameOffset_withFrameOffset (old new : Option Nat) (kind : Kind) :
    (kind.withFrameOffset old).withFrameOffset new = kind.withFrameOffset new := by
  cases kind <;> rfl

@[simp] theorem baseLabel_withFrameOffset (offset : Option Nat) (kind : Kind) :
    (kind.withFrameOffset offset).baseLabel = kind.baseLabel := by
  cases kind <;> rfl

/-- Without a new offset a kind, if there is one, stays as it is. -/
theorem map_keep (kind? : Option Kind) :
    (kind?.map fun kind =>
      kind.withFrameOffset ((none : Option (Option Nat)).getD kind.frameOffset)) = kind? := by
  cases kind? with
  | none => rfl
  | some kind => exact congrArg some kind.withFrameOffset_frameOffset

theorem withFrameOffset_eq {offset : Option Nat} {kind changed : Kind}
    (h : kind.withFrameOffset? offset = some changed) : kind.withFrameOffset offset = changed := by
  rw [withFrameOffset, h]
  rfl

theorem frameOffset_of_withFrameOffset? {offset : Option Nat} {kind changed : Kind}
    (h : kind.withFrameOffset? offset = some changed) : changed.frameOffset = offset := by
  obtain ⟨symbol, old, rfl, rfl⟩ := withFrameOffset?_eq_some_iff.1 h
  rfl

end Kind

/-! ## What a deed tells of a node -/

namespace Deed

variable {α : Type}

/-- The kind with which a deed adds a node. -/
def kindFor (node : Handle) : Deed → Option Kind
  | add added kind => if added = node then some kind else none
  | _ => none

/-- The child that a deed attaches under a node. -/
def childFor (node : Handle) : Deed → Option Handle
  | attach parent child => if parent = node then some child else none
  | _ => none

/-- The parent under which a deed attaches a node. -/
def parentFor (node : Handle) : Deed → Option Handle
  | attach parent child => if child = node then some parent else none
  | _ => none

/-- The decoration that a deed gives to a node, or that it has none. -/
def decorationFor (node : Handle) : Deed → Option (Option Handle)
  | decorate decorated target => if decorated = node then some target else none
  | _ => none

/-- The label that a deed gives to a node. -/
def labelFor (node : Handle) : Deed → Option String
  | relabel labelled label => if labelled = node then some label else none
  | _ => none

/-- The frame offset that a deed gives to a node, or that it has none. -/
def offsetFor (node : Handle) : Deed → Option (Option Nat)
  | reoffset changed offset => if changed = node then some offset else none
  | _ => none

/-- **What deeds tell last**, or what holds if they tell nothing. -/
def lastOf (tell : Deed → Option α) (default : α) (deeds : List Deed) : α :=
  (deeds.filterMap tell).getLast?.getD default

theorem lastOf_of_filterMap_eq_nil {tell : Deed → Option α} {deeds : List Deed}
    (h : deeds.filterMap tell = []) (default : α) : lastOf tell default deeds = default := by
  rw [lastOf, h]
  rfl

theorem filterMap_cons_eq (tell : Deed → Option α) (deed : Deed) (rest : List Deed) :
    (deed :: rest).filterMap tell = (tell deed).toList ++ rest.filterMap tell := by
  rw [List.filterMap_eq_flatMap_toList, List.flatMap_cons, ← List.filterMap_eq_flatMap_toList]

theorem filterMap_append_singleton (tell : Deed → Option α) (deeds : List Deed) (deed : Deed) :
    (deeds ++ [deed]).filterMap tell = deeds.filterMap tell ++ (tell deed).toList := by
  rw [List.filterMap_append, filterMap_cons_eq, List.filterMap_nil, List.append_nil]

theorem lastOf_append_singleton (tell : Deed → Option α) (default : α) (deeds : List Deed)
    (deed : Deed) :
    lastOf tell default (deeds ++ [deed]) = (tell deed).getD (lastOf tell default deeds) := by
  rw [lastOf, filterMap_append_singleton, List.getLast?_append]
  cases tell deed <;> rfl

variable {deed : Deed} {deeds : List Deed} {arena changed : Arena} {node : Handle}

/-- **Where each deed adds to a list**, deeds add all that they tell to it, in their order. -/
theorem LeadsAll.added_up {read : Arena → List α} {tell : Deed → Option α}
    (hstep : ∀ {deed arena changed}, Leads deed arena changed →
      read changed = read arena ++ (tell deed).toList)
    (h : LeadsAll deeds arena changed) : read changed = read arena ++ deeds.filterMap tell := by
  induction h with
  | nil => exact (List.append_nil _).symm
  | @cons deed rest _ _ _ hdeed _ ih =>
    rw [ih, hstep hdeed, filterMap_cons_eq, List.append_assoc]

/-- **Where each deed replaces a value**, deeds leave the one that they tell last. -/
theorem LeadsAll.last_told {read : Arena → α} {tell : Deed → Option α}
    (hstep : ∀ {deed arena changed}, Leads deed arena changed →
      read changed = (tell deed).getD (read arena))
    (h : LeadsAll deeds arena changed) : read changed = lastOf tell (read arena) deeds := by
  induction h with
  | nil => rfl
  | @cons deed rest _ _ _ hdeed _ ih =>
    rw [ih, hstep hdeed, lastOf, lastOf, filterMap_cons_eq, List.getLast?_append]
    cases tell deed <;> cases (rest.filterMap tell).getLast? <;> rfl

/-- What no deed touches is as it was. -/
theorem LeadsAll.read_eq {read : Arena → α} (h : LeadsAll deeds arena changed)
    (hstep : ∀ deed ∈ deeds, ∀ {arena changed}, Leads deed arena changed →
      read changed = read arena) : read changed = read arena := by
  induction h with
  | nil => rfl
  | @cons deed rest _ _ _ hdeed _ ih =>
    rw [ih (fun other hother => hstep other (List.mem_cons_of_mem deed hother)),
      hstep deed List.mem_cons_self hdeed]

end Deed

/-! ## What a deed changes -/

namespace Arena

/-- The label of a node, empty for none. -/
def labelOf (arena : Arena) (handle : Handle) : String :=
  (arena.node? handle).elim "" Node.label

/-- The kind of a node of the arena. -/
def kind? (arena : Arena) (handle : Handle) : Option Kind :=
  (arena.node? handle).elim none (fun node => some node.kind)

theorem kind?_of_node? {arena : Arena} {handle : Handle} {node : Node}
    (h : arena.node? handle = some node) : arena.kind? handle = some node.kind := by
  show (arena.node? handle).elim none (fun node => some node.kind) = some node.kind
  rw [h]
  rfl

end Arena

namespace Deed

open Arena

variable {deed : Deed} {deeds : List Deed} {arena changed : Arena} {handle : Handle}

/-- A node stays a node. -/
theorem Leads.mem (h : deed.Leads arena changed) (hmem : handle ∈ arena) : handle ∈ changed := by
  cases h with
  | add => exact mem_push_iff.2 (Or.inl hmem)
  | attach => exact mem_link_iff.2 hmem
  | _ => exact mem_modify_iff.2 hmem

theorem LeadsAll.mem (h : LeadsAll deeds arena changed) (hmem : handle ∈ arena) :
    handle ∈ changed := by
  induction h with
  | nil => exact hmem
  | cons hdeed _ ih => exact ih (hdeed.mem hmem)

/-- **A deed adds the child that it attaches** to the children of the node. -/
theorem Leads.childrenOf_eq (node : Handle) (h : deed.Leads arena changed) :
    changed.childrenOf node = arena.childrenOf node ++ (deed.childFor node).toList := by
  cases h with
  | add _ kind => exact (childrenOf_push kind arena node).trans (List.append_nil _).symm
  | @attach _ parent child hcan =>
    rw [childrenOf_link hcan.parent_mem, childFor]
    by_cases h : node = parent
    · rw [if_pos h, if_pos h.symm, h]
      rfl
    · rw [if_neg h, if_neg (Ne.symm h)]
      exact (List.append_nil _).symm
  | _ => exact (elim_node?_modify (fun _ => by rfl) _ node).trans (List.append_nil _).symm

/-- **A deed gives a node the parent** under which it attaches it, if it had none. -/
theorem Leads.parent?_eq (node : Handle) (h : deed.Leads arena changed) :
    (changed.parent? node).toList
      = (arena.parent? node).toList ++ (deed.parentFor node).toList := by
  cases h with
  | add _ kind =>
    rw [parent?_push]
    exact (List.append_nil _).symm
  | @attach _ parent child hcan =>
    rw [parent?_link hcan.child_mem, parentFor]
    by_cases h : node = child
    · rw [if_pos h, if_pos h.symm, h, hcan.free]
      rfl
    · rw [if_neg h, if_neg (Ne.symm h)]
      exact (List.append_nil _).symm
  | _ =>
    exact (congrArg Option.toList (elim_node?_modify (fun _ => by rfl) _ node)).trans
      (List.append_nil _).symm

/-- **A deed gives a node the decoration** that it tells of it. -/
theorem Leads.decoration?_eq (node : Handle) (h : deed.Leads arena changed) :
    changed.decoration? node = (deed.decorationFor node).getD (arena.decoration? node) := by
  cases h with
  | add _ kind => exact decoration?_push kind arena node
  | @attach _ parent child => exact decoration?_link parent child node
  | @decorate _ decorated target hmem =>
    obtain ⟨entry, hentry⟩ := exists_node? hmem
    rw [decorationFor]
    by_cases h : decorated = node
    · rw [if_pos h, ← h]
      exact elim_node?_modify_self hentry
    · rw [if_neg h]
      exact elim_node?_modify_of_ne (Ne.symm h)
  | _ => exact elim_node?_modify (fun _ => by rfl) _ node

/-- **A deed gives a node the label** that it tells of it. -/
theorem Leads.labelOf_eq (node : Handle) (h : deed.Leads arena changed) :
    changed.labelOf node = (deed.labelFor node).getD (arena.labelOf node) := by
  cases h with
  | add _ kind => exact elim_node?_push (fun _ _ => rfl) kind arena node
  | @attach _ parent child =>
    exact (elim_node?_modify (fun _ => by rfl) parent node).trans
      (elim_node?_modify (fun _ => by rfl) child node)
  | @relabel _ labelled label hmem =>
    obtain ⟨entry, hentry⟩ := exists_node? hmem
    rw [labelFor]
    by_cases h : labelled = node
    · rw [if_pos h, ← h]
      exact elim_node?_modify_self hentry
    · rw [if_neg h]
      exact elim_node?_modify_of_ne (Ne.symm h)
  | _ => exact elim_node?_modify (fun _ => by rfl) _ node

/-- **A deed gives a node its kind** by adding it, and later another frame offset. -/
theorem Leads.kind?_eq (node : Handle) (h : deed.Leads arena changed) :
    changed.kind? node = (deed.kindFor node).or ((arena.kind? node).map fun kind =>
      kind.withFrameOffset ((deed.offsetFor node).getD kind.frameOffset)) := by
  cases h with
  | add _ kind =>
    rw [kind?, node?_push, kindFor]
    by_cases h : node = arena.next
    · rw [if_pos h, if_pos h.symm]
      rfl
    · rw [if_neg h, if_neg (Ne.symm h)]
      exact (Kind.map_keep (arena.kind? node)).symm
  | @attach _ parent child =>
    refine Eq.trans ?_ (Kind.map_keep (arena.kind? node)).symm
    exact (elim_node?_modify (fun _ => by rfl) parent node).trans
      (elim_node?_modify (fun _ => by rfl) child node)
  | @reoffset _ other entry offset kind hentry hkind =>
    rw [offsetFor]
    by_cases h : other = node
    · rw [if_pos h, ← h, kind?_of_node? hentry]
      refine (elim_node?_modify_self hentry).trans (congrArg some ?_)
      exact (Kind.withFrameOffset_eq hkind).symm
    · rw [if_neg h]
      exact (elim_node?_modify_of_ne (Ne.symm h)).trans (Kind.map_keep (arena.kind? node)).symm
  | _ =>
    refine Eq.trans ?_ (Kind.map_keep (arena.kind? node)).symm
    exact elim_node?_modify (fun _ => by rfl) _ node

theorem Leads.kind?_of_none {node : Handle} (h : deed.Leads arena changed)
    (hkind : deed.kindFor node = none) (hoffset : deed.offsetFor node = none) :
    changed.kind? node = arena.kind? node := by
  rw [h.kind?_eq, hkind, hoffset, Option.none_or]
  exact Kind.map_keep (arena.kind? node)

/-- A node is added where there is none. -/
theorem Leads.kind?_of_kindFor {node : Handle} {kind : Kind} (h : deed.Leads arena changed)
    (htold : deed.kindFor node = some kind) :
    arena.kind? node = none ∧ deed.offsetFor node = none := by
  cases h with
  | add _ added =>
    rw [kindFor] at htold
    split at htold
    · next hnext =>
      rw [← hnext]
      exact ⟨elim_node?_of_not_mem arena.next_not_mem _ _, rfl⟩
    · cases htold
  | _ => cases htold

/-- A frame offset is given to an identifier. -/
theorem Leads.kind?_of_offsetFor {node : Handle} {offset : Option Nat}
    (h : deed.Leads arena changed) (htold : deed.offsetFor node = some offset) :
    deed.kindFor node = none ∧
      ∃ kind, arena.kind? node = some kind ∧
        (kind.withFrameOffset offset).frameOffset = offset := by
  cases h with
  | @reoffset _ other entry _ kind hentry hkind =>
    rw [offsetFor] at htold
    split at htold
    · next hother =>
      rw [← hother, ← Option.some.inj htold, kind?_of_node? hentry]
      refine ⟨rfl, entry.kind, rfl, ?_⟩
      rw [Kind.withFrameOffset_eq hkind]
      exact Kind.frameOffset_of_withFrameOffset? hkind
    · cases htold
  | _ => cases htold

/-! ## Kinds -/

/-- **Whether deeds account for the kind of a node.** Of a node that is not there they tell neither
a kind nor an offset. A node that is there was added once, with a kind that is still the same but
for the offset, and that is the last that was told, or else the one the kind came with. -/
inductive KindTold (deeds : List Deed) (arena : Arena) (node : Handle) : Prop
  | absent (hnode : arena.kind? node = none) (hkind : deeds.filterMap (kindFor node) = [])
    (hoffset : deeds.filterMap (offsetFor node) = [])
  | present (kind : Kind) (hkind : deeds.filterMap (kindFor node) = [kind])
    (hnode : arena.kind? node
      = some (kind.withFrameOffset (lastOf (offsetFor node) kind.frameOffset deeds)))
    (hoffset : (kind.withFrameOffset (lastOf (offsetFor node) kind.frameOffset deeds)).frameOffset
      = lastOf (offsetFor node) kind.frameOffset deeds)

/-- **One deed further**, the kind is still accounted for. -/
theorem KindTold.step {node : Handle} (htold : KindTold deeds arena node)
    (h : deed.Leads arena changed) : KindTold (deeds ++ [deed]) changed node := by
  have hkinds := filterMap_append_singleton (kindFor node) deeds deed
  have hoffsets := filterMap_append_singleton (offsetFor node) deeds deed
  have hchanged := h.kind?_eq node
  cases hkind : deed.kindFor node with
  | some added =>
    -- the deed adds the node, which was not there
    obtain ⟨hnone, hoffset⟩ := h.kind?_of_kindFor hkind
    rw [hkind, Option.some_or] at hchanged
    rw [hkind] at hkinds
    rw [hoffset] at hoffsets
    cases htold with
    | absent _ hnokind hnooffset =>
      rw [hnokind] at hkinds
      rw [hnooffset] at hoffsets
      have hlast := lastOf_of_filterMap_eq_nil hoffsets added.frameOffset
      refine KindTold.present added hkinds ?_ ?_
      · rw [hlast, hchanged, Kind.withFrameOffset_frameOffset]
      · rw [hlast, Kind.withFrameOffset_frameOffset]
    | present kind _ hsome =>
      rw [hnone] at hsome
      cases hsome
  | none =>
    rw [hkind, Option.none_or] at hchanged
    rw [hkind, Option.toList_none, List.append_nil] at hkinds
    cases htold with
    | absent hnone hnokind hnooffset =>
      have hoffset : deed.offsetFor node = none := by
        cases hoffset : deed.offsetFor node with
        | none => rfl
        | some offset =>
          obtain ⟨-, kind, hsome, -⟩ := h.kind?_of_offsetFor hoffset
          rw [hnone] at hsome
          cases hsome
      rw [hoffset, hnooffset] at hoffsets
      refine KindTold.absent ?_ (hkinds.trans hnokind) hoffsets
      rw [hchanged, hnone]
      rfl
    | present kind hone hsome hsame =>
      have hlast := lastOf_append_singleton (offsetFor node) kind.frameOffset deeds deed
      rw [hsome, Option.map_some, hsame, Kind.withFrameOffset_withFrameOffset, ← hlast] at hchanged
      refine KindTold.present kind (hkinds.trans hone) hchanged ?_
      cases hoffset : deed.offsetFor node with
      | none =>
        rw [hlast, hoffset]
        exact hsame
      | some offset =>
        obtain ⟨-, before, hbefore, hgives⟩ := h.kind?_of_offsetFor hoffset
        rw [← Option.some.inj (hsome.symm.trans hbefore),
          Kind.withFrameOffset_withFrameOffset] at hgives
        rw [hlast, hoffset]
        exact hgives

/-- **Many deeds further**, the kind is still accounted for. -/
theorem KindTold.run {node : Handle} {more : List Deed} (htold : KindTold deeds arena node)
    (h : LeadsAll more arena changed) : KindTold (deeds ++ more) changed node := by
  induction h generalizing deeds with
  | nil => rwa [List.append_nil]
  | @cons deed rest _ _ _ hdeed _ ih =>
    rw [List.append_cons]
    exact ih (htold.step hdeed)

end Deed

namespace Arena

open Deed

variable {arena changed : Arena} {deeds : List Deed} {edit : Edit} {node : Handle} {tag : Nat}

/-! ## The history of an arena -/

/-- **Whether an arena shows a node as deeds tell of it**: its children are those attached under it,
in that order; its parent is the one that it was attached under, which has been done once at most;
its decoration and its label are the last that were given to it. It was added once, and its kind is
the one it was added with, but for the frame offset, which is the last that was given to it, if any
was. -/
structure ShowsDeeds (arena : Arena) (deeds : List Deed) (node : Handle) : Prop where
  children_eq : arena.children node = .ok (deeds.filterMap (childFor node))
  parent_eq : ∃ owner, arena.parent node = .ok owner ∧
    deeds.filterMap (parentFor node) = owner.toList
  decoration_eq : arena.decoration node = .ok (lastOf (decorationFor node) none deeds)
  label_eq : arena.label node = .ok (lastOf (labelFor node) "" deeds)
  kind_eq : ∃ kind, deeds.filterMap (kindFor node) = [kind] ∧
    arena.frameOffset node = .ok (lastOf (offsetFor node) kind.frameOffset deeds) ∧
    arena.kind node = .ok (kind.withFrameOffset (lastOf (offsetFor node) kind.frameOffset deeds))

/-- **What deeds make of an empty arena shows them.** -/
theorem showsDeeds_of_leadsAll (h : LeadsAll deeds (empty tag) arena) (hmem : node ∈ arena) :
    arena.ShowsDeeds deeds node := by
  obtain ⟨entry, hentry⟩ := exists_node? hmem
  have hread : arena.node node = .ok entry := node_eq_ok_iff.2 hentry
  have hempty : node ∉ empty tag := not_mem_empty tag node
  have hchildren := h.added_up (fun hdeed => hdeed.childrenOf_eq node)
  have hparent := h.added_up (fun hdeed => hdeed.parent?_eq node)
  have hdecoration := h.last_told (fun hdeed => hdeed.decoration?_eq node)
  have hlabel := h.last_told (fun hdeed => hdeed.labelOf_eq node)
  rw [childrenOf, childrenOf, hentry, elim_node?_of_not_mem hempty, List.nil_append] at hchildren
  rw [parent?_of_node? hentry, parent?, elim_node?_of_not_mem hempty, Option.toList_none,
    List.nil_append] at hparent
  rw [decoration?_of_node? hentry, decoration?, elim_node?_of_not_mem hempty] at hdecoration
  rw [labelOf, labelOf, hentry, elim_node?_of_not_mem hempty] at hlabel
  refine ⟨?_, ⟨entry.parent, ?_, hparent.symm⟩, ?_, ?_, ?_⟩
  · rw [children, hread]
    exact congrArg Except.ok hchildren
  · rw [parent, hread]
    rfl
  · rw [decoration, hread]
    exact congrArg Except.ok hdecoration
  · rw [label, hread]
    exact congrArg Except.ok hlabel
  · have hstart : KindTold [] (empty tag) node :=
      KindTold.absent (elim_node?_of_not_mem hempty _ _) rfl rfl
    have hend := hstart.run h
    rw [List.nil_append] at hend
    cases hend with
    | absent hnone =>
      rw [kind?_of_node? hentry] at hnone
      cases hnone
    | present kind hone hsome hsame =>
      rw [kind?_of_node? hentry] at hsome
      have hkind := Option.some.inj hsome
      refine ⟨kind, hone, ?_, ?_⟩
      · rw [frameOffset, hread, ← hsame, ← hkind]
        rfl
      · rw [Arena.kind, hread, ← hkind]
        rfl

/-! ## What an edit leaves alone -/

/-- The deeds of an edit tell nothing that the edit does not ask for. -/
theorem filterMap_deeds_eq_nil {α : Type} {tell : Deed → Option α}
    (h : ∀ deed, edit.Asks arena.next deed → tell deed = none) :
    (arena.deeds edit).filterMap tell = [] :=
  List.filterMap_eq_nil_iff.2 fun deed hdeed => h deed (asks_of_mem_deeds hdeed)

theorem childFor_eq_none_of_asks {deed : Deed} (hmem : node ∈ arena)
    (h : ∀ child, edit ≠ .attach node child) (hasks : edit.Asks arena.next deed) :
    deed.childFor node = none := by
  cases deed with
  | attach parent child =>
    refine if_neg ?_
    rintro rfl
    obtain hedit | ⟨hnext, -⟩ := hasks
    · exact h child hedit
    · rw [hnext] at hmem
      exact arena.next_not_mem hmem
  | _ => rfl

theorem parentFor_eq_none_of_asks {deed : Deed} (h : ∀ parent, edit ≠ .attach parent node)
    (hover : ∀ kind children, edit = .addOver kind children → node ∉ children)
    (hasks : edit.Asks arena.next deed) : deed.parentFor node = none := by
  cases deed with
  | attach parent child =>
    refine if_neg ?_
    rintro rfl
    obtain hedit | ⟨-, kind, children, hedit, hchild⟩ := hasks
    · exact h parent hedit
    · exact hover kind children hedit hchild
  | _ => rfl

theorem decorationFor_eq_none_of_asks {deed : Deed} (h : ∀ target, edit ≠ .decorate node target)
    (hclear : edit ≠ .clearDecoration node) (hasks : edit.Asks arena.next deed) :
    deed.decorationFor node = none := by
  cases deed with
  | decorate decorated target =>
    refine if_neg ?_
    rintro rfl
    cases target with
    | none => exact hclear hasks
    | some target => exact h target hasks
  | _ => rfl

theorem labelFor_eq_none_of_asks {deed : Deed} (h : ∀ label, edit ≠ .setLabel node label)
    (hasks : edit.Asks arena.next deed) : deed.labelFor node = none := by
  cases deed with
  | relabel labelled label =>
    refine if_neg ?_
    rintro rfl
    exact h label hasks
  | _ => rfl

theorem offsetFor_eq_none_of_asks {deed : Deed} (h : ∀ offset, edit ≠ .setFrameOffset node offset)
    (hclear : edit ≠ .clearFrameOffset node) (hasks : edit.Asks arena.next deed) :
    deed.offsetFor node = none := by
  cases deed with
  | reoffset changed offset =>
    refine if_neg ?_
    rintro rfl
    cases offset with
    | none => exact hclear hasks
    | some offset => exact h offset hasks
  | _ => rfl

theorem kindFor_eq_none_of_asks {deed : Deed} (hmem : node ∈ arena)
    (hasks : edit.Asks arena.next deed) : deed.kindFor node = none := by
  cases deed with
  | add added kind =>
    refine if_neg ?_
    rintro rfl
    have hnext : added = arena.next := hasks
    rw [hnext] at hmem
    exact arena.next_not_mem hmem
  | _ => rfl

end Arena

/-- **What an edit keeps of a node**: its number, and of its fields each that the edit is not about
at this node. -/
structure Edit.Keeps (edit : Edit) (node : Handle) (before after : Node) : Prop where
  number_eq : after.number = before.number
  kind_eq : (∀ offset, edit ≠ .setFrameOffset node offset) → edit ≠ .clearFrameOffset node →
    after.kind = before.kind
  children_eq : (∀ child, edit ≠ .attach node child) → after.children = before.children
  parent_eq : (∀ parent, edit ≠ .attach parent node) →
    (∀ kind children, edit = .addOver kind children → node ∉ children) →
    after.parent = before.parent
  decoration_eq : (∀ target, edit ≠ .decorate node target) → edit ≠ .clearDecoration node →
    after.decoration = before.decoration
  label_eq : (∀ label, edit ≠ .setLabel node label) → after.label = before.label

namespace Arena

open Deed

variable {arena changed : Arena} {deeds : List Deed} {edit : Edit} {node : Handle} {tag : Nat}

/-- **An edit changes no field of a node but those it is about.** -/
theorem IsForest.apply_keeps (hforest : arena.IsForest) (edit : Edit) {before : Node}
    (hbefore : arena.node? node = some before) :
    ∃ after, (arena.apply edit).2.node? node = some after ∧ edit.Keeps node before after := by
  have hmem := mem_of_node? hbefore
  have hleads := apply_leads edit arena
  obtain ⟨after, hafter⟩ := exists_node? (hleads.mem hmem)
  have hafterForest := (apply_changes edit arena).isForest hforest
  have hchildren := hleads.added_up (fun hdeed => hdeed.childrenOf_eq node)
  have hparent := hleads.added_up (fun hdeed => hdeed.parent?_eq node)
  have hdecoration := hleads.last_told (fun hdeed => hdeed.decoration?_eq node)
  have hlabel := hleads.last_told (fun hdeed => hdeed.labelOf_eq node)
  rw [childrenOf_of_node? hafter, childrenOf_of_node? hbefore] at hchildren
  rw [parent?_of_node? hafter, parent?_of_node? hbefore] at hparent
  rw [decoration?_of_node? hafter, decoration?_of_node? hbefore] at hdecoration
  rw [labelOf, labelOf, hafter, hbefore] at hlabel
  refine ⟨after, hafter, ?_, fun hset hclear => ?_, fun hattach => ?_, fun hattach hover => ?_,
    fun hdecorate hclear => ?_, fun hset => ?_⟩
  · rw [hafterForest.number_eq hafter, hforest.number_eq hbefore]
  · have hkind := hleads.read_eq fun deed hdeed _ _ h => h.kind?_of_none
      (kindFor_eq_none_of_asks hmem (asks_of_mem_deeds hdeed))
      (offsetFor_eq_none_of_asks hset hclear (asks_of_mem_deeds hdeed))
    rw [kind?_of_node? hafter, kind?_of_node? hbefore] at hkind
    exact Option.some.inj hkind
  · have hnone := filterMap_deeds_eq_nil fun deed => childFor_eq_none_of_asks hmem hattach
    rwa [hnone, List.append_nil] at hchildren
  · have hnone := filterMap_deeds_eq_nil fun _ (hasks : edit.Asks arena.next _) =>
      parentFor_eq_none_of_asks hattach hover hasks
    rw [hnone, List.append_nil] at hparent
    have hhead := congrArg List.head? hparent
    rwa [Option.head?_toList, Option.head?_toList] at hhead
  · have hnone := filterMap_deeds_eq_nil fun _ (hasks : edit.Asks arena.next _) =>
      decorationFor_eq_none_of_asks hdecorate hclear hasks
    rwa [lastOf_of_filterMap_eq_nil hnone] at hdecoration
  · have hnone := filterMap_deeds_eq_nil fun _ (hasks : edit.Asks arena.next _) =>
      labelFor_eq_none_of_asks hset hasks
    rwa [lastOf_of_filterMap_eq_nil hnone] at hlabel

/-! ## Runs of edits -/

/-- **An arena shows its history and nothing else.** Whatever edits are carried out on an empty
arena, its deeds alone lead to what the edits have made of it, and it shows every node as they tell
of it. An edit that is refused leaves no trace, an addition with children excepted: of that the node
stays, with the children before the one refused. And no edit changes a field of a node that it is
not about. -/
theorem applyAll_shows_deedsAll (tag : Nat) (edits : List Edit) :
    let arena := (empty tag).applyAll edits
    let deeds := (empty tag).deedsAll edits
    LeadsAll deeds (empty tag) arena ∧
      (∀ node ∈ arena, arena.ShowsDeeds deeds node) ∧
      (∀ edit fault, (arena.apply edit).1 = .error fault →
        (arena.deeds edit = [] ∧ (arena.apply edit).2 = arena) ∨
          ∃ kind attached child rest, edit = .addOver kind (attached ++ child :: rest) ∧
            arena.deeds edit = .add arena.next kind :: attached.map (.attach arena.next) ∧
            LeadsAll (arena.deeds edit) arena (arena.apply edit).2 ∧
            (arena.apply edit).2.attach arena.next child = .error fault) ∧
      ∀ edit node before, arena.node? node = some before →
        ∃ after, (arena.apply edit).2.node? node = some after ∧ edit.Keeps node before after := by
  intro arena deeds
  have hleads : LeadsAll deeds (empty tag) arena := applyAll_leads edits (empty tag)
  have hforest : arena.IsForest := ((Reachable.empty tag).applyAll edits).isForest
  refine ⟨hleads, fun node hmem => showsDeeds_of_leadsAll hleads hmem, fun edit fault h => ?_,
    fun edit node before hbefore => hforest.apply_keeps edit hbefore⟩
  obtain hnothing | ⟨kind, attached, child, rest, hedit, hdeeds, hchild⟩ := apply_eq_error h
  · exact Or.inl hnothing
  · exact Or.inr ⟨kind, attached, child, rest, hedit, hdeeds, apply_leads edit arena, hchild⟩

/-- Edits of which some are refused: an addition that names a child twice, a link that would close a
cycle, a label for a node of another arena, and a frame offset for a block. -/
def bumpy : List Edit :=
  [.add .block, .add (.ident ⟨"x"⟩ (some 8)), .addOver .program [⟨7, 0⟩, ⟨7, 0⟩, ⟨7, 1⟩],
    .attach ⟨7, 2⟩ ⟨7, 1⟩, .attach ⟨7, 0⟩ ⟨7, 2⟩, .decorate ⟨7, 1⟩ ⟨7, 0⟩, .clearDecoration ⟨7, 1⟩,
    .setLabel ⟨7, 1⟩ "a", .setLabel ⟨7, 1⟩ "b", .setLabel ⟨9, 1⟩ "c", .setFrameOffset ⟨7, 0⟩ 4,
    .setFrameOffset ⟨7, 1⟩ 4, .clearFrameOffset ⟨7, 1⟩, .decorate ⟨7, 0⟩ ⟨7, 1⟩]

theorem applyAll_shows_deedsAll_bumpy :
    (empty 7).deedsAll bumpy
        = [.add ⟨7, 0⟩ .block, .add ⟨7, 1⟩ (.ident ⟨"x"⟩ (some 8)), .add ⟨7, 2⟩ .program,
            .attach ⟨7, 2⟩ ⟨7, 0⟩, .attach ⟨7, 2⟩ ⟨7, 1⟩, .decorate ⟨7, 1⟩ (some ⟨7, 0⟩),
            .decorate ⟨7, 1⟩ none, .relabel ⟨7, 1⟩ "a", .relabel ⟨7, 1⟩ "b",
            .reoffset ⟨7, 1⟩ (some 4), .reoffset ⟨7, 1⟩ none,
            .decorate ⟨7, 0⟩ (some ⟨7, 1⟩)] ∧
      ((empty 7).applyAll bumpy).children ⟨7, 2⟩ = .ok [⟨7, 0⟩, ⟨7, 1⟩] ∧
      ((empty 7).applyAll bumpy).decoration ⟨7, 1⟩ = .ok none ∧
      ((empty 7).applyAll bumpy).label ⟨7, 1⟩ = .ok "b" ∧
      (((empty 7).applyAll bumpy).apply (.setFrameOffset ⟨7, 2⟩ 1)).2 = (empty 7).applyAll bumpy ∧
      ∃ after,
        (((empty 7).applyAll bumpy).apply (.setLabel ⟨7, 1⟩ "d")).2.node? ⟨7, 1⟩ = some after ∧
        after.parent = some ⟨7, 2⟩ := by
  have hdeeds : (empty 7).deedsAll bumpy = [.add ⟨7, 0⟩ .block, .add ⟨7, 1⟩ (.ident ⟨"x"⟩ (some 8)),
      .add ⟨7, 2⟩ .program, .attach ⟨7, 2⟩ ⟨7, 0⟩, .attach ⟨7, 2⟩ ⟨7, 1⟩,
      .decorate ⟨7, 1⟩ (some ⟨7, 0⟩), .decorate ⟨7, 1⟩ none, .relabel ⟨7, 1⟩ "a",
      .relabel ⟨7, 1⟩ "b", .reoffset ⟨7, 1⟩ (some 4), .reoffset ⟨7, 1⟩ none,
      .decorate ⟨7, 0⟩ (some ⟨7, 1⟩)] := by
    decide +kernel
  obtain ⟨-, hshows, hrefused, hkeeps⟩ := applyAll_shows_deedsAll 7 bumpy
  have hroot := (hshows ⟨7, 2⟩ (by decide)).children_eq
  have hident := hshows ⟨7, 1⟩ (by decide)
  have hdecoration := hident.decoration_eq
  have hlabel := hident.label_eq
  rw [hdeeds] at hroot hdecoration hlabel
  refine ⟨hdeeds, hroot.trans ?_, hdecoration.trans ?_, hlabel.trans ?_, ?_, ?_⟩
  · rfl
  · rfl
  · rfl
  · obtain ⟨-, hsame⟩ | ⟨_, _, _, _, hedit, -⟩ :=
      hrefused (.setFrameOffset ⟨7, 2⟩ 1) (.notIdentifier ⟨7, 2⟩ .program) rfl
    · exact hsame
    · cases hedit
  · obtain ⟨after, hafter, hkept⟩ := hkeeps (.setLabel ⟨7, 1⟩ "d") ⟨7, 1⟩
      ⟨2, .ident ⟨"x"⟩ none, [], some ⟨7, 2⟩, none, "b"⟩ (by decide +kernel)
    exact ⟨after, hafter, hkept.parent_eq nofun nofun⟩

end Arena

end SyntaxOutline
