import SyntaxOutline.Proofs.Reachable
import SyntaxOutline.Session

/-!
# The arenas of a session

Arenas come into a session in three ways: started empty, copied, and built as
a sample. From then on they are changed by edits alone. Of a single command
this is said by `turn_perform`, which takes a session from one **turn** to the
next: an arena arrives with the next tag or as a copy, or one of those that
are there changes by edits, or the arenas rest. A sample is no exception,
because its script is nothing but edits (`Sample.isScript`). So an arena that
is there after a command is some edits away from one that was there before, or
from an empty one with the next tag (`arena?_perform`).

So whatever a session has been told to do, each of its arenas is reachable,
copies included, and the links of each make a forest.
-/

namespace SyntaxOutline

/-! ## Scripts are edits -/

namespace Draft

variable {α β : Type} {edit : Edit} {draft next : Draft}

/-- **A script that does nothing but edits**: the arena it leaves when it comes to its end is some
edits away from the one it began with. -/
def IsScript (script : Drafting α) : Prop :=
  ∀ draft result next, script draft = .ok result next →
    ∃ edits, next.arena = draft.arena.applyAll edits

theorem isScript_pure (result : α) : IsScript (pure result : Drafting α) := by
  rintro draft _ _ ⟨⟩
  exact ⟨[], rfl⟩

/-- To edit a draft is to edit its arena and to tell of it, whether the edit is carried out or
refused. -/
theorem perform_eq_ok {node : Handle} (h : perform edit draft = .ok node next) :
    (draft.arena.apply edit).1 = .ok node ∧
      next = ⟨(draft.arena.apply edit).2, draft.events ++ draft.arena.events edit⟩ := by
  unfold perform at h
  generalize draft.arena.apply edit = carried at h ⊢
  obtain ⟨outcome, changed⟩ := carried
  cases outcome with
  | error fault => cases h
  | ok done =>
    cases h
    exact ⟨rfl, rfl⟩

theorem perform_eq_error {fault : Fault} (h : perform edit draft = .error fault next) :
    (draft.arena.apply edit).1 = .error fault ∧
      next = ⟨(draft.arena.apply edit).2, draft.events ++ draft.arena.events edit⟩ := by
  unfold perform at h
  generalize draft.arena.apply edit = carried at h ⊢
  obtain ⟨outcome, changed⟩ := carried
  cases outcome with
  | ok done => cases h
  | error refusal =>
    cases h
    exact ⟨rfl, rfl⟩

theorem isScript_perform (edit : Edit) : IsScript (perform edit) := by
  intro draft node next h
  obtain ⟨-, rfl⟩ := perform_eq_ok h
  exact ⟨[edit], rfl⟩

theorem isScript_bind {script : Drafting α} {rest : α → Drafting β} (hscript : IsScript script)
    (hrest : ∀ result, IsScript (rest result)) : IsScript (script >>= rest) := by
  intro draft result next h
  change EStateM.bind script rest draft = _ at h
  unfold EStateM.bind at h
  cases hfirst : script draft with
  | error fault stopped =>
    rw [hfirst] at h
    cases h
  | ok first middle =>
    rw [hfirst] at h
    obtain ⟨edits, hedits⟩ := hscript draft first middle hfirst
    obtain ⟨more, hmore⟩ := hrest first middle result next h
    refine ⟨edits ++ more, ?_⟩
    rw [hmore, hedits, Arena.applyAll_append]

theorem isScript_discard {script : Drafting α} (hscript : IsScript script) :
    IsScript (discard script) :=
  isScript_bind hscript (fun _ => isScript_pure _)

theorem isScript_forM {script : β → Drafting PUnit} (hscript : ∀ item, IsScript (script item))
    (items : List β) : IsScript (items.forM script) := by
  induction items with
  | nil => exact isScript_pure _
  | cons item rest ih => exact isScript_bind (hscript item) (fun _ => ih)

theorem isScript_add (kind : Kind) : IsScript (add kind) :=
  isScript_perform _

theorem isScript_addOver (kind : Kind) (children : List Handle) :
    IsScript (addOver kind children) :=
  isScript_perform _

theorem isScript_attach (parent child : Handle) : IsScript (attach parent child) :=
  isScript_discard (isScript_perform _)

theorem isScript_setLabel (node : Handle) (label : String) : IsScript (setLabel node label) :=
  isScript_discard (isScript_perform _)

theorem isScript_decorateEach (nodes : List Handle) (target : Handle) :
    IsScript (decorateEach nodes target) :=
  isScript_forM (fun _ => isScript_discard (isScript_perform _)) nodes

theorem isScript_addIdent (name : String) (offset : Option Nat) :
    IsScript (addIdent name offset) := by
  refine isScript_bind (isScript_add _) (fun node => ?_)
  cases offset with
  | none => exact isScript_pure node
  | some offset => exact isScript_perform _

/-- Edits carried out up to the first refused are edits. -/
theorem performEach_arena (done : Nat) (last : Option Handle) (edits : List Edit) (draft : Draft) :
    ∃ tried, (performEach done last edits draft).draft.arena = draft.arena.applyAll tried := by
  induction edits generalizing done last draft with
  | nil => exact ⟨[], rfl⟩
  | cons edit rest ih =>
    rw [performEach]
    cases hperform : perform edit draft with
    | ok node next =>
      obtain ⟨first, hfirst⟩ := isScript_perform edit draft node next hperform
      obtain ⟨tried, htried⟩ := ih (done + 1) (some node) next
      refine ⟨first ++ tried, ?_⟩
      rw [Arena.applyAll_append, ← hfirst]
      exact htried
    | error fault stopped =>
      obtain ⟨-, rfl⟩ := perform_eq_error hperform
      exact ⟨[edit], rfl⟩

end Draft

open Draft in
theorem Sample.isScript (sample : Sample) : IsScript sample.script := by
  cases sample with
  | factorial =>
    show IsScript factorialScript
    unfold factorialScript
    -- one bind for each line of the script
    repeat' with_reducible first
      | exact isScript_pure _
      | exact isScript_add _
      | exact isScript_addIdent _ _
      | exact isScript_addOver _ _
      | exact isScript_decorateEach _ _
      | exact isScript_setLabel _ _
      | refine isScript_bind ?_ (fun _ => ?_)
  | outline =>
    show IsScript outlineScript
    unfold outlineScript
    repeat' with_reducible first
      | exact isScript_pure _
      | exact isScript_add _
      | exact isScript_forM (isScript_attach _) _
      | refine isScript_bind ?_ (fun _ => ?_)
  | nested =>
    show IsScript nestedScript
    exact isScript_bind (isScript_add _) (fun _ =>
      isScript_bind (isScript_addOver _ _) (fun _ => isScript_addOver _ _))

/-! ## One command -/

/-- **How an arena has come into a session**: started with a tag of its own, or as a copy. -/
inductive Arrival where
  | founded (number : Nat)
  | copied (source number : Nat)
  deriving DecidableEq

/-- The arrival that a command has brought about, by how it was answered. -/
def Command.arrival? : Command → Reply → Option Arrival
  | .create, .created number => some (.founded number)
  | .plant _, .planted number _ => some (.founded number)
  | .copy source, .created number => some (.copied source number)
  | _, _ => none

namespace Arrival

/-- The number by which an arena was known before an arrival, given the one it goes by afterwards:
a copy was its source. -/
def before : Arrival → Nat → Nat
  | founded _, number => number
  | copied source copy, number => if number = copy then source else number

theorem before_copied (source copy number : Nat) :
    before (copied source copy) number = if number = copy then source else number := rfl

end Arrival

namespace Session

variable {session next : Session} {number : Nat} {found : Arena}

/-- **A turn of a session**, as the arenas see it, with the arrival that it has brought about: an
arena is started with the next tag or copied, or some edits change one of those that were there. -/
inductive Turn (session next : Session) : Option Arrival → Prop
  | founds (edits : List Edit)
    (harenas : next.arenas = session.arenas.push ((Arena.empty session.nextTag).applyAll edits))
    (htag : next.nextTag = session.nextTag + 1) :
    Turn session next (some (.founded session.arenas.size))
  | copies {source : Nat} {arena : Arena} (harena : session.arena? source = some arena)
    (harenas : next.arenas = session.arenas.push arena) (htag : next.nextTag = session.nextTag) :
    Turn session next (some (.copied source session.arenas.size))
  | changes {place : Nat} {arena : Arena} (edits : List Edit)
    (harena : session.arena? place = some arena)
    (harenas : next.arenas = session.arenas.modify place fun _ => arena.applyAll edits)
    (htag : next.nextTag = session.nextTag) : Turn session next none
  | rests (harenas : next.arenas = session.arenas) (htag : session.nextTag ≤ next.nextTag) :
    Turn session next none

/-- A further arena is known by the next number. -/
theorem arena?_of_push_self {arena : Arena}
    (harenas : next.arenas = session.arenas.push arena) :
    next.arena? session.arenas.size = some arena := by
  rw [arena?, harenas, Array.getElem?_push, if_pos rfl]

/-- When a further arena is taken in, the others keep their numbers. -/
theorem arena?_of_push {arena : Arena} (harenas : next.arenas = session.arenas.push arena)
    (hfound : session.arena? number = some found) : next.arena? number = some found := by
  have hlt := (Array.getElem?_eq_some_iff.1 hfound).1
  rw [arena?, harenas, Array.getElem?_push, if_neg (Nat.ne_of_lt hlt)]
  exact hfound

/-- **Every command makes a turn.** -/
theorem turn_perform (threshold : Threshold) (command : Command) (session : Session) :
    Turn session (session.perform threshold command).session
      (command.arrival? (session.perform threshold command).reply) := by
  cases command with
  | create => exact Turn.founds [] rfl rfl
  | copy source =>
    dsimp only [perform]
    cases harena : session.arena? source with
    | none => exact Turn.rests rfl (Nat.le_refl _)
    | some arena => exact Turn.copies harena rfl rfl
  | plant sample =>
    dsimp only [perform]
    cases hbuild : sample.build session.nextTag with
    | error fault draft => exact Turn.rests rfl (Nat.le_succ _)
    | ok root draft =>
      obtain ⟨edits, hedits⟩ := sample.isScript _ root draft hbuild
      exact Turn.founds edits (congrArg session.arenas.push hedits) rfl
  | edit place edit =>
    dsimp only [perform]
    cases harena : session.arena? place with
    | none => exact Turn.rests rfl (Nat.le_refl _)
    | some arena => exact Turn.changes [edit] harena rfl rfl
  | editEach place edits =>
    dsimp only [perform]
    cases harena : session.arena? place with
    | none => exact Turn.rests rfl (Nat.le_refl _)
    | some arena =>
      obtain ⟨tried, htried⟩ := Draft.performEach_arena 0 none edits (.start arena)
      exact Turn.changes tried harena
        (congrArg (fun changed => session.arenas.modify place fun _ => changed) htried) rfl
  | render place root =>
    dsimp only [perform]
    cases session.arena? place <;> exact Turn.rests rfl (Nat.le_refl _)
  | start sink => exact Turn.rests rfl (Nat.le_refl _)
  | print printer place job =>
    dsimp only [perform]
    cases session.printer? printer <;> cases session.arena? place <;>
      exact Turn.rests rfl (Nat.le_refl _)
  | finish printer =>
    dsimp only [perform]
    cases session.printer? printer <;> exact Turn.rests rfl (Nat.le_refl _)

/-- An arena that is there after a command is some edits away from the one it was before, or it was
started by the command and is some edits away from an empty one with the next tag. -/
theorem Turn.exists_origin {arrival : Option Arrival} (h : Turn session next arrival)
    (hfound : next.arena? number = some found) :
    ∃ origin edits, found = origin.applyAll edits ∧
      (session.arena? (arrival.elim number (Arrival.before · number)) = some origin ∨
        arrival = some (.founded number) ∧ origin = .empty session.nextTag) := by
  unfold arena? at hfound
  cases h with
  | founds edits harenas =>
    rw [harenas, Array.getElem?_push] at hfound
    split at hfound
    · next hnew =>
      cases hfound
      exact ⟨_, edits, rfl, Or.inr ⟨congrArg (some ∘ Arrival.founded) hnew.symm, rfl⟩⟩
    · exact ⟨found, [], rfl, Or.inl hfound⟩
  | copies harena harenas =>
    rw [harenas, Array.getElem?_push] at hfound
    refine ⟨found, [], rfl, Or.inl ?_⟩
    rw [Option.elim_some, Arrival.before_copied]
    split at hfound
    · next hnew =>
      rw [if_pos hnew, harena]
      exact hfound
    · next hold =>
      rw [if_neg hold]
      exact hfound
  | @changes place arena edits harena harenas =>
    rw [harenas, Array.getElem?_modify] at hfound
    split at hfound
    · next hplace =>
      obtain ⟨_, -, heq⟩ := Option.map_eq_some_iff.1 hfound
      exact ⟨arena, edits, heq.symm, Or.inl (hplace ▸ harena)⟩
    · exact ⟨found, [], rfl, Or.inl hfound⟩
  | rests harenas =>
    rw [harenas] at hfound
    exact ⟨found, [], rfl, Or.inl hfound⟩

/-- **What a command does to the arenas**: each arena that is there afterwards is some edits away
from one that was there before, or from an empty one with the next tag. -/
theorem arena?_perform {threshold : Threshold} {command : Command}
    (h : (session.perform threshold command).session.arena? number = some found) :
    ∃ origin edits, found = origin.applyAll edits ∧
      ((∃ place, session.arena? place = some origin) ∨ origin = .empty session.nextTag) := by
  obtain ⟨origin, edits, hfound, horigin | ⟨-, horigin⟩⟩ :=
    (turn_perform threshold command session).exists_origin h
  · exact ⟨origin, edits, hfound, Or.inl ⟨_, horigin⟩⟩
  · exact ⟨origin, edits, hfound, Or.inr horigin⟩

/-! ## Whole sessions -/

/-- **Every arena of a session is reachable**, if those that were there at the beginning are. -/
theorem reachable_of_arena? (threshold : Threshold) (commands : List Command)
    (hstart : ∀ number arena, session.arena? number = some arena → arena.Reachable)
    (h : (session.performAll threshold commands).arena? number = some found) :
    found.Reachable := by
  induction commands generalizing session with
  | nil => exact hstart number found h
  | cons command rest ih =>
    refine ih (fun place arena harena => ?_) h
    obtain ⟨origin, edits, rfl, ⟨before, hbefore⟩ | rfl⟩ := arena?_perform harena
    · exact (hstart before origin hbefore).applyAll edits
    · exact (Arena.Reachable.empty session.nextTag).applyAll edits

/-- **The links of every arena make a forest**, whatever a session was told to do: arenas were
started, copied and planted, and edited through handles of every origin, refused edits included.
Moreover the children belong to the arena, as the parents and decorations of a forest do, and all
lists of children together name no node twice. -/
theorem isForest_of_arena? (threshold : Threshold) (firstTag : Nat) (commands : List Command)
    (number : Nat) {arena : Arena}
    (h : ((Session.mk firstTag #[] #[]).performAll threshold commands).arena? number
      = some arena) :
    arena.IsForest ∧
      (∀ parent child, child ∈ arena.childrenOf parent → parent ∈ arena ∧ child ∈ arena) ∧
      (arena.handles.flatMap arena.childrenOf).Nodup := by
  have hforest : arena.IsForest := by
    refine Arena.Reachable.isForest (reachable_of_arena? threshold commands ?_ h)
    intro place origin horigin
    cases horigin
  refine ⟨hforest, fun parent child hchild => ?_, hforest.nodup_flatMap_childrenOf⟩
  exact ⟨Arena.mem_of_mem_childrenOf hchild, hforest.child_mem hchild⟩

/-- Commands that copy an arena after an addition refused half-way, and add to the copy a link that
may be made, after one that would close a cycle and before a decoration from another arena. -/
def copyAndEdit : List Command :=
  [.create, .edit 0 (.add .block), .edit 0 (.add (.ident ⟨"x"⟩ none)),
    .edit 0 (.addOver .program [⟨7, 0⟩, ⟨7, 0⟩, ⟨7, 1⟩]), .copy 0,
    .edit 1 (.attach ⟨7, 0⟩ ⟨7, 2⟩), .edit 1 (.attach ⟨7, 0⟩ ⟨7, 1⟩),
    .edit 1 (.decorate ⟨7, 1⟩ ⟨9, 0⟩)]

theorem isForest_of_arena?_copyAndEdit :
    ∃ arena : Arena,
      ((Session.mk 7 #[] #[]).performAll .off copyAndEdit).arena? 1 = some arena ∧
      arena.childrenOf ⟨7, 2⟩ = [⟨7, 0⟩] ∧ arena.childrenOf ⟨7, 0⟩ = [⟨7, 1⟩] ∧
      arena.IsForest ∧
      (∀ parent child, child ∈ arena.childrenOf parent → parent ∈ arena ∧ child ∈ arena) ∧
      (arena.handles.flatMap arena.childrenOf).Nodup :=
  ⟨_, rfl, rfl, rfl, isForest_of_arena? .off 7 copyAndEdit 1 rfl⟩

end Session

end SyntaxOutline
