import SyntaxOutline.Journal.Event

/-!
# Drafts

A **draft** is an arena in the making, together with what its making has told so far. Edits carried
out on a draft keep the two in step, so that a script of edits can be written down as a program: each
edit answers with the handle of its node, and the first one that is refused ends the script.
-/

namespace SyntaxOutline

/-- **An arena in the making**, with the events of its making. -/
structure Draft where
  arena : Arena
  events : List Event

/-- A script of edits, which ends early at the first edit refused. -/
abbrev Drafting := EStateM Fault Draft

namespace Draft

/-- A draft over an arena of which nothing has been told. -/
def start (arena : Arena) : Draft := ⟨arena, []⟩

/-- Carries out an edit. -/
def perform (edit : Edit) : Drafting Handle := fun draft =>
  let events := draft.events ++ draft.arena.events edit
  match draft.arena.apply edit with
  | (.ok node, arena) => .ok node ⟨arena, events⟩
  | (.error fault, arena) => .error fault ⟨arena, events⟩

/-- Adds a detached node. -/
def add (kind : Kind) : Drafting Handle :=
  perform (.add kind)

/-- Adds a node over the given children. -/
def addOver (kind : Kind) (children : List Handle) : Drafting Handle :=
  perform (.addOver kind children)

/-- Attaches a child. -/
def attach (parent child : Handle) : Drafting Unit :=
  discard (perform (.attach parent child))

/-- Decorates each of the given nodes with one target. -/
def decorateEach (nodes : List Handle) (target : Handle) : Drafting Unit :=
  nodes.forM fun node => discard (perform (.decorate node target))

/-- Gives a node a label. -/
def setLabel (node : Handle) (label : String) : Drafting Unit :=
  discard (perform (.setLabel node label))

/-- Adds an identifier, with its frame offset if it has been assigned one. -/
def addIdent (name : String) (offset : Option Nat) : Drafting Handle := do
  let node ← add (.ident name none)
  match offset with
  | some offset => perform (.setFrameOffset node offset)
  | none => pure node

/-- **How far a list of edits came**: the edits carried out, the handle that the last of them
answered or the fault that ended the run, and the draft it has left. -/
structure Progress where
  done : Nat
  outcome : Except Fault (Option Handle)
  draft : Draft

/-- Carries out edits one after the other up to the first that is refused, given how many went
before and what the last of those answered. -/
def performEach (done : Nat) (last : Option Handle) : List Edit → Draft → Progress
  | [], draft => ⟨done, .ok last, draft⟩
  | edit :: rest, draft =>
    match perform edit draft with
    | .ok node next => performEach (done + 1) (some node) rest next
    | .error fault stopped => ⟨done, .error fault, stopped⟩

end Draft

end SyntaxOutline
