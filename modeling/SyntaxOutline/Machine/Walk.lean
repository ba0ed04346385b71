import SyntaxOutline.Arena.Measure
import SyntaxOutline.Machine.Basic

/-!
# Walks on a machine

A walk that begins at a depth of the caller's choice works out the depth of a child anew for each
child, and only when there is one. So it may be that the program stops on the way down, with some of
the visits made, while a leaf can be visited at any depth whatsoever. A tally that is carried on
counts up two of its numbers, and may stop the program at either.

Apart from that, these are the walks and the tallies of an arena.
-/

namespace SyntaxOutline

/-- What a walk on a machine does at a node that it meets at a depth. -/
abbrev MachineAct (σ : Type) := Handle → Nat → EStateM Stop σ Unit

/-- An act that works nothing out, done on a machine. -/
def Act.onMachine {σ : Type} (act : Act σ) : MachineAct σ := fun node depth =>
  (act node depth).adaptExcept .fault

namespace Machine

variable {σ : Type}

/-- **Visits every child** of a node in stored order, at a depth that is worked out for it. -/
def walkChildren (machine : Machine) (arena : Arena) (visit : MachineAct σ) (node : Handle)
    (depth : Nat) : EStateM Stop σ Unit := do
  let children ← MonadExcept.ofExcept (Stop.ofAnswer (arena.children node))
  children.forM fun child => do visit child (← MonadExcept.ofExcept (machine.fit (depth + 1)))

/-- Visits a node and what stands below it, on the given number of levels. -/
def visitWithin (machine : Machine) (arena : Arena) (act : MachineAct σ) : Nat → MachineAct σ
  | 0, _, _ => pure ()
  | levels + 1, node, depth => do
    act node depth
    machine.walkChildren arena (machine.visitWithin arena act levels) node depth

/-- **Visits a node and all its descendants** in pre-order. -/
def visit (machine : Machine) (arena : Arena) (act : MachineAct σ) : MachineAct σ :=
  machine.visitWithin arena act (arena.size + 1)

/-- Records the children of a node, or all its descendants if `recurse` is set. Both the outcome and
what was met up to then are the result. -/
def survey (machine : Machine) (arena : Arena) (node : Handle) (depth : Nat) (recurse : Bool)
    (limit : Option Nat) : Except Stop Unit × Arena.Visits :=
  let note := (Arena.record limit).onMachine
  let visit := if recurse then machine.visit arena note else note
  match machine.walkChildren arena visit node depth [] with
  | .ok _ seen => (.ok (), seen)
  | .error stop seen => (.error stop, seen)

/-- The act that counts a node: first the node, and a decoration once it is found. -/
def count (machine : Machine) (arena : Arena) : MachineAct Tally := fun node depth tally =>
  match machine.fit (tally.nodes + 1) with
  | .error stop => .error stop tally
  | .ok nodes =>
    let entered : Tally := { tally with nodes := nodes, maxDepth := max tally.maxDepth depth }
    match arena.decoration node with
    | .error fault => .error (.fault fault) entered
    | .ok none => .ok () entered
    | .ok (some _) =>
      match machine.fit (entered.decorated + 1) with
      | .error stop => .error stop entered
      | .ok decorated => .ok () { entered with decorated := decorated }

/-- Carries a tally on over a list of visits, each of a node at a depth, up to the first that does
not come to its end. The tally is part of the result whether or not one does. -/
def tallyEach (machine : Machine) (arena : Arena) (visits : List (Handle × Nat)) (tally : Tally) :
    Except Stop Unit × Tally :=
  let run : EStateM Stop Tally Unit :=
    visits.forM fun (node, depth) => machine.visit arena (machine.count arena) node depth
  match run tally with
  | .ok _ tally => (.ok (), tally)
  | .error stop tally => (.error stop, tally)

end Machine

end SyntaxOutline
