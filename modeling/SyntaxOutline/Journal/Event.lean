import SyntaxOutline.Arena.Edit
import SyntaxOutline.Journal.Level

/-!
# Events

The doings that are worth telling, by what happened. Each event has a level, an origin and a
message. A new node and a decoration are told by the edits that bring them about; a printer tells
when it begins a tree and, if it comes to the end, how many lines that made; the samples and the
command line add theirs.

An edit tells at most one thing, and an attachment nothing. A new node is told even if one of the
children that were to come under it is refused, since the node is there; a decoration is told only
if it is carried out.
-/

namespace SyntaxOutline

/-- **Something that happened.** -/
inductive Event where
  /-- A node was added under a number, and got a handle. -/
  | added (kind : Kind) (number : Nat) (handle : Handle)
  /-- A node was decorated with another, both given by number. -/
  | decorated (node target : Nat)
  /-- A sample is being built. -/
  | building (sample : String)
  /-- A tree is about to be printed; the number is its root's. -/
  | printing (root : Nat)
  /-- A tree has been printed. -/
  | printed (lines : Nat)
  /-- A sample was built: the nodes of its tree, and those of its arena. -/
  | built (sample : String) (nodes size : Nat)
  /-- The root line was given its heading. -/
  | headed (label : String)
  /-- The tree was written to a file. -/
  | written (path : String)
  deriving DecidableEq

namespace Event

/-- How much an event matters. -/
def level : Event → Level
  | added _ _ _ => .trace
  | decorated _ _ | building _ | printing _ | printed _ | headed _ => .debug
  | built _ _ _ | written _ => .info

/-- The part of the program that tells of an event. -/
def origin : Event → String
  | added _ _ _ | decorated _ _ => "xtree::ast::tree"
  | building _ => "xtree::samples"
  | printing _ | printed _ => "xtree::printer"
  | built _ _ _ | headed _ | written _ => "xtree"

/-- What is told of an event. -/
def message : Event → String
  | added kind number handle =>
    "new " ++ kind.name ++ " node " ++ number.repr ++ " as " ++ toString handle
  | decorated node target => "decorating node " ++ node.repr ++ " with node " ++ target.repr
  | building sample => "building sample tree '" ++ sample ++ "'"
  | printing root => "printing tree rooted at node " ++ root.repr
  | printed lines => "printed " ++ lines.repr ++ " lines"
  | built sample nodes size =>
    "built sample '" ++ sample ++ "' with " ++ nodes.repr ++ " nodes (" ++ size.repr ++
      " in arena)"
  | headed label => "root label: " ++ label
  | written path => "tree written to: " ++ path

end Event

namespace Threshold

/-- **The events that are told**, in their order. -/
def keep (threshold : Threshold) (events : List Event) : List Event :=
  events.filter fun event => threshold.admits event.level

/-- An event whose account has first to be worked out, which may fail. It is worked out only if
events of its level are told, so it is only then that the failure shows. -/
def consult (threshold : Threshold) (level : Level) (account : Except Fault Event) :
    Except Fault (List Event) :=
  if threshold.admits level then account.map ([·]) else .ok []

@[simp] theorem keep_nil (threshold : Threshold) : threshold.keep [] = [] := rfl

theorem keep_append (threshold : Threshold) (first second : List Event) :
    threshold.keep (first ++ second) = threshold.keep first ++ threshold.keep second :=
  List.filter_append ..

/-- Keeping twice keeps what the stricter threshold admits. -/
theorem keep_keep {stricter threshold : Threshold}
    (h : ∀ level, stricter.admits level → threshold.admits level) (events : List Event) :
    stricter.keep (threshold.keep events) = stricter.keep events := by
  unfold keep
  rw [List.filter_filter]
  refine List.filter_congr (fun event _ => ?_)
  cases hadmits : stricter.admits event.level with
  | false => rfl
  | true => rw [h event.level hadmits]; rfl

/-- An account that can be given is told like any event. -/
theorem consult_ok (threshold : Threshold) (event : Event) :
    threshold.consult event.level (.ok event) = .ok (threshold.keep [event]) := by
  unfold consult keep
  cases hadmits : threshold.admits event.level with
  | false => simp [hadmits]
  | true => simp [hadmits, Except.map]

@[simp] theorem keep_off (events : List Event) : off.keep events = [] := by
  simp [keep]

end Threshold

/-- **What an edit tells** of itself when it is carried out on an arena. -/
def Arena.events (arena : Arena) : Edit → List Event
  | .add kind | .addOver kind _ => [.added kind (arena.size + 1) arena.next]
  | .decorate node target =>
    match arena.node? node, arena.node? target with
    | some entry, some other => [.decorated entry.number other.number]
    | _, _ => []
  | _ => []

end SyntaxOutline
