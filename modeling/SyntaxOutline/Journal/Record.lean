import SyntaxOutline.Journal.Event

/-!
# Records

The events that are told are written one to a record. A record opens with the level, filled up to
the width of the longest one, then comes the origin, filled up so that the messages line up with
those above. They can only line up with what has been written already, so the origins are as wide as
the longest so far.
-/

namespace SyntaxOutline

/-- A text filled up with blanks on the right. A text that is longer is left as it is. -/
def padRight (width : Nat) (text : String) : String :=
  text ++ String.ofList (List.replicate (width - text.length) ' ')

/-- The record of an event, with its origin filled up to a width. -/
def Event.record (width : Nat) (event : Event) : String :=
  " " ++ padRight 5 event.level.name ++ " " ++ padRight width event.origin ++ " > " ++
    event.message ++ "\n"

/-- The records of events one below the other, where the longest origin before them had the given
width. -/
def recordsFrom : Nat → List Event → String
  | _, [] => ""
  | width, event :: rest =>
    let wide := max width event.origin.length
    event.record wide ++ recordsFrom wide rest

/-- The width of the longest origin among events and those before them. -/
def widthAfter (width : Nat) (events : List Event) : Nat :=
  events.foldl (fun width event => max width event.origin.length) width

/-- **The journal as it is written down.** -/
def records (events : List Event) : String :=
  recordsFrom 0 events

@[simp] theorem records_nil : records [] = "" := rfl

/-- A journal can be written down in two goes. -/
theorem recordsFrom_append (width : Nat) (first second : List Event) :
    recordsFrom width (first ++ second) =
      recordsFrom width first ++ recordsFrom (widthAfter width first) second := by
  induction first generalizing width with
  | nil => simp [recordsFrom, widthAfter]
  | cons event rest ih => simp [recordsFrom, widthAfter, ih, String.append_assoc]

end SyntaxOutline
