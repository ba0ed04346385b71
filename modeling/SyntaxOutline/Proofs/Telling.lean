import SyntaxOutline.Proofs.JobLines
import SyntaxOutline.Session

/-!
# What is told decides nothing

A threshold is there to pick what is told, and should have no say in anything
else. For most of what a program does this is plain, since the events are
picked when all is done. A print is different: the account with which it
begins needs a number that has to be looked up, and it is worked out only if
the threshold admits it. So a print of an unknown root comes to its end at one
of two places, in the look-up for the account or later at the first line. It
is the same fault at both, and nothing has been written at either.

The loudest threshold admits everything, and serves as the measure. Whatever is
called for at some threshold is what is called for at the loudest, with the
events picked afterwards: this is said of a print (`Printer.print_eq_keep`), of
a command (`Session.perform_eq_keep`) and of any call (`Desk.perform_eq_keep`),
and by induction of the whole course of a program
(`Desk.transcript_eq_map_keep`). Two thresholds are then compared through the
loudest one.

The calls that are considered are all that a program can make: commands to a
session, visits on which a tally is carried on, and questions about an arena,
which may be of any kind. Of these only the commands know the threshold.
-/

namespace SyntaxOutline

namespace Threshold

/-- The threshold that admits everything. -/
def loudest : Threshold := .upTo .trace

@[simp] theorem admits_loudest (level : Level) : loudest.admits level = true := by
  cases level <;> rfl

@[simp] theorem keep_loudest (events : List Event) : loudest.keep events = events := by
  simp [keep]

/-- An account that can be given is told if the threshold admits it. -/
theorem consult_map_ok {α : Type} (threshold : Threshold) (event : α → Event) (level : Level)
    (hlevel : ∀ result, (event result).level = level) (result : α) :
    threshold.consult level ((Except.ok result).map event)
      = .ok (threshold.keep [event result]) := by
  rw [← hlevel result]
  exact threshold.consult_ok (event result)

end Threshold

/-! ## Prints -/

/-- A print with only those events that a threshold admits. -/
def Printed.keep (threshold : Threshold) (printed : Printed) : Printed :=
  { printed with
    opening := threshold.keep printed.opening
    closing := threshold.keep printed.closing }

theorem Printed.events_keep (threshold : Threshold) (printed : Printed) :
    (printed.keep threshold).events = threshold.keep printed.events :=
  (threshold.keep_append printed.opening printed.closing).symm

namespace Printer

/-- **A print at any threshold is the loudest print, with the events picked afterwards.** -/
theorem print_eq_keep (threshold : Threshold) (arena : Arena) (heading : String) (root : Handle)
    (printer : Printer) :
    printer.print threshold arena heading root
      = (printer.print .loudest arena heading root).keep threshold := by
  by_cases h : root ∈ arena
  · have hconsult : ∀ other : Threshold,
        other.consult .debug ((arena.number root).map .printing)
          = .ok (other.keep [.printing (arena.numberOf root)]) := by
      intro other
      rw [Arena.number_eq_ok h]
      exact other.consult_map_ok .printing .debug (fun _ => rfl) _
    rw [print, print, hconsult, hconsult, Threshold.keep_loudest]
    dsimp only
    cases outline arena heading root printer with
    | ok _ finished =>
      dsimp only
      rw [Threshold.keep_loudest]
      rfl
    | error fault stopped => rfl
  · -- the two places at which an unknown root is found out
    rw [print_of_not_mem h, print_of_not_mem h]
    rfl

theorem printTree_eq_keep (threshold : Threshold) (arena : Arena) (root : Handle)
    (printer : Printer) :
    printer.printTree threshold arena root
      = (printer.printTree .loudest arena root).keep threshold := by
  rw [printTree, printTree]
  cases arena.baseLabel root with
  | error fault => rfl
  | ok heading => exact print_eq_keep threshold arena heading root printer

theorem run_eq_keep (threshold : Threshold) (arena : Arena) (job : Job) (printer : Printer) :
    printer.run threshold arena job = (printer.run .loudest arena job).keep threshold := by
  -- a step that tells nothing leaves nothing to pick
  have hperform : ∀ step : Printing Unit,
      printer.perform step = (printer.perform step).keep threshold := by
    intro step
    rw [perform]
    cases step printer <;> rfl
  cases job with
  | print heading root => exact print_eq_keep threshold arena heading root printer
  | printTree root => exact printTree_eq_keep threshold arena root printer
  | visit node depth => exact hperform _
  | walk node depth => exact hperform _

end Printer

theorem Arena.render_eq_keep (threshold : Threshold) (arena : Arena) (root : Handle) :
    arena.render threshold root
      = ((arena.render .loudest root).1, threshold.keep (arena.render .loudest root).2) := by
  rw [render, render, Printer.printTree_eq_keep threshold]
  generalize (Printer.start .unbounded).printTree .loudest arena root = printed
  have hevents := printed.events_keep threshold
  obtain ⟨outcome, printer, opening, closing⟩ := printed
  cases outcome with
  | error fault => exact Prod.ext rfl hevents
  | ok done =>
    dsimp only [Printed.keep]
    cases Utf8.decode printer.sink.contents with
    | ok text => exact Prod.ext rfl hevents
    | error flaw => exact Prod.ext rfl hevents

/-! ## Sessions -/

/-- A step with only those events that a threshold admits. -/
def Step.keep (threshold : Threshold) (step : Step) : Step :=
  { step with events := threshold.keep step.events }

theorem Step.keep_mk_loudest (threshold : Threshold) (reply : Reply) (events : List Event)
    (session : Session) :
    Step.keep threshold ⟨reply, Threshold.loudest.keep events, session⟩
      = ⟨reply, threshold.keep events, session⟩ := by
  rw [Threshold.keep_loudest]
  rfl

namespace Session

/-- **A command at any threshold does what it does at the loudest.** -/
theorem perform_eq_keep (threshold : Threshold) (command : Command) (session : Session) :
    session.perform threshold command = (session.perform .loudest command).keep threshold := by
  cases command with
  | create => rfl
  | copy number =>
    dsimp only [perform]
    cases session.arena? number <;> rfl
  | plant sample =>
    dsimp only [perform]
    cases sample.build session.nextTag with
    | ok root draft => exact (Step.keep_mk_loudest threshold _ _ _).symm
    | error fault draft => exact (Step.keep_mk_loudest threshold _ _ _).symm
  | edit number edit =>
    dsimp only [perform]
    cases session.arena? number with
    | none => rfl
    | some arena => exact (Step.keep_mk_loudest threshold _ _ _).symm
  | editEach number edits =>
    dsimp only [perform]
    cases session.arena? number with
    | none => rfl
    | some arena => exact (Step.keep_mk_loudest threshold _ _ _).symm
  | render number root =>
    dsimp only [perform]
    cases session.arena? number with
    | none => rfl
    | some arena =>
      dsimp only
      rw [Arena.render_eq_keep threshold]
      rfl
  | start sink => rfl
  | print printerNumber number job =>
    dsimp only [perform]
    cases session.printer? printerNumber with
    | none => rfl
    | some printer =>
      cases session.arena? number with
      | none => rfl
      | some arena =>
        dsimp only [takePrint]
        rw [Printer.run_eq_keep threshold, Printed.events_keep]
        rfl
  | finish number =>
    dsimp only [perform]
    cases session.printer? number <;> rfl

end Session

/-! ## Programs -/

/-- **A call that a program makes**: a command to the session, visits on which a tally is carried on
up to the first that fails, or a question about an arena. -/
inductive Call (α : Type) where
  | command (command : Command)
  | tally (tally arena : Nat) (visits : List (Handle × Nat))
  | ask (arena : Nat) (question : Arena → α)

/-- **What a call answers.** -/
inductive Answer (α : Type) where
  | replied (reply : Reply)
  | tallied (outcome : Except Fault Unit)
  | told (answer : α)
  /-- There is no such arena, or no such tally. -/
  | missing

/-- **What a program works with**: a session, and tallies that are known by number. -/
structure Desk where
  session : Session
  tallies : Array Tally

/-- What a call has brought about. -/
structure Called (α : Type) where
  answer : Answer α
  /-- What was told meanwhile. -/
  events : List Event
  desk : Desk

/-- What a call has brought about, with only those events that a threshold admits. -/
def Called.keep {α : Type} (threshold : Threshold) (called : Called α) : Called α :=
  { called with events := threshold.keep called.events }

namespace Desk

variable {α : Type}

/-- **Makes a call.** -/
def perform (threshold : Threshold) (desk : Desk) : Call α → Called α
  | .command command =>
    let step := desk.session.perform threshold command
    ⟨.replied step.reply, step.events, { desk with session := step.session }⟩
  | .tally number arena visits =>
    match desk.tallies[number]?, desk.session.arena? arena with
    | some tally, some found =>
      let (outcome, carried) := found.tallyEach visits tally
      ⟨.tallied outcome, [], { desk with tallies := desk.tallies.modify number fun _ => carried }⟩
    | _, _ => ⟨.missing, [], desk⟩
  | .ask arena question =>
    match desk.session.arena? arena with
    | some found => ⟨.told (question found), [], desk⟩
    | none => ⟨.missing, [], desk⟩

/-- **The course of a program**: what each of its calls has brought about. -/
def transcript (threshold : Threshold) : List (Call α) → Desk → List (Called α)
  | [], _ => []
  | call :: rest, desk =>
    let called := desk.perform threshold call
    called :: called.desk.transcript threshold rest

theorem perform_eq_keep (threshold : Threshold) (desk : Desk) (call : Call α) :
    desk.perform threshold call = (desk.perform .loudest call).keep threshold := by
  cases call with
  | command command =>
    dsimp only [perform]
    rw [Session.perform_eq_keep threshold]
    rfl
  | tally number arena visits =>
    dsimp only [perform]
    cases desk.tallies[number]? with
    | none => rfl
    | some tally => cases desk.session.arena? arena <;> rfl
  | ask arena question =>
    dsimp only [perform]
    cases desk.session.arena? arena <;> rfl

/-- **A program takes the same course at any threshold**, with the events picked at each call. -/
theorem transcript_eq_map_keep (threshold : Threshold) (calls : List (Call α)) (desk : Desk) :
    desk.transcript threshold calls
      = (desk.transcript .loudest calls).map (Called.keep threshold) := by
  induction calls generalizing desk with
  | nil => rfl
  | cons call rest ih =>
    rw [transcript, transcript, List.map_cons, perform_eq_keep threshold]
    exact congrArg _ (ih (desk.perform .loudest call).desk)

/-- **The threshold decides what is told, and nothing else.** Whatever calls a program makes, with
handles, labels, depths and sinks of any kind, each has the same answer at any two thresholds and
leaves the same behind: the arenas, what the sinks have taken and how often they were flushed, the
lines that the printers have counted, and the tallies. Of two thresholds one admits all that the
other admits, and what is told at the stricter one in the course of each call is what it admits of
what is told at the other. -/
theorem transcript_of_thresholds (first second : Threshold) (calls : List (Call α)) (desk : Desk) :
    (desk.transcript first calls).map Called.answer
        = (desk.transcript second calls).map Called.answer ∧
      (desk.transcript first calls).map Called.desk
        = (desk.transcript second calls).map Called.desk ∧
      ((∀ level, first.admits level → second.admits level) →
        (desk.transcript first calls).map Called.events
          = (desk.transcript second calls).map fun called => first.keep called.events) ∧
      ((∀ level, first.admits level → second.admits level) ∨
        ∀ level, second.admits level → first.admits level) := by
  rw [transcript_eq_map_keep first, transcript_eq_map_keep second]
  simp only [List.map_map]
  refine ⟨rfl, rfl, fun hstricter => ?_, first.admits_total second⟩
  refine List.map_congr_left (fun called _ => ?_)
  show first.keep called.events = first.keep (second.keep called.events)
  exact (Threshold.keep_keep hstricter called.events).symm

/-- Calls that print a tree of one node to a sink with room for its line, then again, and then a
node that is not there; the last one carries a tally on over a visit to that. -/
def patchy : List (Call (Except Fault String)) :=
  [.command .create, .command (.edit 0 (.add .block)), .command (.start (.bounded 12 "no room")),
    .command (.print 0 0 (.print "Root" ⟨7, 0⟩)), .command (.print 0 0 (.print "Root" ⟨7, 0⟩)),
    .command (.print 0 0 (.print "Root" ⟨7, 1⟩)), .ask 0 (fun arena => arena.baseLabel ⟨7, 0⟩),
    .tally 0 0 [(⟨7, 1⟩, 3)]]

/-- The last print of these is found out at the first line if nothing is told, and in the look-up
for its account if debugging is. -/
theorem transcript_of_thresholds_patchy :
    ((Desk.mk ⟨7, #[], #[]⟩ #[.zero]).transcript .off patchy).map Called.answer
        = ((Desk.mk ⟨7, #[], #[]⟩ #[.zero]).transcript (.upTo .debug) patchy).map Called.answer ∧
      ((Desk.mk ⟨7, #[], #[]⟩ #[.zero]).transcript (.upTo .debug) patchy).map Called.events
        = [[], [], [], [.printing 1, .printed 1], [.printing 1], [], [], []] := by
  obtain ⟨hanswers, -⟩ :=
    transcript_of_thresholds .off (.upTo .debug) patchy (Desk.mk ⟨7, #[], #[]⟩ #[.zero])
  obtain ⟨-, -, hevents, -⟩ :=
    transcript_of_thresholds (.upTo .debug) .loudest patchy (Desk.mk ⟨7, #[], #[]⟩ #[.zero])
  refine ⟨hanswers, (hevents (fun _ _ => Threshold.admits_loudest _)).trans ?_⟩
  decide +kernel

end Desk

end SyntaxOutline
