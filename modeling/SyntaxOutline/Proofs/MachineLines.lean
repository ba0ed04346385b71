import SyntaxOutline.Machine.Printer
import SyntaxOutline.Proofs.MachineWalks
import SyntaxOutline.Proofs.Printing

/-!
# Lines on a machine

A line is put together part by part, and the program stops at the first part
that makes it too long. Since parts are only ever added, that happens just if
the whole line is too long (`Arena.IsForest.formatLine_eq`). A depth that is
too great for a calculation gives no line either, as long as calculations are
checked: the blanks alone would be too many. Where they wrap, the line is set
off by what is left of its depth (`Machine.levels`).

A job on a machine therefore writes the lines it would write otherwise, up to
the first that is too long (`Printer.machine_run_eq`). If none is, a machine
does what an arena and a printer do by themselves
(`Printer.machine_run_of_holds`), and so does a session (`Session.performOn_eq`).
-/

namespace SyntaxOutline

theorem utf8ByteSize_blanks (count : Nat) : (blanks count).utf8ByteSize = count := by
  induction count with
  | zero => rfl
  | succ count ih =>
    have hblanks : blanks (count + 1) = String.singleton ' ' ++ blanks count := by
      rw [blanks, List.replicate_succ, String.ofList_cons]
      rfl
    rw [hblanks, String.utf8ByteSize_append, ih, Nat.add_comm]
    rfl

namespace Machine

variable {machine : Machine}

/-- **How many levels a line is set off** that stands at a depth. -/
def levels (machine : Machine) (depth : Nat) : Nat :=
  if machine.checks then depth else depth % machine.room

/-- A line as it is set off on a machine. -/
def setOff (machine : Machine) (line : Line) : Line :=
  { line with depth := machine.levels line.depth }

/-- Whether there is room for the text of a line. -/
def Holds (machine : Machine) (line : Line) : Prop :=
  line.text.utf8ByteSize < machine.room

instance (machine : Machine) (line : Line) : Decidable (machine.Holds line) :=
  inferInstanceAs (Decidable (_ < _))

theorem levels_of_checks (hchecks : machine.checks = true) (depth : Nat) :
    machine.levels depth = depth := if_pos hchecks

theorem levels_of_wraps (hwraps : machine.checks = false) (depth : Nat) :
    machine.levels depth = depth % machine.room := if_neg (Bool.eq_false_iff.1 hwraps)

/-- A depth that leaves room for the blanks is left as it is. -/
theorem levels_of_lt {depth : Nat} (h : depth < machine.room) : machine.levels depth = depth := by
  unfold levels
  split
  · rfl
  · exact Nat.mod_eq_of_lt h

/-- How far a line is set off tells the depth, up to what may be lost in wrapping. -/
theorem mod_eq_of_levels_eq {depth other : Nat} (h : machine.levels depth = machine.levels other) :
    depth % machine.room = other % machine.room := by
  cases hchecks : machine.checks with
  | true => rw [← levels_of_checks hchecks depth, h, levels_of_checks hchecks]
  | false => rw [← levels_of_wraps hchecks depth, h, levels_of_wraps hchecks]

theorem eq_of_levels_eq {depth other : Nat} (h : machine.levels depth = machine.levels other)
    (hroom : machine.checks = true ∨ (depth < machine.room ∧ other < machine.room)) :
    depth = other := by
  obtain hchecks | ⟨hdepth, hother⟩ := hroom
  · rwa [levels_of_checks hchecks, levels_of_checks hchecks] at h
  · rwa [levels_of_lt hdepth, levels_of_lt hother] at h

theorem setOff_of_checks (hchecks : machine.checks = true) (line : Line) :
    machine.setOff line = line := by
  rw [setOff, levels_of_checks hchecks]

/-- The blanks of a line that there is room for are not too many. -/
theorem Holds.two_mul_depth_lt {line : Line} (h : machine.Holds line) :
    2 * line.depth < machine.room := by
  refine Nat.lt_of_le_of_lt ?_ h
  have hblanks : 2 * line.depth = (SyntaxOutline.indentation line.depth).utf8ByteSize :=
    (utf8ByteSize_blanks _).symm
  rw [hblanks, Line.text]
  simp only [String.utf8ByteSize_append]
  omega

theorem Holds.depth_lt_words {line : Line} (h : machine.Holds line) :
    line.depth < machine.words := by
  have hdepth := h.two_mul_depth_lt
  rw [machine.words_eq]
  omega

theorem Holds.setOff_eq {line : Line} (h : machine.Holds line) : machine.setOff line = line := by
  have hdepth := h.two_mul_depth_lt
  rw [setOff, levels_of_lt (by omega)]

/-! ## Texts put together -/

theorem hold_of_lt {text : String} (h : text.utf8ByteSize < machine.room) :
    machine.hold text = .ok text := if_pos h

theorem hold_of_le {text : String} (h : machine.room ≤ text.utf8ByteSize) :
    machine.hold text = .error .overflow := if_neg (Nat.not_lt.2 h)

/-- A text that is held is not another one. -/
theorem eq_of_hold_eq_ok {text held : String} (h : machine.hold text = .ok held) : text = held := by
  unfold hold at h
  split at h
  · exact Except.ok.inj h
  · cases h

/-- **It is enough to hold a text when the next part has been added.** -/
theorem hold_bind_append (machine : Machine) (text part : String) :
    (machine.hold text >>= fun held => machine.append held part) = machine.hold (text ++ part) := by
  by_cases h : text.utf8ByteSize < machine.room
  · rw [hold_of_lt h]
    rfl
  · have hlong : machine.room ≤ (text ++ part).utf8ByteSize := by
      rw [String.utf8ByteSize_append]
      omega
    rw [hold_of_le (Nat.not_lt.1 h), hold_of_le hlong]
    rfl

/-- So it is when the text comes to stand behind another. -/
theorem append_hold_bind (machine : Machine) (text part : String) :
    (machine.hold part >>= fun held => machine.append text held) = machine.hold (text ++ part) := by
  by_cases h : part.utf8ByteSize < machine.room
  · rw [hold_of_lt h]
    rfl
  · have hlong : machine.room ≤ (text ++ part).utf8ByteSize := by
      rw [String.utf8ByteSize_append]
      omega
    rw [hold_of_le (Nat.not_lt.1 h), hold_of_le hlong]
    rfl

theorem spaces_eq (machine : Machine) (count : Nat) :
    machine.spaces count = machine.hold (blanks count) := by
  rw [spaces, hold, utf8ByteSize_blanks]

/-- **The blanks of a depth** are held, or else they are too many. -/
theorem indentation_eq (machine : Machine) (depth : Nat) :
    machine.indentation depth
      = machine.hold (SyntaxOutline.indentation (machine.levels depth)) := by
  cases hchecks : machine.checks with
  | true =>
    rw [levels_of_checks hchecks, SyntaxOutline.indentation, Nat.mul_comm]
    by_cases h : depth * 2 < machine.words
    · rw [indentation, fit_of_lt h]
      exact spaces_eq machine (depth * 2)
    · have hlong : machine.room ≤ (blanks (depth * 2)).utf8ByteSize := by
        rw [machine.words_eq] at h
        rw [utf8ByteSize_blanks]
        omega
      rw [indentation, fit_of_checks hchecks (Nat.not_lt.1 h), hold_of_le hlong]
      rfl
  | false =>
    have hword : depth * 2 % machine.words = 2 * (depth % machine.room) := by
      rw [machine.words_eq, Nat.mul_comm, Nat.mul_mod_mul_left]
    rw [levels_of_wraps hchecks, indentation, fit_of_wraps hchecks, hword]
    exact spaces_eq machine _

end Machine

namespace Arena

variable {arena : Arena} {node root : Handle}

theorem formatLine_of_not_mem (machine : Machine) (h : node ∉ arena) (heading : String)
    (depth : Nat) :
    machine.formatLine arena node heading depth = .error (.fault (.unknownNode node)) := by
  rw [Machine.formatLine, node_of_not_mem h]
  rfl

theorem IsForest.decorationNumber_eq_ok (hforest : arena.IsForest) {entry : Node}
    (hentry : arena.node? node = some entry) :
    arena.decorationNumber entry = .ok (entry.decoration.map arena.numberOf) := by
  have hdecoration := decoration?_of_node? hentry
  unfold decorationNumber
  cases htarget : entry.decoration with
  | none => rfl
  | some target =>
    dsimp only
    rw [number_eq_ok (hforest.decoration_mem (hdecoration.trans htarget))]
    rfl

/-- **A machine makes the line of a node**, unless it is too long. -/
theorem IsForest.formatLine_eq (hforest : arena.IsForest) (machine : Machine) (h : node ∈ arena)
    (heading : String) (depth : Nat) :
    machine.formatLine arena node heading depth
      = machine.hold (arena.lineOf node heading (machine.levels depth)).text := by
  obtain ⟨entry, hentry⟩ := exists_node? h
  rw [Machine.formatLine, node_eq_ok_iff.2 hentry, machine.indentation_eq, lineOf_of_node? hentry,
    Line.text]
  show (machine.hold _ >>= fun blanks => machine.append _ blanks >>= fun text =>
    machine.append text heading >>= fun text =>
    Stop.ofAnswer (arena.decorationNumber entry) >>= fun decoration =>
    machine.append text (Line.decorationPart decoration) >>= fun text =>
    machine.append text (Line.labelPart entry.label) >>= fun text =>
    machine.append text (Line.addressPart entry.kind.frameOffset)) = _
  rw [hforest.decorationNumber_eq_ok hentry, ← bind_assoc, machine.append_hold_bind, ← bind_assoc,
    machine.hold_bind_append]
  show (machine.hold _ >>= fun text =>
    machine.append text (Line.decorationPart (entry.decoration.map arena.numberOf)) >>= fun text =>
    machine.append text (Line.labelPart entry.label) >>= fun text =>
    machine.append text (Line.addressPart entry.kind.frameOffset)) = _
  rw [← bind_assoc, machine.hold_bind_append, ← bind_assoc, machine.hold_bind_append,
    machine.hold_bind_append]

end Arena

/-! ## Lines written -/

namespace Machine

variable {machine : Machine} {arena : Arena} {node root : Handle} {printer : Printer}

/-- Writes a line, if there is room for its text. -/
def writeLine (machine : Machine) (line : Line) : EStateM Stop Printer Unit := fun printer =>
  if machine.Holds line then (Printer.writeLine line).adaptExcept .fault printer
  else .error .overflow printer

/-- Writes lines one after the other, up to the first that is refused or too long. -/
def writeLines (machine : Machine) (lines : List Line) : EStateM Stop Printer Unit :=
  forM lines machine.writeLine

theorem emitOwn_eq (hforest : arena.IsForest) (h : node ∈ arena) (depth : Nat) :
    machine.emitOwn arena node depth
      = machine.writeLine (machine.setOff (arena.lineOf node (arena.headingOf node) depth)) := by
  have hline : arena.lineOf node (arena.headingOf node) (machine.levels depth)
      = machine.setOff (arena.lineOf node (arena.headingOf node) depth) := rfl
  funext printer
  rw [emitOwn, Arena.baseLabel_eq_ok h]
  show machine.emit arena (arena.headingOf node) node depth printer = _
  rw [emit, hforest.formatLine_eq machine h, writeLine, hline]
  by_cases hholds : machine.Holds (machine.setOff (arena.lineOf node (arena.headingOf node) depth))
  · rw [if_pos hholds, hold_of_lt hholds]
    rfl
  · rw [if_neg hholds, hold_of_le (Nat.not_lt.1 hholds)]
    rfl

/-- **A node that is met has its line written**, set off by what its depth comes to. -/
theorem meet_emitOwn (hforest : arena.IsForest) {visit : Handle × Nat} (h : visit.1 ∈ arena) :
    machine.meet (machine.emitOwn arena) visit
      = machine.writeLine (machine.setOff
          (arena.lineOf visit.1 (arena.headingOf visit.1) visit.2)) := by
  cases hchecks : machine.checks with
  | true =>
    by_cases hdepth : visit.2 < machine.words
    · rw [meet_of_lt _ hdepth, emitOwn_eq hforest h]
    · -- the blanks of such a line would be too many
      have hlong : ¬ machine.Holds (machine.setOff
          (arena.lineOf visit.1 (arena.headingOf visit.1) visit.2)) := by
        rw [setOff_of_checks hchecks]
        exact fun hholds => hdepth hholds.depth_lt_words
      funext printer
      rw [meet_of_checks hchecks _ (Nat.not_lt.1 hdepth), writeLine, if_neg hlong]
  | false =>
    have hlevels : machine.levels (visit.2 % machine.words) = machine.levels visit.2 := by
      rw [levels_of_wraps hchecks, levels_of_wraps hchecks, machine.words_eq,
        Nat.mod_mod_of_dvd _ (Nat.dvd_mul_left _ _)]
    rw [meet_of_wraps hchecks, emitOwn_eq hforest (by exact h)]
    unfold setOff Arena.lineOf wrap
    rw [hlevels]

theorem forM_meet_emitOwn (hforest : arena.IsForest) {visits : List (Handle × Nat)}
    (h : ∀ visit ∈ visits, visit.1 ∈ arena) :
    forM visits (machine.meet (machine.emitOwn arena))
      = machine.writeLines ((visits.map fun visit =>
          arena.lineOf visit.1 (arena.headingOf visit.1) visit.2).map machine.setOff) := by
  rw [writeLines, List.forM_map, List.forM_map]
  exact forM_congr fun visit hvisit => meet_emitOwn hforest (h visit hvisit)

/-- Where there is room for all lines they are written as by a printer alone. -/
theorem writeLines_of_holds {lines : List Line} (h : ∀ line ∈ lines, machine.Holds line) :
    machine.writeLines (lines.map machine.setOff)
      = (Printer.writeLines lines).adaptExcept .fault := by
  rw [writeLines, List.forM_map, Printer.writeLines, ← forM_adaptExcept]
  refine forM_congr fun line hline => ?_
  rw [(h line hline).setOff_eq]
  exact funext fun _ => if_pos (h line hline)

/-- A sink that takes everything is given no line that is too long. -/
theorem writeLines_of_not_holds {lines : List Line} (h : ¬ ∀ line ∈ lines, machine.Holds line)
    (hcapacity : printer.sink.capacity = none) :
    ∃ stopped, machine.writeLines lines printer = .error .overflow stopped := by
  induction lines generalizing printer with
  | nil => exact absurd nofun h
  | cons line rest ih =>
    rw [writeLines, List.forM_cons]
    by_cases hline : machine.Holds line
    · have hwrite : machine.writeLine line printer
          = .ok () (printer.advance (line.text ++ "\n").toUTF8 1) := by
        rw [writeLine, if_pos hline]
        exact adaptExcept_of_ok (Printer.writeLine_of_capacity_none hcapacity line)
      rw [bind_of_ok hwrite]
      exact ih (fun hrest => h (List.forall_mem_cons.2 ⟨hline, hrest⟩)) hcapacity
    · exact ⟨printer, bind_of_error (if_neg hline)⟩

theorem perform_of_fault {step : EStateM Stop Printer Unit} {stopped : Printer} {fault : Fault}
    (h : step printer = .error (.fault fault) stopped) :
    perform step printer = some ⟨.error fault, stopped, [], []⟩ := by
  unfold perform
  rw [h]

/-- A step that cannot stop the program is carried out as by a printer alone. -/
theorem perform_of_eq_adaptExcept {step : EStateM Stop Printer Unit} {plain : Printing Unit}
    (h : step printer = plain.adaptExcept .fault printer) :
    perform step printer = some (printer.perform plain) := by
  unfold perform Printer.perform
  rw [h, EStateM.adaptExcept]
  cases plain printer <;> rfl

end Machine

/-! ## Jobs on a machine -/

/-- The depth at which a job begins. -/
def Job.depth : Job → Nat
  | print _ _ | printTree _ => 0
  | visit _ depth | walk _ depth => depth

namespace Printer

variable {arena : Arena} {machine : Machine} {printer : Printer}

/-- What a job comes down to that does not end with a flush, if it is about a node that is there. -/
theorem run_eq_perform (hforest : arena.IsForest) {job : Job} (h : job.handle ∈ arena)
    (hflushes : job.flushes = false) (threshold : Threshold) (printer : Printer) :
    printer.run threshold arena job = printer.perform (writeLines (job.lines arena)) := by
  rw [Job.lines, if_pos h]
  cases job with
  | print heading root => cases hflushes
  | printTree root => cases hflushes
  | visit node depth => rw [run, visit_eq hforest (by exact h), Job.ownLines]
  | walk node depth => rw [run, walk_eq hforest (by exact h), Job.ownLines]

/-- **A job on a machine writes its lines**, as they are set off there. -/
theorem machine_run_eq (hforest : arena.IsForest) {job : Job} (h : job.handle ∈ arena)
    (hflushes : job.flushes = false) (hdepth : job.depth < machine.words) (threshold : Threshold)
    (printer : Printer) :
    machine.run threshold arena printer job
      = Machine.perform (machine.writeLines ((job.lines arena).map machine.setOff)) printer := by
  rw [Job.lines, if_pos h]
  cases job with
  | print heading root => cases hflushes
  | printTree root => cases hflushes
  | visit node depth =>
    have hmem : node ∈ arena := h
    have hword : depth < machine.words := hdepth
    rw [Machine.run, hforest.machine_visit_eq machine _ hmem hword,
      Machine.forM_meet_emitOwn hforest fun _ => hforest.mem_of_mem_visits hmem]
    rfl
  | walk node depth =>
    have hmem : node ∈ arena := h
    rw [Machine.run, hforest.machine_walkChildren_visit_eq machine _ hmem,
      Machine.forM_meet_emitOwn hforest fun _ hvisit =>
        hforest.mem_of_mem_visits hmem (List.mem_of_mem_tail hvisit), List.map_tail]
    rfl

/-- A print is none other on a machine: it begins at depth zero. -/
theorem machine_run_of_flushes {job : Job} (h : job.flushes = true) (threshold : Threshold)
    (printer : Printer) :
    machine.run threshold arena printer job = some (printer.run threshold arena job) := by
  cases job with
  | print heading root => rfl
  | printTree root => rfl
  | visit node depth => cases h
  | walk node depth => cases h

/-- A job about a node that is not there fails on a machine as it does otherwise. -/
theorem machine_run_of_not_mem {job : Job} (h : job.handle ∉ arena) (threshold : Threshold)
    (printer : Printer) :
    machine.run threshold arena printer job = some (printer.run threshold arena job) := by
  cases job with
  | print heading root => rfl
  | printTree root => rfl
  | visit node depth =>
    have hstranger : node ∉ arena := h
    have hown : machine.emitOwn arena node depth printer
        = .error (.fault (.unknownNode node)) printer := by
      rw [Machine.emitOwn, Arena.baseLabel, Arena.kind, Arena.node_of_not_mem hstranger]
      rfl
    rw [run_of_not_mem _ h]
    exact Machine.perform_of_fault (bind_of_error hown)
  | walk node depth =>
    rw [run_of_not_mem _ h]
    exact Machine.perform_of_fault
      (Arena.machine_walkChildren_of_not_mem machine h _ depth printer)

/-- **A job whose lines are not too long** is carried out on a machine as it is otherwise. -/
theorem machine_run_of_holds (hforest : arena.IsForest) {job : Job}
    (hdepth : job.depth < machine.words) (hlines : ∀ line ∈ job.lines arena, machine.Holds line)
    (threshold : Threshold) (printer : Printer) :
    machine.run threshold arena printer job = some (printer.run threshold arena job) := by
  by_cases h : job.handle ∈ arena
  · cases hflushes : job.flushes with
    | true => exact machine_run_of_flushes hflushes threshold printer
    | false =>
      rw [machine_run_eq hforest h hflushes hdepth, run_eq_perform hforest h hflushes]
      exact Machine.perform_of_eq_adaptExcept
        (congrFun (Machine.writeLines_of_holds hlines) printer)
  · exact machine_run_of_not_mem h threshold printer

/-- **At a sink that takes everything** a job without a flush writes all its lines, set off as they
are there, or else it stops the program. -/
theorem machine_run_of_capacity_none (hforest : arena.IsForest) {job : Job}
    (h : job.handle ∈ arena) (hflushes : job.flushes = false)
    (hdepth : job.depth < machine.words) (hcapacity : printer.sink.capacity = none)
    (threshold : Threshold) :
    machine.run threshold arena printer job
      = if ∀ line ∈ (job.lines arena).map machine.setOff, machine.Holds line then
          some ⟨.ok (), printer.advance (Line.bytes ((job.lines arena).map machine.setOff))
            (job.lines arena).length, [], []⟩
        else none := by
  rw [machine_run_eq hforest h hflushes hdepth]
  split
  · next hlines =>
    have hsame : ((job.lines arena).map machine.setOff).map machine.setOff
        = (job.lines arena).map machine.setOff :=
      (List.map_congr_left fun line hline => (hlines line hline).setOff_eq).trans (List.map_id' _)
    have hwrite := Machine.writeLines_of_holds hlines
    rw [hsame] at hwrite
    rw [Machine.perform_of_eq_adaptExcept (congrFun hwrite printer), perform,
      writeLines_of_capacity_none hcapacity, List.length_map]
  · next hlines =>
    obtain ⟨stopped, hstopped⟩ := Machine.writeLines_of_not_holds hlines hcapacity
    rw [Machine.perform, hstopped]

end Printer

/-! ## Sessions on a machine -/

namespace Session

variable {machine : Machine} {threshold : Threshold} {session : Session}

/-- **What a session on a machine needs room for**: the lines of a job that begins at a depth. -/
def HasRoomFor (machine : Machine) (session : Session) : Command → Prop
  | .print _ number job => ∀ arena, session.arena? number = some arena →
      job.depth < machine.words ∧ ∀ line ∈ job.lines arena, machine.Holds line
  | _ => True

/-- **A command that a machine has room for** is carried out there as it is in any session. -/
theorem performOn_eq (hforest : ∀ number arena, session.arena? number = some arena → arena.IsForest)
    {command : Command} (h : session.HasRoomFor machine command) :
    session.performOn machine threshold command = some (session.perform threshold command) := by
  cases command with
  | print printerNumber number job =>
    unfold performOn perform
    dsimp only
    cases session.printer? printerNumber with
    | none => rfl
    | some printer =>
      cases harena : session.arena? number with
      | none => rfl
      | some arena =>
        obtain ⟨hdepth, hlines⟩ := h arena harena
        dsimp only
        rw [Printer.machine_run_of_holds (hforest number arena harena) hdepth hlines]
        rfl
  | _ => rfl

end Session

end SyntaxOutline
