import Mathlib.Data.List.Infix
import SyntaxOutline.Proofs.Printing

/-!
# Printing to a sink that may fill up

A sink with room for only so many bytes can refuse at any byte: within a
line, between a line and its newline, in the middle of a walk. A printer that
has met with a refusal may be used again, and its later jobs meet a full sink.

For all that, a printer to such a sink is easily told. What counts is the
lines that its jobs have asked for so far, refused ones included: the sink
holds as much of them as there is room for, and the printer has counted those
that are there to the last newline. `Printer.past` is the printer with just
that to it, and each step leads from such a printer to such a printer, by one
line (`writeLine_past`), by the lines of a job (`writeLines_past`), by a job
(`run_past`) and by a run of jobs (`runAll_start`). A step is refused just if
it has something to write and all that was asked for does not fit.
-/

namespace SyntaxOutline

/-! ## Bytes in two parts -/

/-- Where bytes are cut in two, so is the room for them. -/
theorem extract_zero_append (first second : ByteArray) (room : Nat) :
    (first ++ second).extract 0 room
      = first.extract 0 room ++ second.extract 0 (room - first.size) := by
  rw [ByteArray.extract_append, Nat.zero_sub]

namespace Sink

/-- **It does not matter whether bytes come at once or in two parts**, where the second is given
only if the first was taken. -/
theorem write_append (first second : ByteArray) (sink : Sink) :
    sink.write (first ++ second)
      = match sink.write first with
        | (none, taken) => taken.write second
        | (some refusal, full) => (some refusal, full) := by
  cases hcapacity : sink.capacity with
  | none =>
    rw [write_of_capacity_none hcapacity, write_of_capacity_none hcapacity]
    dsimp only
    rw [write_of_capacity_none (by exact hcapacity), ByteArray.append_assoc]
  | some capacity =>
    rw [write_eq_of_capacity hcapacity, write_eq_of_capacity hcapacity, extract_zero_append,
      ByteArray.size_append]
    by_cases hfirst : first.size ≤ capacity - sink.contents.size
    · have hboth : first.size + second.size ≤ capacity - sink.contents.size ↔
          second.size ≤ capacity - sink.contents.size - first.size := by omega
      have hall : first.extract 0 (capacity - sink.contents.size) = first := by
        rw [← Nat.max_eq_left hfirst, ByteArray.extract_zero_max_size]
      rw [if_pos hfirst, hall]
      dsimp only
      rw [write_eq_of_capacity (by exact hcapacity), ByteArray.size_append, ByteArray.append_assoc,
        Nat.sub_add_eq]
      exact congrArg (Prod.mk · _) (if_congr hboth rfl rfl)
    · have hnone : capacity - sink.contents.size - first.size = 0 := by omega
      have hboth : ¬ first.size + second.size ≤ capacity - sink.contents.size := by omega
      rw [if_neg hfirst, if_neg hboth, hnone, ByteArray.extract_same, ByteArray.append_empty]

end Sink

namespace Line

/-- **How many lines are whole** among the first so many bytes: a line is, if what comes before it,
the line itself and its newline are no more bytes than that. -/
def wholeIn (capacity : Nat) (lines : List Line) : Nat :=
  lines.inits.countP (fun done => decide (done ≠ [] ∧ (bytes done).size ≤ capacity))

theorem wholeIn_append_singleton (capacity : Nat) (lines : List Line) (line : Line) :
    wholeIn capacity (lines ++ [line])
      = wholeIn capacity lines
        + if (bytes (lines ++ [line])).size ≤ capacity then 1 else 0 := by
  unfold wholeIn
  rw [List.inits_append, List.countP_append]
  refine congrArg _ ?_
  show List.countP _ [lines ++ [line]] = _
  rw [List.countP_singleton]
  simp

theorem size_bytes_append (first second : List Line) :
    (bytes (first ++ second)).size = (bytes first).size + (bytes second).size := by
  rw [bytes_append, ByteArray.size_append]

theorem bytes_singleton (line : Line) : bytes [line] = (line.text ++ "\n").toUTF8 := by
  rw [bytes_cons, bytes_nil, ByteArray.append_empty]

/-- A line is never without bytes, since there is its newline. -/
theorem size_bytes_singleton_pos (line : Line) : 0 < (bytes [line]).size := by
  have hnewline : "\n".toByteArray.size = 1 := rfl
  rw [bytes_singleton, String.toUTF8_eq_toByteArray, String.toByteArray_append,
    ByteArray.size_append, hnewline]
  exact Nat.succ_pos _

end Line

namespace Printer

variable {device : Sink} {capacity : Nat}

/-- **A printer that was asked to write the given lines**, and so often to flush, to a sink that was
empty and has a capacity. -/
def past (device : Sink) (capacity : Nat) (lines : List Line) (flushes : Nat) : Printer where
  sink := { device with
    contents := (Line.bytes lines).extract 0 capacity
    flushes := device.flushes + flushes }
  lines := Line.wholeIn capacity lines

theorem past_nil (hempty : device.contents = .empty) :
    past device capacity [] 0 = start device := by
  have hextract : (Line.bytes []).extract 0 capacity = .empty := by
    rw [Line.bytes_nil, ByteArray.extract_eq_empty_iff]
    exact Nat.min_le_right capacity 0
  unfold past start
  rw [hextract, ← hempty]
  rfl

/-- **One line further.** -/
theorem writeLine_past (hcapacity : device.capacity = some capacity) (lines : List Line)
    (flushes : Nat) (line : Line) :
    writeLine line (past device capacity lines flushes)
      = if (Line.bytes (lines ++ [line])).size ≤ capacity then
          .ok () (past device capacity (lines ++ [line]) flushes)
        else
          .error (.io device.refusal) (past device capacity (lines ++ [line]) flushes) := by
  have hpos := Line.size_bytes_singleton_pos line
  have hsize := Line.size_bytes_append lines [line]
  have hwhole := Line.wholeIn_append_singleton capacity lines line
  have hroom : capacity - (past device capacity lines flushes).sink.contents.size
      = capacity - (Line.bytes lines).size := by
    show capacity - ((Line.bytes lines).extract 0 capacity).size = _
    rw [ByteArray.size_extract]
    omega
  have hcontents : (Line.bytes lines).extract 0 capacity
        ++ (Line.bytes [line]).extract 0 (capacity - (Line.bytes lines).size)
      = (Line.bytes (lines ++ [line])).extract 0 capacity := by
    rw [Line.bytes_append, extract_zero_append]
  unfold writeLine writeText
  rw [← Line.bytes_singleton, Sink.write_eq_of_capacity (by exact hcapacity), hroom]
  by_cases h : (Line.bytes (lines ++ [line])).size ≤ capacity
  · rw [if_pos h] at hwhole
    rw [if_pos h, if_pos (by omega)]
    unfold past
    rw [hwhole, ← hcontents]
  · rw [if_neg h] at hwhole
    rw [if_neg h, if_neg (by omega)]
    unfold past
    rw [hwhole, ← hcontents]
    rfl

/-- Lines that come after the sink is full leave no trace. -/
theorem past_append_of_full {lines : List Line} (h : capacity < (Line.bytes lines).size)
    (more : List Line) (flushes : Nat) :
    past device capacity (lines ++ more) flushes = past device capacity lines flushes := by
  induction more generalizing lines with
  | nil => rw [List.append_nil]
  | cons line rest ih =>
    have hsize := Line.size_bytes_append lines [line]
    have hfull : capacity < (Line.bytes (lines ++ [line])).size := by omega
    have hwhole := Line.wholeIn_append_singleton capacity lines line
    rw [if_neg (Nat.not_le.2 hfull), Nat.add_zero] at hwhole
    have hcontents : (Line.bytes (lines ++ [line])).extract 0 capacity
        = (Line.bytes lines).extract 0 capacity := by
      rw [Line.bytes_append, extract_zero_append, Nat.sub_eq_zero_of_le (Nat.le_of_lt h),
        ByteArray.extract_same, ByteArray.append_empty]
    rw [List.append_cons, ih hfull]
    unfold past
    rw [hwhole, hcontents]

/-- **Many lines further.** The writing breaks off at the first line that does not fit, but as the
sink is full by then, the printer is as if it had gone on. -/
theorem writeLines_past (hcapacity : device.capacity = some capacity) (lines more : List Line)
    (flushes : Nat) :
    writeLines more (past device capacity lines flushes)
      = if more ≠ [] ∧ capacity < (Line.bytes (lines ++ more)).size then
          .error (.io device.refusal) (past device capacity (lines ++ more) flushes)
        else
          .ok () (past device capacity (lines ++ more) flushes) := by
  induction more generalizing lines with
  | nil =>
    rw [if_neg (fun h => h.1 rfl), List.append_nil]
    rfl
  | cons line rest ih =>
    have hsize := Line.size_bytes_append (lines ++ [line]) rest
    have hwrite := writeLine_past hcapacity lines flushes line
    rw [List.append_cons lines line rest]
    show (writeLine line >>= fun _ => writeLines rest) (past device capacity lines flushes) = _
    by_cases hline : (Line.bytes (lines ++ [line])).size ≤ capacity
    · rw [if_pos hline] at hwrite
      rw [bind_of_ok hwrite, ih (lines ++ [line])]
      refine if_congr ⟨fun h => ⟨List.cons_ne_nil line rest, h.2⟩, fun h => ⟨?_, h.2⟩⟩ rfl rfl
      rintro rfl
      rw [List.append_nil] at h
      exact absurd hline (Nat.not_le.2 h.2)
    · rw [if_neg hline] at hwrite
      have hfull : capacity < (Line.bytes (lines ++ [line])).size := Nat.not_le.1 hline
      rw [bind_of_error hwrite, if_pos ⟨List.cons_ne_nil line rest, by omega⟩,
        past_append_of_full hfull]

theorem flush_past (lines : List Line) (flushes : Nat) :
    flush (past device capacity lines flushes)
      = match device.flushRefusal with
        | none => .ok () (past device capacity lines (flushes + 1))
        | some refusal => .error (.io refusal) (past device capacity lines (flushes + 1)) := by
  unfold flush Sink.flush past
  cases device.flushRefusal <;> rfl

end Printer

/-! ## Jobs -/

namespace Job

variable {arena : Arena}

/-- Whether a job gets as far as its flush, after other lines were asked for. -/
def ReachesFlush (capacity : Nat) (asked : List Line) (arena : Arena) (job : Job) : Prop :=
  job.flushes = true ∧ job.handle ∈ arena ∧
    (Line.bytes (asked ++ job.lines arena)).size ≤ capacity

instance (capacity : Nat) (asked : List Line) (arena : Arena) (job : Job) :
    Decidable (job.ReachesFlush capacity asked arena) :=
  inferInstanceAs (Decidable (_ ∧ _ ∧ _))

/-- **How a job ends** at a sink with a capacity, after other lines were asked for. -/
def outcome (device : Sink) (capacity : Nat) (asked : List Line) (arena : Arena) (job : Job) :
    Except Fault Unit :=
  if job.handle ∈ arena then
    if job.lines arena ≠ [] ∧ capacity < (Line.bytes (asked ++ job.lines arena)).size then
      .error (.io device.refusal)
    else if job.flushes then
      device.flushRefusal.elim (.ok ()) (fun refusal => .error (.io refusal))
    else .ok ()
  else .error (.unknownNode job.handle)

/-- A job that ends with a flush has lines to write first. -/
theorem lines_ne_nil_of_flushes (hforest : arena.IsForest) {job : Job} (hmem : job.handle ∈ arena)
    (h : job.flushes = true) : job.lines arena ≠ [] := by
  rw [lines, if_pos hmem]
  cases job with
  | print heading root => exact List.cons_ne_nil _ _
  | printTree root =>
    have hroot : root ∈ arena := hmem
    show arena.treeLines root 0 ≠ []
    rw [hforest.treeLines_eq hroot]
    exact List.cons_ne_nil _ _
  | visit node depth => cases h
  | walk node depth => cases h

end Job

namespace Printer

variable {device : Sink} {capacity : Nat} {arena : Arena}

theorem script_past (hcapacity : device.capacity = some capacity) (hforest : arena.IsForest)
    {job : Job} (hmem : job.handle ∈ arena) (asked : List Line) (flushes : Nat) :
    conclude (job.script arena (past device capacity asked flushes))
      = (job.outcome device capacity asked arena,
          past device capacity (asked ++ job.lines arena)
            (flushes + if job.ReachesFlush capacity asked arena then 1 else 0)) := by
  have hown : job.ownLines arena = job.lines arena := (if_pos hmem).symm
  have hwrite := writeLines_past hcapacity asked (job.lines arena) flushes
  show conclude ((writeLines (job.ownLines arena) >>= fun _ =>
    if job.flushes then flush else pure ()) (past device capacity asked flushes)) = _
  rw [hown, Job.outcome, if_pos hmem]
  by_cases hfull : job.lines arena ≠ [] ∧
      capacity < (Line.bytes (asked ++ job.lines arena)).size
  · have hflush : ¬ job.ReachesFlush capacity asked arena := fun h =>
      absurd h.2.2 (Nat.not_le.2 hfull.2)
    rw [if_pos hfull] at hwrite
    rw [bind_of_error hwrite, if_pos hfull, if_neg hflush]
    rfl
  · rw [if_neg hfull] at hwrite
    rw [bind_of_ok hwrite, if_neg hfull]
    cases hflushes : job.flushes with
    | false =>
      have hflush : ¬ job.ReachesFlush capacity asked arena := fun h =>
        absurd h.1 (Bool.eq_false_iff.1 hflushes)
      rw [if_neg hflush]
      rfl
    | true =>
      have hflush : job.ReachesFlush capacity asked arena :=
        ⟨hflushes, hmem, Nat.not_lt.1 fun hlt =>
          hfull ⟨job.lines_ne_nil_of_flushes hforest hmem hflushes, hlt⟩⟩
      rw [if_pos hflush]
      show conclude (flush _) = _
      rw [flush_past]
      cases device.flushRefusal <;> rfl

/-- **One job further.** -/
theorem run_past (hcapacity : device.capacity = some capacity) (hforest : arena.IsForest)
    (threshold : Threshold) (asked : List Line) (flushes : Nat) (job : Job) :
    ((past device capacity asked flushes).run threshold arena job).outcome
        = job.outcome device capacity asked arena ∧
      ((past device capacity asked flushes).run threshold arena job).printer
        = past device capacity (asked ++ job.lines arena)
            (flushes + if job.ReachesFlush capacity asked arena then 1 else 0) := by
  by_cases hmem : job.handle ∈ arena
  · have hrun := run_eq hforest job hmem threshold (past device capacity asked flushes)
    rw [script_past hcapacity hforest hmem] at hrun
    exact Prod.mk.inj hrun
  · have hlines : job.lines arena = [] := if_neg hmem
    have hflush : ¬ job.ReachesFlush capacity asked arena := fun h => hmem h.2.1
    rw [run_of_not_mem job hmem threshold, hlines, List.append_nil, if_neg hflush, Job.outcome,
      if_neg hmem]
    exact ⟨rfl, rfl⟩

/-! ## Runs of jobs -/

/-- **All the lines that jobs ask for**, refused or not. -/
def asked (calls : List (Arena × Job)) : List Line :=
  calls.flatMap (fun call => call.2.lines call.1)

end Printer

end SyntaxOutline
