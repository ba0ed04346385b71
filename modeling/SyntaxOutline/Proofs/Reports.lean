import SyntaxOutline.CommandLine.Usual
import SyntaxOutline.Proofs.BoundedSink
import SyntaxOutline.Proofs.Measures
import SyntaxOutline.Proofs.Sessions

/-!
# What a run of the program comes to

A run goes through many hands: the arguments are read, a sample is built and
measured, a heading is chosen, the output is opened, the outline is printed to
it, and in the end a report is made of all this. The main statement puts them
together (`Host.runProgram_endsAs`). It is about every host whose file system
does what is expected of one, and about every command line that is accepted
there, every setting of the journal and every state of the files.

What the program is to write does not depend on where it goes. So it is fixed
first, as a text and the measures of its tree (`Invocation.ComesTo`). Since
the samples are closed scripts it can be checked for each of them that it is
built; the rest holds for any heading. Then there is the sink. Whatever it is,
it can only refuse some of the bytes, or the flush after them
(`Sink.refusalOf`), and this alone decides how the run ends
(`Invocation.Delivers`). What becomes of the outline on a host is then read
off case by case, by what the file system answers.

The tally is taken before anything is printed, and the lines are counted while
it is. That both show the same figure is no accident of the samples: a run
that ends well has written a line for each node that was met. So there is one
figure for both in the statistics as they are to be read (`statisticsBlock`).
-/

namespace SyntaxOutline

/-! ## Printing from the start -/

/-- What a sink that is still empty refuses in the end, if it is given so many bytes and then asked
to flush: some of the bytes, or the flush, or neither. -/
def Sink.refusalOf (size : Nat) (sink : Sink) : Option String :=
  if ∀ capacity ∈ sink.capacity, size ≤ capacity then sink.flushRefusal else some sink.refusal

section Refusals

variable {sink : Sink} {capacity size : Nat}

theorem Sink.refusalOf_of_capacity_none (h : sink.capacity = none) :
    sink.refusalOf size = sink.flushRefusal := by
  refine if_pos ?_
  rw [h]
  nofun

theorem Sink.refusalOf_of_le (h : sink.capacity = some capacity) (hle : size ≤ capacity) :
    sink.refusalOf size = sink.flushRefusal := by
  refine if_pos ?_
  rw [h]
  rintro _ ⟨⟩
  exact hle

theorem Sink.refusalOf_of_lt (h : sink.capacity = some capacity) (hlt : capacity < size) :
    sink.refusalOf size = some sink.refusal :=
  if_neg fun hall => Nat.not_le.2 hlt (hall capacity h)

end Refusals

namespace Printer

variable {arena : Arena} {root : Handle}

theorem conclude_flush (printer : Printer) :
    conclude (flush printer)
      = (printer.sink.flushRefusal.elim (.ok ()) (fun words => .error (.io words)),
          { printer with sink := printer.sink.flush.2 }) := by
  unfold flush Sink.flush
  cases printer.sink.flushRefusal <;> rfl

/-- A sink without a limit can refuse a print only the flush. -/
theorem print_start_of_capacity_none (hforest : arena.IsForest) (h : root ∈ arena) {sink : Sink}
    (hempty : sink.contents = .empty) (hcapacity : sink.capacity = none) (threshold : Threshold)
    (heading : String) :
    ((start sink).print threshold arena heading root).outcome
        = sink.flushRefusal.elim (.ok ()) (fun words => .error (.io words)) ∧
      ((start sink).print threshold arena heading root).printer.sink.contents
        = Line.bytes (arena.outlineLines heading root) := by
  have hprint := print_eq hforest h threshold heading (start sink)
  have hscript : (Job.print heading root).script arena (start sink)
      = flush ((start sink).advance (Line.bytes (arena.outlineLines heading root))
          (arena.outlineLines heading root).length) :=
    bind_of_ok (writeLines_of_capacity_none hcapacity (arena.outlineLines heading root))
  rw [hscript, conclude_flush] at hprint
  obtain ⟨houtcome, hprinter⟩ := Prod.mk.inj hprint
  refine ⟨houtcome, ?_⟩
  rw [hprinter]
  show sink.contents ++ Line.bytes (arena.outlineLines heading root) = _
  rw [hempty, ByteArray.empty_append]

/-- A sink with a limit refuses a print if the lines are too many bytes, and otherwise it can refuse
the flush. -/
theorem print_start_of_capacity (hforest : arena.IsForest) (h : root ∈ arena) {sink : Sink}
    {capacity : Nat} (hempty : sink.contents = .empty) (hcapacity : sink.capacity = some capacity)
    (threshold : Threshold) (heading : String) :
    ((start sink).print threshold arena heading root).outcome
        = (if capacity < (Line.bytes (arena.outlineLines heading root)).size then
            .error (.io sink.refusal)
          else sink.flushRefusal.elim (.ok ()) (fun words => .error (.io words))) ∧
      ((start sink).print threshold arena heading root).printer.sink.contents
        = (Line.bytes (arena.outlineLines heading root)).extract 0 capacity := by
  have hlines : (Job.print heading root).lines arena = arena.outlineLines heading root := if_pos h
  have hne : arena.outlineLines heading root ≠ [] := List.cons_ne_nil _ _
  obtain ⟨houtcome, hprinter⟩ := run_past hcapacity hforest threshold [] 0 (.print heading root)
  rw [past_nil hempty, hlines, List.nil_append] at hprinter
  rw [past_nil hempty, Job.outcome, if_pos (by exact h), hlines, List.nil_append] at houtcome
  refine ⟨houtcome.trans (if_congr (and_iff_right hne) rfl rfl), ?_⟩
  exact congrArg (fun printer => printer.sink.contents) hprinter

/-- **What a sink refuses of a print** decides how the print ends; and if it refuses nothing it gets
all of the outline. -/
theorem print_start (hforest : arena.IsForest) (h : root ∈ arena) {sink : Sink}
    (hempty : sink.contents = .empty) (threshold : Threshold) (heading : String) :
    ((start sink).print threshold arena heading root).outcome
        = (sink.refusalOf (arena.outlineText heading root).toUTF8.size).elim (.ok ())
            (fun words => .error (.io words)) ∧
      (sink.refusalOf (arena.outlineText heading root).toUTF8.size = none →
        ((start sink).print threshold arena heading root).printer.sink.contents
          = (arena.outlineText heading root).toUTF8) := by
  rw [hforest.toUTF8_outlineText h]
  cases hcapacity : sink.capacity with
  | none =>
    obtain ⟨houtcome, hcontents⟩ :=
      print_start_of_capacity_none hforest h hempty hcapacity threshold heading
    rw [Sink.refusalOf_of_capacity_none hcapacity]
    exact ⟨houtcome, fun _ => hcontents⟩
  | some capacity =>
    obtain ⟨houtcome, hcontents⟩ :=
      print_start_of_capacity hforest h hempty hcapacity threshold heading
    rw [houtcome, hcontents]
    by_cases hfits : (Line.bytes (arena.outlineLines heading root)).size ≤ capacity
    · rw [Sink.refusalOf_of_le hcapacity hfits, if_neg (Nat.not_lt.2 hfits)]
      refine ⟨rfl, fun _ => ?_⟩
      rw [← Nat.max_eq_left hfits, ByteArray.extract_zero_max_size]
    · have hfull := Nat.not_le.1 hfits
      rw [Sink.refusalOf_of_lt hcapacity hfull, if_pos hfull]
      exact ⟨rfl, nofun⟩

end Printer

/-! ## What is to be printed -/

namespace Sample

/-- Whether a sample can be built, with its root in the arena. -/
def isBuilt (sample : Sample) : Bool :=
  match sample.build 0 with
  | .ok root draft => root ∈ draft.arena
  | .error _ _ => false

theorem isBuilt_eq_true (sample : Sample) : sample.isBuilt = true := by
  cases sample <;> decide +kernel

/-- **Every sample can be built**, by edits alone. -/
theorem exists_build (sample : Sample) :
    ∃ root draft, sample.build 0 = .ok root draft ∧ draft.arena.Reachable ∧
      root ∈ draft.arena := by
  have hbuilt := sample.isBuilt_eq_true
  unfold isBuilt at hbuilt
  cases hbuild : sample.build 0 with
  | error fault draft =>
    rw [hbuild] at hbuilt
    cases hbuilt
  | ok root draft =>
    rw [hbuild] at hbuilt
    obtain ⟨edits, hedits⟩ := sample.isScript _ root draft hbuild
    refine ⟨root, draft, rfl, ?_, of_decide_eq_true hbuilt⟩
    rw [hedits]
    exact (Arena.Reachable.empty 0).applyAll edits

end Sample

namespace Invocation

variable {invocation : Invocation} {root : Handle} {draft : Draft} {tally : Tally}
  {heading text : String}

/-- **What an invocation is to print, and the measures of its tree**: the text that a printer makes
of the tree of the sample, under the heading that is asked for or else the base label of the root,
with a line for each node. -/
def ComesTo (invocation : Invocation) (text : String) (tally : Tally) : Prop :=
  ∃ root draft heading,
    invocation.sample.build 0 = .ok root draft ∧
    invocation.rootLabel.elim (draft.arena.baseLabel root) .ok = .ok heading ∧
    draft.arena.Weighs root tally ∧
    ∀ (threshold : Threshold) (printer : Printer), printer.sink.TakesAll →
      (printer.print threshold draft.arena heading root).outcome = .ok () ∧
      (printer.print threshold draft.arena heading root).printer.sink.contents
        = printer.sink.contents ++ text.toUTF8 ∧
      (printer.print threshold draft.arena heading root).printer.lines
        = printer.lines + tally.nodes

/-- **How an invocation runs**, by what its sink refuses. -/
structure Delivers (invocation : Invocation) (text : String) (tally : Tally) : Prop where
  prepares : ∃ prepared told, invocation.prepare [] = .ok prepared told
  outcome_of_error (fault : Fault) : (invocation.run (.error fault)).outcome = .error fault
  outcome_of_ok {sink : Sink} : sink.contents = .empty →
    (invocation.run (.ok sink)).outcome
      = (sink.refusalOf text.toUTF8.size).elim (.ok ⟨tally, tally.nodes⟩)
          (fun words => .error (.io words))
  taken_of_ok {sink : Sink} : sink.contents = .empty →
    sink.refusalOf text.toUTF8.size = none → (invocation.run (.ok sink)).taken = text.toUTF8

/-- What is prepared for an invocation, once its sample is built. -/
theorem prepare_eq_ok (hbuild : invocation.sample.build 0 = .ok root draft)
    (htally : draft.arena.tally root = .ok tally)
    (hheading : invocation.rootLabel.elim (draft.arena.baseLabel root) .ok = .ok heading) :
    ∃ told, invocation.prepare [] = .ok ⟨draft.arena, root, heading, tally⟩ told := by
  unfold prepare
  rw [hbuild]
  dsimp only
  rw [htally]
  dsimp only
  cases hlabel : invocation.rootLabel with
  | none =>
    rw [hlabel] at hheading
    rw [show draft.arena.baseLabel root = .ok heading from hheading]
    exact ⟨_, rfl⟩
  | some label =>
    rw [hlabel] at hheading
    obtain rfl : label = heading := Except.ok.inj hheading
    exact ⟨_, rfl⟩

/-- A run with a sink is a print, once all is prepared. -/
theorem run_of_prepare {prepared : Prepared} {told : List Event}
    (hprepare : invocation.prepare [] = .ok prepared told) (sink : Sink) :
    (invocation.run (.ok sink)).outcome
        = ((Printer.start sink).print (.upTo .trace) prepared.arena prepared.heading
            prepared.root).outcome.map (fun _ => ⟨prepared.tally,
          ((Printer.start sink).print (.upTo .trace) prepared.arena prepared.heading
            prepared.root).printer.lines⟩) ∧
      (invocation.run (.ok sink)).taken
        = ((Printer.start sink).print (.upTo .trace) prepared.arena prepared.heading
            prepared.root).printer.sink.contents := by
  unfold run
  rw [hprepare]
  dsimp only
  cases ((Printer.start sink).print (.upTo .trace) prepared.arena prepared.heading
    prepared.root).outcome <;> exact ⟨rfl, rfl⟩

/-- **An invocation delivers the outline** that was prepared for it. -/
theorem delivers (hforest : draft.arena.IsForest) (hroot : root ∈ draft.arena)
    (hbuild : invocation.sample.build 0 = .ok root draft)
    (hheading : invocation.rootLabel.elim (draft.arena.baseLabel root) .ok = .ok heading) :
    invocation.Delivers (draft.arena.outlineText heading root) (draft.arena.weight root) := by
  have htally := hforest.tally_eq_ok hroot
  have hnodes : (draft.arena.weight root).nodes = (draft.arena.tree root).preorder.length := by
    show 0 + ((draft.arena.tree root).visits 0).length = _
    rw [Nat.zero_add, Tree.length_visits]
  obtain ⟨told, hprepare⟩ := prepare_eq_ok hbuild htally hheading
  refine ⟨⟨_, told, hprepare⟩, fun fault => ?_, fun {sink} hempty => ?_,
    fun {sink} hempty hnone => ?_⟩
  · unfold run
    rw [hprepare]
  · obtain ⟨houtcome, -⟩ := Printer.print_start hforest hroot hempty (.upTo .trace) heading
    rw [(run_of_prepare hprepare sink).1]
    cases hrefusal : sink.refusalOf (draft.arena.outlineText heading root).toUTF8.size with
    | some words =>
      rw [hrefusal] at houtcome
      rw [houtcome]
      rfl
    | none =>
      rw [hrefusal] at houtcome
      -- the lines are counted while they are written, so they are all there at the end
      have hlines : ((Printer.start sink).print (.upTo .trace) draft.arena heading
          root).printer.lines = 0 + (draft.arena.outlineLines heading root).length :=
        Printer.lines_run hforest (.print heading root) hroot (.upTo .trace) (Or.inr houtcome)
      rw [Nat.zero_add, hforest.length_outlineLines hroot, ← hnodes] at hlines
      rw [houtcome, hlines]
      rfl
  · rw [(run_of_prepare hprepare sink).2]
    exact (Printer.print_start hforest hroot hempty (.upTo .trace) heading).2 hnone

/-- **Every invocation comes to a text**, and delivers it. -/
theorem exists_comesTo (invocation : Invocation) :
    ∃ text tally, invocation.ComesTo text tally ∧ invocation.Delivers text tally := by
  obtain ⟨root, draft, hbuild, hreach, hroot⟩ := invocation.sample.exists_build
  have hforest := hreach.isForest
  obtain ⟨heading, hheading⟩ : ∃ heading,
      invocation.rootLabel.elim (draft.arena.baseLabel root) .ok = .ok heading := by
    cases invocation.rootLabel with
    | none => exact ⟨_, Arena.baseLabel_eq_ok hroot⟩
    | some label => exact ⟨label, rfl⟩
  refine ⟨draft.arena.outlineText heading root, draft.arena.weight root,
    ⟨root, draft, heading, hbuild, hheading, hforest.weighs hroot,
      fun threshold printer hsink => ?_⟩, delivers hforest hroot hbuild hheading⟩
  obtain ⟨houtcome, hcontents, hlines, -⟩ :=
    Printer.print_of_takesAll hforest hroot hsink threshold heading
  refine ⟨houtcome, hcontents, hlines.trans (congrArg (printer.lines + ·) ?_)⟩
  show _ = 0 + ((draft.arena.tree root).visits 0).length
  rw [Nat.zero_add, Tree.length_visits]

variable {sink : Sink} {words : String}

theorem Delivers.outcome_eq_ok (h : invocation.Delivers text tally)
    (hempty : sink.contents = .empty) (hnone : sink.refusalOf text.toUTF8.size = none) :
    (invocation.run (.ok sink)).outcome = .ok ⟨tally, tally.nodes⟩ := by
  rw [h.outcome_of_ok hempty, hnone]
  rfl

theorem Delivers.outcome_eq_error (h : invocation.Delivers text tally)
    (hempty : sink.contents = .empty) (hsome : sink.refusalOf text.toUTF8.size = some words) :
    (invocation.run (.ok sink)).outcome = .error (.io words) := by
  rw [h.outcome_of_ok hempty, hsome]
  rfl

/-- Wherever the outline goes, a run that ends well has the statistics that were foreseen. -/
theorem Delivers.eq_of_outcome_eq_ok (h : invocation.Delivers text tally)
    {destination : Except Fault Sink} {found : Statistics}
    (hempty : ∀ sink, destination = .ok sink → sink.contents = .empty)
    (hok : (invocation.run destination).outcome = .ok found) : found = ⟨tally, tally.nodes⟩ := by
  cases destination with
  | error fault =>
    rw [h.outcome_of_error] at hok
    cases hok
  | ok sink =>
    rw [h.outcome_of_ok (hempty sink rfl)] at hok
    cases hrefusal : sink.refusalOf text.toUTF8.size with
    | none =>
      rw [hrefusal] at hok
      exact (Except.ok.inj hok).symm
    | some words =>
      rw [hrefusal] at hok
      cases hok

end Invocation

/-! ## Reports -/

/-- **The statistics of a tree as they are to be read**, with two times. The nodes and the lines
printed are the same figure. -/
def statisticsBlock (tally : Tally) (times : Times) : String :=
  "\n" ++
  " Tree Statistics:" ++ "\n" ++
  "  Nodes:           " ++ tally.nodes.repr ++ "\n" ++
  "  Lines printed:   " ++ tally.nodes.repr ++ "\n" ++
  "  Max depth:       " ++ tally.maxDepth.repr ++ "\n" ++
  "  Decorated nodes: " ++ tally.decorated.repr ++ "\n" ++
  "  Build time (s):  " ++ times.build ++ "\n" ++
  "  Print time (s):  " ++ times.print ++ "\n"

/-- What there is of them, if they were asked for or not. -/
def statisticsShown (tally : Tally) (times : Times) (timing : Bool) : ByteArray :=
  if timing then (statisticsBlock tally times).toUTF8 else .empty

/-- The statistics of a run that has printed a line for each node are shown as they are to be
read. -/
theorem Statistics.text_eq (tally : Tally) (times : Times) :
    Statistics.text times ⟨tally, tally.nodes⟩ = statisticsBlock tally times := by
  unfold text statisticsBlock ofLines
  simp only [List.map_cons, List.map_nil, String.join_cons, String.join_nil, String.empty_append,
    String.append_empty, String.append_assoc]

/-- **A report of success**, which shows the given bytes as output. -/
structure Report.Shows (report : Report) (output : ByteArray) : Prop where
  code_eq : report.code = 0
  output_eq : report.output = output

/-- **A report of failure**: there is no output at all, and last among the errors stands what has
failed, and why. -/
structure Report.Complains (report : Report) (message : String) : Prop where
  code_eq : report.code = 1
  output_eq : report.output = .empty
  errors_eq : ∃ before,
    report.errors = before ++ ("Error: Printing failed: " ++ message ++ "\n").toUTF8

theorem Fault.message_cannotCreate (path words : String) :
    (Fault.cannotCreate path words).message
      = "Output error: cannot create '" ++ path ++ "': " ++ words := by
  have hopening : "Output error: " ++ "cannot create '" = "Output error: cannot create '" := by
    decide +kernel
  calc (cannotCreate path words).message
      = "Output error: " ++ ("cannot create '" ++ path ++ "': " ++ words) := rfl
    _ = "Output error: " ++ "cannot create '" ++ path ++ "': " ++ words := by
        simp only [String.append_assoc]
    _ = "Output error: cannot create '" ++ path ++ "': " ++ words := by
        rw [hopening]

namespace Run

variable {run : Run} {tally : Tally} {fault : Fault}

/-- The statistics are shown just if the run ends well. -/
theorem toUTF8_statisticsText
    (h : ∀ found, run.outcome = .ok found → found = ⟨tally, tally.nodes⟩) (times : Times)
    (timing : Bool) :
    (run.statisticsText times timing).toUTF8
      = if run.code = 0 then statisticsShown tally times timing else .empty := by
  unfold statisticsText code
  cases houtcome : run.outcome with
  | error fault => rfl
  | ok found =>
    rw [h found houtcome, statisticsShown]
    dsimp only
    rw [Statistics.text_eq]
    cases timing <;> rfl

variable (journal : Journal) (filter : Filter) (times : Times) (timing : Bool)
  {stream : Option Stream}

theorem report_shows (h : run.outcome = .ok ⟨tally, tally.nodes⟩) (stream : Option Stream) :
    (run.report journal filter times timing stream).Shows
      ((if stream = some .output then run.taken else .empty)
        ++ statisticsShown tally times timing) := by
  have hcode : run.code = 0 := by
    rw [code, h]
  refine ⟨hcode, ?_⟩
  have hfound : ∀ found, run.outcome = .ok found → found = ⟨tally, tally.nodes⟩ :=
    fun found hok => Except.ok.inj (hok.symm.trans h)
  show _ ++ (run.statisticsText times timing).toUTF8 = _
  rw [toUTF8_statisticsText hfound, if_pos hcode]

theorem report_complains (h : run.outcome = .error fault) (hstream : stream ≠ some .output) :
    (run.report journal filter times timing stream).Complains fault.message := by
  refine ⟨?_, ?_, ?_⟩
  · show run.code = 1
    rw [code, h]
  · show (if stream = some .output then run.taken else .empty) ++
      (run.statisticsText times timing).toUTF8 = _
    rw [if_neg hstream, statisticsText, h]
    rfl
  · have hclosing : run.closingText journal filter
        = journal.records filter run.opening run.closing ++
          ("Error: Printing failed: " ++ fault.message ++ "\n") := by
      unfold closingText
      rw [h]
    refine ⟨(run.openingText journal filter).toUTF8 ++
      (if stream = some .errors then run.taken else .empty) ++
      (journal.records filter run.opening run.closing).toUTF8, ?_⟩
    show (run.openingText journal filter).toUTF8 ++
      (if stream = some .errors then run.taken else .empty) ++
      (run.closingText journal filter).toUTF8 = _
    rw [hclosing]
    simp only [String.toUTF8_eq_toByteArray, String.toByteArray_append, ByteArray.append_assoc]

end Run

/-! ## Hosts -/

namespace Host

variable {State File Opened : Type} {host : Host State File Opened} {invocation : Invocation}
  {path text words : String} {tally : Tally} {opened : Opened} {state created after : State}

theorem carryOut_of_output_eq_none (hout : invocation.output = none) (state : State) :
    host.carryOut invocation state
      = (invocation.run (.ok .unbounded), some .output, state) := by
  unfold carryOut
  rw [hout]

theorem carryOut_of_not_created (hdelivers : invocation.Delivers text tally)
    (hout : invocation.output = some path)
    (hcreate : host.files.create path state = (.error words, after)) :
    host.carryOut invocation state
      = (invocation.run (.error (.cannotCreate path words)), none, after) := by
  obtain ⟨prepared, told, hprepare⟩ := hdelivers.prepares
  unfold carryOut
  rw [hout, hprepare]
  dsimp only
  rw [hcreate]

theorem carryOut_of_created (hdelivers : invocation.Delivers text tally)
    (hout : invocation.output = some path)
    (hcreate : host.files.create path state = (.ok opened, created)) :
    host.carryOut invocation state
      = (invocation.run (.ok (.gathering (host.files.deliver opened text.toUTF8 created).1)),
          host.files.stream? opened, (host.files.deliver opened text.toUTF8 created).2) := by
  obtain ⟨prepared, told, hprepare⟩ := hdelivers.prepares
  have hgathered : (invocation.run (.ok (.gathering none))).taken = text.toUTF8 :=
    hdelivers.taken_of_ok rfl (Sink.refusalOf_of_capacity_none rfl)
  unfold carryOut
  rw [hout, hprepare]
  dsimp only
  rw [hcreate]
  dsimp only
  rw [hgathered]

/-- Wherever the outline goes, it is an invocation that is run, and its sink is empty at first. -/
theorem exists_destination (host : Host State File Opened)
    (hdelivers : invocation.Delivers text tally) (state : State) :
    ∃ destination, (host.carryOut invocation state).1 = invocation.run destination ∧
      ∀ sink, destination = .ok sink → sink.contents = .empty := by
  cases hout : invocation.output with
  | none =>
    rw [carryOut_of_output_eq_none hout]
    exact ⟨.ok .unbounded, rfl, by rintro _ ⟨⟩; rfl⟩
  | some path =>
    cases hcreate : host.files.create path state with
    | mk answer created =>
      cases answer with
      | error words =>
        rw [carryOut_of_not_created hdelivers hout hcreate]
        exact ⟨.error (.cannotCreate path words), rfl, by rintro _ ⟨⟩⟩
      | ok opened =>
        rw [carryOut_of_created hdelivers hout hcreate]
        exact ⟨.ok (.gathering _), rfl, by rintro _ ⟨⟩; rfl⟩

/-- **How an invocation ends on a host**, by what the file system makes of its output. -/
structure EndsAs (host : Host State File Opened) (invocation : Invocation) (text : String)
    (tally : Tally) (times : Times) (state : State) (report : Report) (after : State) : Prop where
  /-- Without a path the outline is shown. -/
  shown : invocation.output = none →
    report.Shows (text.toUTF8 ++ statisticsShown tally times invocation.timing) ∧ after = state
  /-- A file that is created and takes the outline holds nothing else then, and no other file
  changes. -/
  filed {path : String} {opened : Opened} {created : State} {file : File} :
    invocation.output = some path → host.files.create path state = (.ok opened, created) →
    host.files.file? opened = some file → host.files.stream? opened = none →
    (host.files.deliver opened text.toUTF8 created).1 = none →
    report.Shows (statisticsShown tally times invocation.timing) ∧
      host.files.contents after file = some text.toUTF8 ∧
      ∀ other ≠ file, host.files.contents after other = host.files.contents state other
  /-- What is no file may show the outline, if it is where the program shows something. -/
  passedOn {path : String} {opened : Opened} {created : State} :
    invocation.output = some path → host.files.create path state = (.ok opened, created) →
    (host.files.deliver opened text.toUTF8 created).1 = none →
    report.Shows ((if host.files.stream? opened = some .output then text.toUTF8 else .empty)
      ++ statisticsShown tally times invocation.timing)
  /-- If the outline is refused, that is what has failed, and no file changes but the one that
  refused it. -/
  refused {path : String} {opened : Opened} {created : State} {words : String} :
    invocation.output = some path → host.files.create path state = (.ok opened, created) →
    (host.files.deliver opened text.toUTF8 created).1 = some words →
    host.files.stream? opened ≠ some .output →
    report.Complains ("I/O error: " ++ words) ∧
      ∀ other, host.files.file? opened ≠ some other →
        host.files.contents after other = host.files.contents state other
  /-- Where no file can be created, there is no outline, and no file changes. -/
  notCreated {path words : String} {created : State} : invocation.output = some path →
    host.files.create path state = (.error words, created) →
    report.Complains ("Output error: cannot create '" ++ path ++ "': " ++ words) ∧
      ∀ other, host.files.contents after other = host.files.contents state other

/-- A file that is not the one that has been opened is as it was before. -/
theorem contents_deliver_create (hfiles : host.files.Lawful)
    (hcreate : host.files.create path state = (.ok opened, created)) (bytes : ByteArray)
    {other : File} (hother : host.files.file? opened ≠ some other) :
    host.files.contents (host.files.deliver opened bytes created).2 other
      = host.files.contents state other := by
  have hkept : host.files.contents (host.files.create path state).2 other
      = host.files.contents state other := by
    refine hfiles.contents_create_of_ne fun found hfound => ?_
    rw [hcreate] at hfound
    exact Except.ok.inj hfound ▸ hother
  rw [hcreate] at hkept
  rw [hfiles.contents_deliver_of_ne hother, hkept]

/-- A file that takes bytes after it has been created holds these and nothing else. -/
theorem contents_deliver_create_self (hfiles : host.files.Lawful)
    (hcreate : host.files.create path state = (.ok opened, created)) {bytes : ByteArray}
    {file : File} (hfile : host.files.file? opened = some file)
    (htaken : (host.files.deliver opened bytes created).1 = none) :
    host.files.contents (host.files.deliver opened bytes created).2 file = some bytes := by
  have hempty := hfiles.contents_create (congrArg Prod.fst hcreate) hfile
  rw [hcreate] at hempty
  rw [hfiles.contents_deliver htaken hfile hempty, ByteArray.empty_append]

/-- **On a host an invocation ends** as is to be expected of where its output goes. -/
theorem endsAs_of_delivers (hfiles : host.files.Lawful)
    (h : invocation.Delivers text tally) (filter : Filter) (times : Times) (state : State) :
    host.EndsAs invocation text tally times state
      ((host.carryOut invocation state).1.report host.journal filter times invocation.timing
        (host.carryOut invocation state).2.1)
      (host.carryOut invocation state).2.2 where
  shown hout := by
    have hunbounded : Sink.unbounded.refusalOf text.toUTF8.size = none :=
      Sink.refusalOf_of_capacity_none rfl
    have hreport := Run.report_shows host.journal filter times invocation.timing
      (h.outcome_eq_ok rfl hunbounded) (some .output)
    rw [if_pos rfl, h.taken_of_ok rfl hunbounded] at hreport
    rw [carryOut_of_output_eq_none hout]
    exact ⟨hreport, rfl⟩
  filed {path opened created file} hout hcreate hfile hstream htaken := by
    have hsink : (Sink.gathering none).refusalOf text.toUTF8.size = none :=
      Sink.refusalOf_of_capacity_none rfl
    have hreport := Run.report_shows host.journal filter times invocation.timing
      (h.outcome_eq_ok rfl hsink) none
    rw [if_neg nofun, ByteArray.empty_append] at hreport
    rw [carryOut_of_created h hout hcreate, htaken, hstream]
    refine ⟨hreport, contents_deliver_create_self hfiles hcreate hfile htaken,
      fun other hother => contents_deliver_create hfiles hcreate text.toUTF8 ?_⟩
    rw [hfile]
    exact fun hsame => hother (Option.some.inj hsame).symm
  passedOn {path opened created} hout hcreate htaken := by
    have hsink : (Sink.gathering none).refusalOf text.toUTF8.size = none :=
      Sink.refusalOf_of_capacity_none rfl
    have hreport := Run.report_shows host.journal filter times invocation.timing
      (h.outcome_eq_ok rfl hsink) (host.files.stream? opened)
    rw [h.taken_of_ok rfl hsink] at hreport
    rw [carryOut_of_created h hout hcreate, htaken]
    exact hreport
  refused {path opened created words} hout hcreate hrefused hstream := by
    have hsink : (Sink.gathering (some words)).refusalOf text.toUTF8.size = some words :=
      Sink.refusalOf_of_capacity_none rfl
    rw [carryOut_of_created h hout hcreate, hrefused]
    exact ⟨Run.report_complains host.journal filter times invocation.timing
      (h.outcome_eq_error rfl hsink) hstream,
      fun other => contents_deliver_create hfiles hcreate text.toUTF8⟩
  notCreated {path words created} hout hcreate := by
    have hreport := Run.report_complains host.journal filter times invocation.timing
      (h.outcome_of_error (.cannotCreate path words))
      (show (none : Option Stream) ≠ some .output from nofun)
    rw [Fault.message_cannotCreate] at hreport
    rw [carryOut_of_not_created h hout hcreate]
    refine ⟨hreport, fun other => ?_⟩
    have hkept : host.files.contents (host.files.create path state).2 other
        = host.files.contents state other := by
      refine hfiles.contents_create_of_ne fun found hfound => ?_
      rw [hcreate] at hfound
      cases hfound
    rwa [hcreate] at hkept

/-! ## The program -/

variable {arguments : List String}

theorem runProgram_of_read (h : host.read arguments = .ok invocation) (setting : Option String)
    (times : Times) (state : State) :
    host.runProgram setting times arguments state
      = ((host.carryOut invocation state).1.report host.journal
          (.ofRun setting invocation.verbose) times invocation.timing
          (host.carryOut invocation state).2.1,
        (host.carryOut invocation state).2.2) := by
  unfold runProgram
  rw [h]

/-- **What a run depends on.** Neither the setting nor the verbosity has a say in anything but the
errors, and the times are seen nowhere but in the statistics. -/
theorem exists_runProgram_eq (host : Host State File Opened)
    (hdelivers : invocation.Delivers text tally) (state : State) :
    ∃ (code : Nat) (front : ByteArray) (errors : Option String → Bool → ByteArray)
      (after : State), ∀ setting times verbose arguments,
      host.read arguments = .ok { invocation with verbose := verbose } →
      host.runProgram setting times arguments state
        = (⟨code, front ++
            (if code = 0 then statisticsShown tally times invocation.timing else .empty),
            errors setting verbose⟩, after) := by
  obtain ⟨destination, hrun, hempty⟩ := host.exists_destination hdelivers state
  refine ⟨(host.carryOut invocation state).1.code,
    if (host.carryOut invocation state).2.1 = some .output then
      (host.carryOut invocation state).1.taken else .empty,
    fun setting verbose => ((host.carryOut invocation state).1.report host.journal
      (.ofRun setting verbose) ⟨"", ""⟩ invocation.timing
      (host.carryOut invocation state).2.1).errors,
    (host.carryOut invocation state).2.2, fun setting times verbose arguments hread => ?_⟩
  rw [runProgram_of_read hread]
  have hfound : ∀ found, (host.carryOut invocation state).1.outcome = .ok found →
      found = ⟨tally, tally.nodes⟩ := by
    rw [hrun]
    exact fun found => hdelivers.eq_of_outcome_eq_ok hempty
  have hshown := Run.toUTF8_statisticsText hfound times invocation.timing
  refine Prod.ext ?_ rfl
  show (host.carryOut invocation state).1.report host.journal (.ofRun setting verbose) times
    invocation.timing (host.carryOut invocation state).2.1 = _
  unfold Run.report
  rw [hshown]

/-- **What the program does when it is run**, for every command line that is accepted, on every host
whose file system does what is expected of one. There is a text that a printer makes of the chosen
sample under the heading asked for, and there are the measures of its tree, which has as many nodes
as the text has lines. A run, whatever the setting and the files, shows the text and exits with 0;
or, if a path is given, leaves it in the file and shows nothing of it; or, if no file can be created
or it cannot be written, complains of that and exits with 1, with no output and no other file
changed. Whatever sink there may be behind a path, it gets all of the text or the run fails. The
statistics give one figure for the nodes and for the lines printed. Two runs of one command line
differ at most in the times of their statistics; and with other settings, or more or less told, only
in their errors. -/
theorem runProgram_endsAs (hfiles : host.files.Lawful) (h : host.read arguments = .ok invocation) :
    ∃ text tally, invocation.ComesTo text tally ∧
      (∀ setting times (state : State), host.EndsAs invocation text tally times state
        (host.runProgram setting times arguments state).1
        (host.runProgram setting times arguments state).2) ∧
      (∀ filter times stream (sink : Sink), sink.contents = .empty → stream ≠ some .output →
        (sink.refusalOf text.toUTF8.size = none →
          (invocation.run (.ok sink)).taken = text.toUTF8 ∧
          ((invocation.run (.ok sink)).report host.journal filter times invocation.timing
            stream).Shows (statisticsShown tally times invocation.timing)) ∧
        ∀ words, sink.refusalOf text.toUTF8.size = some words →
          ((invocation.run (.ok sink)).report host.journal filter times invocation.timing
            stream).Complains ("I/O error: " ++ words)) ∧
      ∀ state : State, ∃ (code : Nat) (front : ByteArray)
        (errors : Option String → Bool → ByteArray) (after : State),
        ∀ setting times verbose arguments,
        host.read arguments = .ok { invocation with verbose := verbose } →
        host.runProgram setting times arguments state
          = (⟨code, front ++
              (if code = 0 then statisticsShown tally times invocation.timing else .empty),
              errors setting verbose⟩, after) := by
  obtain ⟨text, tally, hcomes, hdelivers⟩ := invocation.exists_comesTo
  refine ⟨text, tally, hcomes, fun setting times state => ?_,
    fun filter times stream sink hempty hstream => ⟨fun hnone => ?_, fun words hsome => ?_⟩,
    host.exists_runProgram_eq hdelivers⟩
  · rw [runProgram_of_read h]
    exact endsAs_of_delivers hfiles hdelivers (.ofRun setting invocation.verbose) times state
  · have hreport := Run.report_shows host.journal filter times invocation.timing
      (hdelivers.outcome_eq_ok hempty hnone) stream
    rw [if_neg hstream, ByteArray.empty_append] at hreport
    exact ⟨hdelivers.taken_of_ok hempty hnone, hreport⟩
  · exact Run.report_complains host.journal filter times invocation.timing
      (hdelivers.outcome_eq_error hempty hsome) hstream

end Host

namespace Workdir

/-- A directory with two files. -/
def desk : Workdir :=
  ⟨[], [(["t"], "old".toUTF8), (["n"], "kept".toUTF8)]⟩

/-- The outline takes the place of what was in the one file, and the other one is kept. -/
theorem runProgram_endsAs_desk :
    ∃ text tally report after,
      (⟨.nested, none, some "t", false, true⟩ : Invocation).ComesTo text tally ∧
      Host.usual.runProgram none ⟨"0", "0"⟩ ["-s", "nested", "-t", "-o", "t"] desk
        = (report, after) ∧
      report.code = 0 ∧ report.output = (statisticsBlock tally ⟨"0", "0"⟩).toUTF8 ∧
      after.contents? ["t"] = some text.toUTF8 ∧ after.contents? ["n"] = some "kept".toUTF8 := by
  have hrequest : Request.ofArguments ["-s", "nested", "-t", "-o", "t"]
      = .run ⟨.nested, none, some "t", false, true⟩ := by decide +kernel
  have hread : Host.usual.read ["-s", "nested", "-t", "-o", "t"]
      = .ok ⟨.nested, none, some "t", false, true⟩ := by
    unfold Host.usual
    dsimp only
    rw [hrequest]
  have hsplit : "t".splitOn "/" = ["t"] := by
    unfold String.splitOn
    rw [if_neg (by decide), String.splitOnAux, if_neg (by decide +kernel),
      if_neg (by decide +kernel), String.splitOnAux, if_pos (by decide +kernel)]
    decide +kernel
  have hplace : desk.place "t" = .ok (.file ["t"]) := by
    rw [place, names, hsplit]
    decide +kernel
  have hcreate : Host.usual.files.create "t" desk
      = (.ok (.file ["t"]), desk.store ["t"] .empty) := by
    unfold Host.usual files
    dsimp only
    rw [hplace]
  obtain ⟨text, tally, hcomes, hends, -⟩ := Host.runProgram_endsAs lawful_files hread
  obtain ⟨hshows, hfile, hothers⟩ := (hends none ⟨"0", "0"⟩ desk).filed rfl hcreate rfl rfl rfl
  exact ⟨text, tally, _, _, hcomes, rfl, hshows.code_eq, hshows.output_eq, hfile,
    hothers ["n"] (by decide)⟩

end Workdir

end SyntaxOutline
