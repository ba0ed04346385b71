/-!
# Sinks

A **sink** takes bytes and keeps what it has taken. It may have room for only so many bytes in all.
Bytes that go beyond the room left are cut where it ends, whatever they spell: those that fit are
taken, and the rest is refused with the words of the device. Without bytes there is nothing to
refuse, not even for a full sink. A sink may also refuse to be flushed, but a flush that is refused
has been asked for and counts.
-/

namespace SyntaxOutline

/-- **A place where bytes go.** -/
structure Sink where
  /-- What the sink has taken so far. -/
  contents : ByteArray
  /-- How many bytes it takes in all, if there is a limit. -/
  capacity : Option Nat
  /-- What it says to bytes it has no room for. -/
  refusal : String
  /-- What it says to a flush, if it refuses those. -/
  flushRefusal : Option String
  /-- How often it has been asked to flush. -/
  flushes : Nat

namespace Sink

/-- The words of a sink that is full. -/
def full : String := "sink full"

/-- The words for a sink that stops taking bytes without refusing them. -/
def stalled : String := "failed to write whole buffer"

/-- An empty sink that takes everything. -/
def unbounded : Sink where
  contents := .empty
  capacity := none
  refusal := full
  flushRefusal := none
  flushes := 0

/-- An empty sink that takes so many bytes and no more. -/
def bounded (capacity : Nat) (refusal : String) : Sink :=
  { unbounded with capacity := some capacity, refusal := refusal }

/-- **Gives bytes to a sink.** The answer is the refusal, if some of the bytes did not fit. -/
def write (bytes : ByteArray) (sink : Sink) : Option String × Sink :=
  match sink.capacity with
  | none => (none, { sink with contents := sink.contents ++ bytes })
  | some capacity =>
    let room := capacity - sink.contents.size
    if bytes.size ≤ room then
      (none, { sink with contents := sink.contents ++ bytes })
    else
      (some sink.refusal, { sink with contents := sink.contents ++ bytes.extract 0 room })

/-- **Flushes a sink.** The answer is the refusal, if there is one. -/
def flush (sink : Sink) : Option String × Sink :=
  (sink.flushRefusal, { sink with flushes := sink.flushes + 1 })

/-! ## What a write leaves alone -/

@[simp] theorem contents_flush (sink : Sink) : sink.flush.2.contents = sink.contents := rfl

@[simp] theorem flushes_flush (sink : Sink) : sink.flush.2.flushes = sink.flushes + 1 := rfl

@[simp] theorem capacity_write (bytes : ByteArray) (sink : Sink) :
    (sink.write bytes).2.capacity = sink.capacity := by
  unfold write
  split
  · rfl
  · dsimp only
    split <;> rfl

@[simp] theorem flushes_write (bytes : ByteArray) (sink : Sink) :
    (sink.write bytes).2.flushes = sink.flushes := by
  unfold write
  split
  · rfl
  · dsimp only
    split <;> rfl

/-- **A write to a sink with a capacity**, in one line: what there is room for is taken, after what
was there, and it is refused if there is more. -/
theorem write_eq_of_capacity {sink : Sink} {capacity : Nat} (h : sink.capacity = some capacity)
    (bytes : ByteArray) :
    sink.write bytes =
      (if bytes.size ≤ capacity - sink.contents.size then none else some sink.refusal,
        { sink with
          contents := sink.contents ++ bytes.extract 0 (capacity - sink.contents.size) }) := by
  unfold write
  rw [h]
  dsimp only
  split
  · next hfits =>
    rw [← Nat.max_eq_left hfits, ByteArray.extract_zero_max_size]
  · rfl

/-- A sink without a limit takes all bytes. -/
theorem write_of_capacity_none {sink : Sink} (h : sink.capacity = none) (bytes : ByteArray) :
    sink.write bytes = (none, { sink with contents := sink.contents ++ bytes }) := by
  unfold write
  rw [h]

end Sink

end SyntaxOutline
