/-!
# Levels and thresholds

What a program tells of its doings is graded by **level**, from errors down to traces of single
steps. A **threshold** picks what is worth telling: everything from the most severe level down to a
given one, or nothing at all.
-/

namespace SyntaxOutline

/-- **How much an event matters**, the most severe first. -/
inductive Level where
  | error
  | warn
  | info
  | debug
  | trace
  deriving DecidableEq

namespace Level

/-- All levels, the most severe first. -/
def all : List Level := [error, warn, info, debug, trace]

/-- The place of a level in the order of severity; a smaller rank is more severe. -/
def rank : Level → Nat
  | error => 1
  | warn => 2
  | info => 3
  | debug => 4
  | trace => 5

/-- The word for a level. -/
def word : Level → String
  | error => "error"
  | warn => "warn"
  | info => "info"
  | debug => "debug"
  | trace => "trace"

/-- The word for a level as it heads a record. -/
def name : Level → String
  | error => "ERROR"
  | warn => "WARN"
  | info => "INFO"
  | debug => "DEBUG"
  | trace => "TRACE"

end Level

/-- **What is told and what is not.** -/
inductive Threshold where
  /-- Nothing is told. -/
  | off
  /-- The level is told, and every more severe one. -/
  | upTo (level : Level)
  deriving DecidableEq

namespace Threshold

/-- Whether events of a level are told. -/
def admits : Threshold → Level → Bool
  | off, _ => false
  | upTo most, level => level.rank ≤ most.rank

/-- The threshold that a lower-case word names. -/
def ofWord? (word : String) : Option Threshold :=
  if word = "off" then some off
  else (Level.all.find? (·.word == word)).map upTo

@[simp] theorem admits_off (level : Level) : off.admits level = false := rfl

@[simp] theorem admits_upTo (most level : Level) :
    (upTo most).admits level = decide (level.rank ≤ most.rank) := rfl

/-- Of two thresholds, one admits all that the other admits. -/
theorem admits_total (first second : Threshold) :
    (∀ level, first.admits level → second.admits level) ∨
      ∀ level, second.admits level → first.admits level := by
  match first, second with
  | off, _ => exact Or.inl (fun _ h => by cases h)
  | _, off => exact Or.inr (fun _ h => by cases h)
  | upTo most, upTo other =>
    simp only [admits_upTo, decide_eq_true_eq]
    rcases Nat.le_total most.rank other.rank with hle | hle
    · exact Or.inl (fun _ h => Nat.le_trans h hle)
    · exact Or.inr (fun _ h => Nat.le_trans h hle)

end Threshold

end SyntaxOutline
