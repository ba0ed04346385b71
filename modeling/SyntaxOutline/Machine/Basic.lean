import SyntaxOutline.Fault

/-!
# Machines

The depth of a node and the size of a tree are numbers, and numbers may be as great as they like. A
depth that a caller gives, or a count that he carries on, is a **word** of a machine, and what is
worked out from it has to be a word again: the depth of a child, the blanks of a line, the next
count. Where it is too great, it depends on the build of the program what happens. Either all
calculations are checked, and the program stops; or they **wrap**, and what does not fit into the
word is lost.

A text is too long before that. It takes no more than half of the bytes that words can count, and a
program that asks for a longer one stops in every build. How much memory there is in fact, is not
for this library to say.

Whoever calls a program that stops gets no answer at all, not even a fault.
-/

namespace SyntaxOutline

/-- **A machine, and the build of the program for it**, as far as numbers and texts go. -/
structure Machine where
  /-- How many bits a word has. -/
  bits : Nat
  /-- Whether calculations are checked. If not, they wrap. -/
  checks : Bool
  bits_pos : 0 < bits

/-- **Why a call does not come to a result.** -/
inductive Stop where
  /-- It ends with a fault. -/
  | fault (fault : Fault)
  /-- A number or a text was too great, and the program stops. -/
  | overflow
  deriving DecidableEq

/-- An answer, where a call may also not come to any. -/
def Stop.ofAnswer {α : Type} : Except Fault α → Except Stop α
  | .ok result => .ok result
  | .error cause => .error (.fault cause)

namespace Machine

/-- How many words there are. -/
def words (machine : Machine) : Nat := Nat.pow 2 machine.bits

/-- The bytes of a text are fewer than these. -/
def room (machine : Machine) : Nat := Nat.pow 2 (machine.bits - 1)

/-- **What a calculation comes to**, whose result would be the given number. -/
def fit (machine : Machine) (number : Nat) : Except Stop Nat :=
  if number < machine.words then .ok number
  else if machine.checks then .error .overflow
  else .ok (number % machine.words)

/-- **What the making of a text comes to**, if it would be the given one. -/
def hold (machine : Machine) (text : String) : Except Stop String :=
  if text.utf8ByteSize < machine.room then .ok text else .error .overflow

variable {machine : Machine} {number : Nat}

theorem words_eq (machine : Machine) : machine.words = 2 * machine.room := by
  have hbits : machine.bits - 1 + 1 = machine.bits := Nat.sub_add_cancel machine.bits_pos
  rw [words, ← hbits, room]
  exact Nat.pow_succ'

theorem words_pos (machine : Machine) : 0 < machine.words := Nat.two_pow_pos _

theorem fit_of_lt (h : number < machine.words) : machine.fit number = .ok number := if_pos h

/-- A checked calculation with too great a result stops the program. -/
theorem fit_of_checks (hchecks : machine.checks = true) (h : machine.words ≤ number) :
    machine.fit number = .error .overflow := by
  rw [fit, if_neg (Nat.not_lt.2 h), if_pos hchecks]

/-- A calculation that wraps keeps what fits into a word. -/
theorem fit_of_wraps (hwraps : machine.checks = false) (number : Nat) :
    machine.fit number = .ok (number % machine.words) := by
  unfold fit
  split
  · next h => rw [Nat.mod_eq_of_lt h]
  · rw [if_neg (Bool.eq_false_iff.1 hwraps)]

/-- **To go on from a word is to go on from the number** that it was worked out from, since whatever
is lost in wrapping would be lost later. -/
theorem fit_add {word : Nat} (h : machine.fit number = .ok word) (more : Nat) :
    machine.fit (word + more) = machine.fit (number + more) := by
  cases hchecks : machine.checks with
  | true =>
    by_cases hlt : number < machine.words
    · rw [fit_of_lt hlt] at h
      cases h
      rfl
    · rw [fit_of_checks hchecks (Nat.not_lt.1 hlt)] at h
      cases h
  | false =>
    rw [fit_of_wraps hchecks] at h
    cases h
    rw [fit_of_wraps hchecks, fit_of_wraps hchecks, Nat.mod_add_mod]

end Machine

end SyntaxOutline
