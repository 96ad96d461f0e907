/-!
Contract: the moment by which a request has to be answered.

Owns:
- deadlines in milliseconds of a clock, and their state at a given time;
- the moments that the clock can tell, and so the deadlines that a request can be given.

Does not own: the clock.
-/

namespace HttpService

/-- A deadline; without a moment it never passes. -/
structure Deadline where
  moment : Option Nat
deriving DecidableEq, Repr

namespace Deadline

def never : Deadline := ⟨none⟩

instance : Inhabited Deadline := ⟨never⟩

/-- The deadline `span` milliseconds after `now`, whether or not the clock can tell it. -/
def after (now span : Nat) : Deadline := ⟨some (now + span)⟩

/-- The last moment that the clock can tell: it counts seconds below 2^63, and their milliseconds. -/
def lastMoment : Nat := Nat.pow 2 63 * 1000 - 1

/-- The deadline that a request is given `span` milliseconds after `now`; none if the clock cannot
tell it. -/
def after? (now span : Nat) : Option Deadline :=
  if now + span ≤ lastMoment then some (.after now span) else none

def isExpired (deadline : Deadline) (now : Nat) : Bool :=
  match deadline.moment with
  | some moment => moment ≤ now
  | none => false

/-- Milliseconds until the deadline passes. -/
def remaining? (deadline : Deadline) (now : Nat) : Option Nat :=
  deadline.moment.map (· - now)

/-- Waits for the deadline, but no longer than `patience`: whether it has passed, and
the time afterwards. -/
def waitFor (deadline : Deadline) (now patience : Nat) : Bool × Nat :=
  match deadline.moment with
  | some moment =>
      if moment ≤ now + patience then (true, max now moment) else (false, now + patience)
  | none => (false, now + patience)

end Deadline

end HttpService
