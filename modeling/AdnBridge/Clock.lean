import Mathlib.Tactic.Common

namespace AdnBridge
set_option autoImplicit true

structure Timespec where
  sec : Int
  nsec : Int
deriving DecidableEq

/-- Milliseconds from `since` to `now`; C divides towards zero. -/
def msSince (now since : Timespec) : Int :=
  (now.sec - since.sec) * 1000 + (now.nsec - since.nsec).tdiv 1000000

/-- The readings of the clock to come. -/
abbrev Clock := Nat → Timespec

namespace Clock

def now (c : Clock) : Timespec := c 0

def next (c : Clock) : Clock := fun i => c (i + 1)

/-- A clock that stands still, `ms` milliseconds after the start. -/
def stopped (ms : Nat) : Clock := fun _ => ⟨ms / 1000, ms % 1000 * 1000000⟩

end Clock

def msElapsed (now since : Timespec) (intervalMs : Int) : Bool := msSince now since ≥ intervalMs

end AdnBridge
