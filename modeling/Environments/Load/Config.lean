/-!
# The configuration of a load

A load has a time it may take and an options text that every query gets. Times are in milliseconds.
-/

namespace Environments

/-- The horizon: thirty years of 365 days. -/
def Time.horizon : Nat := 30 * 365 * 86400 * 1000

structure Config where
  /-- The time from the start of a load to its deadline. -/
  deadline : Nat := 120000
  options : String := ""
  deriving DecidableEq, Repr

namespace Config

/-- The longest time that can be configured, 2^64 seconds less a nanosecond, in full milliseconds. -/
def longest : Nat := 18446744073709551615999

def withDeadline (c : Config) (deadline : Nat) : Config := { c with deadline := deadline }

def withOptions (c : Config) (options : String) : Config := { c with options := options }

/-- Whether a clock can show so many milliseconds: clocks count seconds up to 2^63. -/
def isTellable (millis : Nat) : Bool := millis / 1000 < 9223372036854775808

/-- The time from the start of a load to the point at which it is cut off, if the clock shows `ticks`
at the start: the deadline, or the horizon if the clock cannot show the deadline. A clock that cannot
show the horizon either leaves no time at all. -/
def cutoff (c : Config) (ticks : Nat) : Nat :=
  if isTellable (ticks + c.deadline) then c.deadline
  else if isTellable (ticks + Time.horizon) then Time.horizon
  else 0

/-- Where there is any time at all, it is the deadline, or else the horizon. -/
theorem cutoff_eq {c : Config} {ticks : Nat} (h : 0 < c.cutoff ticks) :
    c.cutoff ticks = if isTellable (ticks + c.deadline) then c.deadline else Time.horizon := by
  unfold cutoff at h ⊢
  split
  · rfl
  · rename_i untellable
    rw [if_neg untellable] at h
    split at h
    · rw [if_pos ‹_›]
    · exact absurd h (Nat.lt_irrefl 0)

end Config

end Environments
