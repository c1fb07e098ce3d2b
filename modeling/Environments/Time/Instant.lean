import Environments.Time.Calendar

/-!
# Instants

An instant is a second, counted from the start of 1970 in Universal Time, and a number of nanoseconds
in it. A leap second has no number of its own: it is told as a second billion of nanoseconds in the
last second of its minute. Instants reach from the start of the year -262143 to the end of the year
262142.
-/

namespace Environments.Time

def nanosPerSecond : Nat := 1000000000

/-- The first second of the year -262143. -/
def firstSecond : Int := -8334601228800

/-- The last second of the year 262142. -/
def lastSecond : Int := 8210266876799

/-- Whether a second and nanoseconds in it are an instant. -/
def IsInstant (second : Int) (nano : Nat) : Prop :=
  (firstSecond ≤ second ∧ second ≤ lastSecond) ∧
    (nano < nanosPerSecond ∨ (nano < 2 * nanosPerSecond ∧ second % 60 = 59))

instance (second : Int) (nano : Nat) : Decidable (IsInstant second nano) :=
  inferInstanceAs (Decidable (_ ∧ _))

structure Instant where
  second : Int
  nano : Nat
  isInstant : IsInstant second nano
  deriving DecidableEq

namespace Instant

/-- The instant with this second and these nanoseconds, if it is one. -/
def of? (second : Int) (nano : Nat) : Option Instant :=
  if h : IsInstant second nano then some ⟨second, nano, h⟩ else none

/-- The start of 1970. -/
def epoch : Instant := ⟨0, 0, by decide⟩

/-- The last instant of all. -/
def last : Instant := ⟨lastSecond, nanosPerSecond - 1, by decide⟩

instance : Inhabited Instant := ⟨epoch⟩

/-- The instant that many milliseconds after the start of 1970, or before it. -/
def ofMillis? (millis : Int) : Option Instant :=
  of? (millis / 1000) ((millis % 1000).toNat * 1000000)

/-- The nanoseconds from the start of 1970 to an instant. -/
def totalNanos (i : Instant) : Int :=
  i.second * nanosPerSecond + i.nano

/-- The instant that many milliseconds later. Past the last instant there is only the last one. -/
def after (i : Instant) (millis : Nat) : Instant :=
  let total := i.totalNanos + millis * 1000000
  (of? (total / nanosPerSecond) (total % nanosPerSecond).toNat).getD last

theorem of?_eq_some {second : Int} {nano : Nat} {i : Instant} :
    of? second nano = some i ↔ i.second = second ∧ i.nano = nano := by
  cases i with
  | mk s n h =>
    by_cases known : IsInstant second nano
    · simp [of?, known, eq_comm]
    · simp only [of?, known, dite_false, reduceCtorEq, false_iff]
      rintro ⟨rfl, rfl⟩
      exact known h

/-- So many milliseconds later it is later by just that, unless the last instant comes first. -/
theorem totalNanos_after (i : Instant) (millis : Nat) :
    (i.after millis).totalNanos = min (i.totalNanos + millis * 1000000) last.totalNanos := by
  obtain ⟨second, nano, bounds⟩ := i
  unfold IsInstant firstSecond lastSecond nanosPerSecond at bounds
  simp only [after, totalNanos, last, nanosPerSecond, lastSecond]
  unfold of?
  split
  · rename_i known
    unfold IsInstant firstSecond lastSecond nanosPerSecond at known
    simp only [Option.getD_some]
    omega
  · rename_i unknown
    unfold IsInstant firstSecond lastSecond nanosPerSecond at unknown
    simp only [Option.getD_none]
    omega

theorem totalNanos_after_mono (i : Instant) {first later : Nat} (h : first ≤ later) :
    (i.after first).totalNanos ≤ (i.after later).totalNanos := by
  rw [totalNanos_after, totalNanos_after]
  omega

end Instant

end Environments.Time
