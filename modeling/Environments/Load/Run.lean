import Environments.Load.State

/-!
# Running a load against the clock

With latencies that are known, one schedule is the natural one: whatever can happen happens as soon as
it is due, several things at one time in the order in which the providers were discovered, and time
passes only when there is nothing else to do. When the deadline comes it comes before everything else
of that time. The run follows this schedule from the start of the load to its end.
-/

namespace Environments.Load

namespace State

variable (load : Load)

def firstTask? (s : State) (kind : Stage → Bool) : Option Nat :=
  s.tasks.findIdx? fun t => kind t.stage

/-- The time at which the next thing is due, the deadline included. -/
def nextDue (s : State) : Nat :=
  (s.tasks.filterMap (·.stage.due?)).foldr min load.cutoff

/-- The next move while the providers are being listed. -/
def nextDiscovering (s : State) : Move :=
  if load.discoveryLatency ≤ s.now then .discover
  else if load.cutoff ≤ s.now then .expire
  else .wait (min load.discoveryLatency load.cutoff - s.now)

/-- The next move while tasks are running. -/
def nextLoading (s : State) : Move :=
  match s.firstTask? Stage.isEnded, s.firstTask? (!·.isJoined) with
  | some number, _ => .join number
  | none, none => .finish
  | none, some number =>
    if s.elapsed then .step number
    else if load.cutoff ≤ s.now then .expire
    else match s.firstTask? (Stage.isReady s.now) with
      | some number => .step number
      | none => .wait (s.nextDue load - s.now)

/-- The next move of the natural schedule; a finished load makes none. -/
def next? (s : State) : Option Move :=
  match s.phase with
  | .finished => none
  | .discovering => some (s.nextDiscovering load)
  | .loading => some (s.nextLoading load)

/-- Makes the next moves, at most so many. -/
def drive (load : Load) : State → Nat → State
  | s, 0 => s
  | s, fuel + 1 =>
    match s.next? load with
    | none => s
    | some move => (s.apply load move).drive load fuel

/-- Driving a load is following a schedule: the one that the natural moves make up. -/
theorem exists_drive_eq_follow (fuel : Nat) (s : State) :
    ∃ schedule, s.drive load fuel = s.follow load schedule := by
  induction fuel generalizing s with
  | zero => exact ⟨[], rfl⟩
  | succ fuel ih =>
    cases h : s.next? load with
    | none => exact ⟨[], by simp [drive, h]⟩
    | some move =>
      obtain ⟨schedule, later⟩ := ih (s.apply load move)
      exact ⟨move :: schedule, by simp [drive, h, later]⟩

end State

/-- The most moves other than waits that a load makes from a state on. -/
def State.movesLeft (load : Load) (s : State) : Nat :=
  match s.phase with
  | .discovering =>
    match load.discovered with
    | .ok entries => Task.stepsLeft (entries.map ({ entry := · })) + 3
    | .error _ => 3
  | .loading => Task.stepsLeft s.tasks + (if s.elapsed then 1 else 2)
  | .finished => 0

/-- More moves than a load makes from a state on. Each move may have a wait before it. -/
def State.moveBound (load : Load) (s : State) : Nat :=
  2 * s.movesLeft load + 1

/-- The state at the end of a load. -/
def run (load : Load) : State :=
  State.drive load {} (State.moveBound load {})

end Environments.Load
