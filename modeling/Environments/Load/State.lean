import Environments.Load.Task

/-!
# The course of a load

A load is a machine that moves in steps: time passes, the load asks for the providers and starts their
tasks, a task makes a step, the load takes note of a task that has ended, the deadline elapses, the load
finishes. Any list of such moves is a schedule, and what is known of a load under every schedule does
not depend on who runs it. A move that is not possible as things stand changes nothing.
-/

namespace Environments.Load

/-- What a load is occupied with. -/
inductive Phase
  | discovering
  | loading
  | finished
  deriving DecidableEq, Repr

/-- Where a load stands. Its report and its log grow as it goes. -/
structure State where
  /-- The milliseconds since the start of the load. -/
  now : Nat := 0
  phase : Phase := .discovering
  tasks : List Task := []
  /-- The descriptors of the providers, under the identities of their tasks. -/
  inFlight : List (TaskId × Descriptor) := []
  /-- Whether the deadline has elapsed; this is also the sign to cancel. -/
  elapsed : Bool := false
  discoveryError : Option String := none
  rows : List ProviderReport := []
  /-- The breakdowns that were logged because no provider could be told for them, and when. -/
  unattributed : List (Nat × String) := []
  deeds : List (Nat × Deed) := [(0, .asked)]
  log : List (Nat × LoadEvent) := []

/-- A step of a load. -/
inductive Move
  | wait (millis : Nat)
  /-- The load looks whether the providers are listed. -/
  | discover
  | expire
  | step (task : Nat)
  /-- The load takes note of a task that has ended. -/
  | join (task : Nat)
  | finish
  deriving DecidableEq, Repr

namespace State

variable (load : Load)

/-- The report of a load as it stands. -/
def report (s : State) : Report where
  loadId := load.id
  startedAt := load.clock 0
  finishedAt := load.clock s.now
  deadlineElapsed := s.elapsed
  discoveryError := s.discoveryError
  providers := s.rows

def note (s : State) (event : LoadEvent) : State :=
  { s with log := s.log ++ [(s.now, event)] }

/-- Finishes the load, with a last event that sums up the report. -/
def close (s : State) : State :=
  let report := s.report load
  { s.note (.finished report.deliveredCount report.failedCount report.cancelledCount s.elapsed) with
    phase := .finished }

/-- The number of tasks whose end is not on record. -/
def outstanding (s : State) : Nat :=
  s.tasks.countP fun t => !t.stage.isJoined

def spawn (s : State) (entry : Entry Provider) : State :=
  { s with
    tasks := s.tasks ++ [{ entry := entry }]
    inFlight := (load.taskId s.tasks.length, entry.descriptor) :: s.inFlight }

/-- Starts a task for each discovered entry. -/
def start (s : State) (entries : List (Entry Provider)) : State :=
  entries.foldl (spawn load) { s.note (.discovered entries.length) with phase := .loading }

/-- Finishes the load because the providers cannot be listed. -/
def fail (s : State) (error : DirectoryError) : State :=
  ({ s with discoveryError := some error.message }.note (.discoveryFailed error.message)).close load

def discover (s : State) : State :=
  if load.discoveryLatency ≤ s.now then
    match load.discovered with
    | .ok entries => s.start load entries
    | .error error => s.fail load error
  else s

/-- The deadline elapses while the providers are being listed. -/
def timeOut (s : State) : State :=
  ({ s with elapsed := true, discoveryError := some "provider discovery cancelled by deadline" }.note
    (.discoveryTimedOut load.config.deadline)).close load

/-- The deadline elapses while tasks are running: it gives them the sign to cancel. -/
def cancel (s : State) : State :=
  { s with elapsed := true }.note (.deadlineElapsed load.config.deadline s.outstanding)

def step (s : State) (number : Nat) : State :=
  match s.tasks[number]? with
  | none => s
  | some t =>
    let stepped := t.step load s.now number s.elapsed
    { s with
      tasks := s.tasks.set number { t with stage := stepped.1 }
      deeds := s.deeds ++ stepped.2.map (s.now, ·) }

def put (s : State) (row : ProviderReport) : State :=
  { s.note (.ended row.provider.id row.outcome) with rows := s.rows ++ [row] }

/-- Puts what a task left behind on record. A task that broke down leaves no descriptor: the one that
was kept under its identity is taken, if there is one. -/
def record (s : State) : Ending → State
  | .returned descriptor outcome => s.put ⟨descriptor, outcome⟩
  | .brokeDown task report =>
    match s.inFlight.lookup task with
    | some descriptor => s.put ⟨descriptor, .aborted report⟩
    | none => { s with unattributed := s.unattributed ++ [(s.now, report)] }

/-- Takes note of the end of the task with a number. -/
def join (s : State) (number : Nat) : State :=
  match s.tasks[number]? with
  | some { entry, stage := .ended ending } =>
    { s.record ending with tasks := s.tasks.set number { entry, stage := .joined ending } }
  | _ => s

def apply (s : State) (move : Move) : State :=
  match s.phase, move with
  | .finished, _ => s
  | _, .wait millis => { s with now := s.now + millis }
  | .discovering, .discover => s.discover load
  | .discovering, .expire => s.timeOut load
  | .loading, .expire => if s.elapsed then s else s.cancel load
  | .loading, .step number => s.step load number
  | .loading, .join number => s.join number
  | .loading, .finish => if s.outstanding = 0 then s.close load else s
  | _, _ => s

/-- Makes the moves of a schedule, one after the other. -/
def follow (s : State) (schedule : List Move) : State :=
  schedule.foldl (apply load) s

@[simp] theorem follow_nil (s : State) : s.follow load [] = s := rfl

@[simp] theorem follow_cons (s : State) (move : Move) (schedule : List Move) :
    s.follow load (move :: schedule) = (s.apply load move).follow load schedule := rfl

theorem follow_append (s : State) (first later : List Move) :
    s.follow load (first ++ later) = (s.follow load first).follow load later :=
  List.foldl_append

end State

/-- Where a load stands after a schedule. -/
abbrev after (load : Load) (schedule : List Move) : State :=
  State.follow load {} schedule

theorem after_append (load : Load) (first later : List Move) :
    load.after (first ++ later) = (load.after first).follow load later :=
  State.follow_append load {} first later

end Environments.Load
