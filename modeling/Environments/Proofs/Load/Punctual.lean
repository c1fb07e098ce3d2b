import Environments.Proofs.Load.Completion

/-!
# Punctual schedules

A schedule is punctual if nothing in it is late: time passes only while nothing can be done, never
past the point at which something is due, and the deadline elapses when it is due and not before.
In which order the things happen that are due at one time is left open, except where a load comes
to its tasks only at the deadline: a task first runs when the load waits for it, and the load then
looks at the deadline as well.

* `punctual_induction` is the induction over all punctual schedules.
* `clocked_follow` says where the clock can stand.
* The natural schedule is punctual.  Hence every punctual schedule goes on to a finished load,
  `exists_punctual_finished`, and `run_punctual` says that the run of a load is one.
-/

namespace Environments.Load

namespace State

variable (load : Load)

/-- Whether a task is done or waits for something that is not due before this time. -/
def waitsUntil (time : Nat) (t : Task) : Bool :=
  t.stage.isJoined || match t.stage.due? with
    | some due => time ≤ due
    | none => false

/-- Whether a move is made at the time for it. -/
def isPrompt (s : State) : Move → Bool
  | .wait millis =>
    match s.phase with
    | .discovering => s.now + millis ≤ load.discoveryLatency && s.now + millis ≤ load.cutoff
    | .loading => !s.elapsed && s.now + millis ≤ load.cutoff && s.outstanding ≠ 0 &&
        s.tasks.all (waitsUntil (s.now + millis))
    | .finished => true
  | .expire => load.cutoff ≤ s.now && (s.phase ≠ .discovering || s.now < load.discoveryLatency)
  | .step _ => s.elapsed || load.discoveryLatency < load.cutoff
  | _ => true

/-- Whether every move of a schedule is made at the time for it. -/
def isPunctual : State → List Move → Bool
  | _, [] => true
  | s, move :: later => s.isPrompt load move && (s.apply load move).isPunctual later

end State

/-- A schedule of a load in which every move is made at the time for it. -/
abbrev Punctual (load : Load) (schedule : List Move) : Prop :=
  State.isPunctual load {} schedule = true

namespace State

variable (load : Load)

theorem isPunctual_append (s : State) (first later : List Move) :
    s.isPunctual load (first ++ later) =
      (s.isPunctual load first && (s.follow load first).isPunctual load later) := by
  induction first generalizing s with
  | nil => rfl
  | cons move first ih => simp [isPunctual, ih, Bool.and_assoc]

variable {load} {s : State}

theorem punctual_of_append {first later : List Move} (punctual : load.Punctual (first ++ later)) :
    load.Punctual first := by
  rw [Punctual, isPunctual_append, Bool.and_eq_true] at punctual
  exact punctual.1

/-- **What the start of a load has and every prompt move keeps, holds under every punctual
schedule.** -/
theorem punctual_induction {P : State → Prop} (start : P {})
    (keeps : ∀ s move s', P s → s.isPrompt load move = true → Effect load s move s' → P s')
    {schedule : List Move} (punctual : load.Punctual schedule) :
    P (load.after schedule) := by
  suffices ∀ (schedule : List Move) (s : State), P s → s.isPunctual load schedule = true →
      P (s.follow load schedule) from this schedule {} start punctual
  intro schedule
  induction schedule with
  | nil => exact fun s h _ => h
  | cons move later ih =>
    intro s h punctual
    obtain ⟨prompt, punctual⟩ := Bool.and_eq_true_iff.mp punctual
    exact ih _ (keeps s move _ h prompt (effect_apply load s move)) punctual

/-! ### The clock -/

/-- Where the clock can stand: the providers are listed when they are due, and from the deadline on
no time passes. -/
structure Clocked (load : Load) (s : State) : Prop where
  discovering : s.phase = .discovering →
    s.now ≤ load.discoveryLatency ∧ s.now ≤ load.cutoff ∧ s.elapsed = false
  loading : s.phase = .loading → load.discoveryLatency ≤ s.now ∧ s.now ≤ load.cutoff ∧
    (s.elapsed = true → s.now = load.cutoff)

theorem waitsUntil_iff {time : Nat} {t : Task} : waitsUntil time t = true ↔
    t.stage.isJoined = true ∨ ∃ due, t.stage.due? = some due ∧ time ≤ due := by
  unfold waitsUntil
  cases t.stage.due? <;> simp

/-- While tasks are running, time passes only when each of them is done or waits. -/
theorem isPrompt_wait_iff {millis : Nat} (phase : s.phase = .loading) :
    s.isPrompt load (.wait millis) = true ↔ s.elapsed = false ∧ s.now + millis ≤ load.cutoff ∧
      s.outstanding ≠ 0 ∧ ∀ t ∈ s.tasks, t.stage.isJoined = true ∨
        ∃ due, t.stage.due? = some due ∧ s.now + millis ≤ due := by
  simp only [isPrompt, phase, Bool.and_eq_true, List.all_eq_true, waitsUntil_iff, and_assoc]
  simp

/-- Until the providers are listed, time passes only up to then, and only up to the deadline. -/
theorem isPrompt_wait_discovering_iff {millis : Nat} (phase : s.phase = .discovering) :
    s.isPrompt load (.wait millis) = true ↔
      s.now + millis ≤ load.discoveryLatency ∧ s.now + millis ≤ load.cutoff := by
  simp only [isPrompt, phase, Bool.and_eq_true, decide_eq_true_eq]

/-- The deadline elapses no sooner than it is due, and not while the providers have been listed and the
load has not seen it. -/
theorem isPrompt_expire_iff : s.isPrompt load .expire = true ↔
    load.cutoff ≤ s.now ∧ (s.phase ≠ .discovering ∨ s.now < load.discoveryLatency) := by
  simp only [isPrompt, Bool.and_eq_true, Bool.or_eq_true, decide_eq_true_eq]

theorem isPrompt_step_iff {number : Nat} : s.isPrompt load (.step number) = true ↔
    s.elapsed = true ∨ load.discoveryLatency < load.cutoff := by
  simp only [isPrompt, Bool.or_eq_true, decide_eq_true_eq]

theorem clocked_initial : Clocked load {} :=
  ⟨fun _ => ⟨Nat.zero_le _, Nat.zero_le _, rfl⟩, nofun⟩

theorem Clocked.keeps {move : Move} {s' : State} (h : Clocked load s) (sound : Sound load s)
    (prompt : s.isPrompt load move = true) (effect : Effect load s move s') : Clocked load s' := by
  cases effect with
  | stay => exact h
  | @wait millis running =>
    cases phase : s.phase with
    | discovering =>
      obtain ⟨_, _, early⟩ := h.discovering phase
      obtain ⟨unlisted, before⟩ := (isPrompt_wait_discovering_iff phase).mp prompt
      exact ⟨fun _ => ⟨unlisted, before, early⟩, nofun⟩
    | loading =>
      obtain ⟨early, before, _⟩ := (isPrompt_wait_iff phase).mp prompt
      refine ⟨nofun, fun _ => ⟨?_, before, ?_⟩⟩
      · exact Nat.le_trans (h.loading phase).1 (Nat.le_add_right _ _)
      · intro late
        cases early.symm.trans late
    | finished => exact absurd phase running
  | start phase listed =>
    obtain ⟨_, before, early⟩ := h.discovering phase
    obtain ⟨inFlight, same, _⟩ := start_eq load (sound.discovering phase).1 _
    rw [same]
    refine ⟨nofun, fun _ => ⟨listed, before, fun late => ?_⟩⟩
    cases early.symm.trans late
  | fail | timeOut | close => exact ⟨nofun, nofun⟩
  | cancel phase =>
    obtain ⟨due, _⟩ := isPrompt_expire_iff.mp prompt
    obtain ⟨listed, before, _⟩ := h.loading phase
    refine ⟨fun discovering => ?_, fun _ => ⟨listed, before, fun _ => Nat.le_antisymm before due⟩⟩
    cases phase.symm.trans discovering
  | step => exact ⟨h.discovering, h.loading⟩
  | join _ found =>
    rw [sound.recorded_eq found]
    exact ⟨h.discovering, h.loading⟩

/-- **The induction over all punctual schedules**, with a load that is known to be sound, and its
clock to be within its bounds. -/
theorem clocked_induction {P : State → Prop} (start : P {})
    (keeps : ∀ s move s', Sound load s → Clocked load s → P s → s.isPrompt load move = true →
      Effect load s move s' → P s')
    {schedule : List Move} (punctual : load.Punctual schedule) : P (load.after schedule) := by
  suffices Sound load (load.after schedule) ∧ Clocked load (load.after schedule) ∧
      P (load.after schedule) from this.2.2
  refine punctual_induction (P := fun s => Sound load s ∧ Clocked load s ∧ P s)
    ⟨sound_initial, clocked_initial, start⟩ (fun s move s' h prompt effect => ?_) punctual
  obtain ⟨sound, clocked, holds⟩ := h
  exact ⟨sound.keeps effect, clocked.keeps sound prompt effect,
    keeps s move s' sound clocked holds prompt effect⟩

theorem clocked_follow {schedule : List Move} (punctual : load.Punctual schedule) :
    Clocked load (load.after schedule) :=
  clocked_induction clocked_initial
    (fun _ _ _ sound h _ prompt effect => h.keeps sound prompt effect) punctual

theorem discoveryError_eq_none {entries : List (Entry Provider)}
    (listed : load.discovered = .ok entries) (early : load.discoveryLatency ≤ load.cutoff)
    {schedule : List Move} (punctual : load.Punctual schedule) :
    (load.after schedule).discoveryError = none := by
  refine clocked_induction (P := fun s => s.discoveryError = none) rfl
    (fun s move s' sound _ h prompt effect => ?_) punctual
  cases effect with
  | stay | wait | cancel | step | close => exact h
  | @start entries phase =>
    obtain ⟨inFlight, same, _⟩ := start_eq load (sound.discovering phase).1 entries
    rw [same]
    exact h
  | fail _ _ failed => cases listed.symm.trans failed
  | timeOut phase =>
    obtain ⟨late, unlisted⟩ := isPrompt_expire_iff.mp prompt
    have unlisted := unlisted.resolve_left (not_not_intro phase)
    omega
  | join _ found =>
    rw [sound.recorded_eq found]
    exact h

theorem tasks_eq_nil (late : load.cutoff < load.discoveryLatency) {schedule : List Move}
    (punctual : load.Punctual schedule) : (load.after schedule).tasks = [] := by
  refine clocked_induction (P := fun s => s.tasks = []) rfl
    (fun s move s' _ clocked h _ effect => ?_) punctual
  cases effect with
  | stay | wait | fail | timeOut | cancel | close => exact h
  | start phase listed =>
    have := clocked.discovering phase
    omega
  | step _ found | join _ found =>
    rw [h] at found
    cases found

/-! ### The natural schedule -/

theorem Natural.isPrompt {move : Move} (h : Natural load s move) (clocked : Clocked load s) :
    s.isPrompt load move = true := by
  cases h with
  | discover | join | finish => rfl
  | timeOut phase unlisted due => simp [State.isPrompt, phase, unlisted, due]
  | await phase unlisted early =>
    simp only [State.isPrompt, phase, Bool.and_eq_true, decide_eq_true_eq]
    omega
  | cutOff _ _ _ elapsed => simp [State.isPrompt, elapsed]
  | expire phase _ due => simp [State.isPrompt, phase, due]
  | step phase _ _ _ early =>
    have := (clocked.loading phase).1
    simp only [State.isPrompt, Bool.or_eq_true, decide_eq_true_eq]
    omega
  | wait phase waiting =>
    obtain ⟨early, before, outstanding, due⟩ := waiting
    have until_cutoff := nextDue_le_cutoff load s
    refine (isPrompt_wait_iff phase).mpr ⟨early, by omega, outstanding, fun t member => ?_⟩
    refine (due t member).imp_right fun ⟨time, at_time, later⟩ => ⟨time, at_time, ?_⟩
    have until_due := nextDue_le load member at_time
    omega

theorem exists_drive_eq_punctual (fuel : Nat) (s : State) (sound : Sound load s)
    (clocked : Clocked load s) : ∃ schedule, s.isPunctual load schedule = true ∧
      s.drive load fuel = s.follow load schedule := by
  induction fuel generalizing s with
  | zero => exact ⟨[], rfl, rfl⟩
  | succ fuel ih =>
    cases next : s.next? load with
    | none => exact ⟨[], rfl, by simp [drive, next]⟩
    | some move =>
      have prompt := (natural_next? next).isPrompt clocked
      have effect := effect_apply load s move
      obtain ⟨later, punctual, same⟩ := ih (s.apply load move) (sound.keeps effect)
        (clocked.keeps sound prompt effect)
      exact ⟨move :: later, by simp [isPunctual, prompt, punctual], by simp [drive, next, same]⟩

/-- **Every punctual schedule goes on, punctually, to a finished load.** -/
theorem exists_punctual_finished {schedule : List Move}
    (punctual : load.Punctual schedule) :
    ∃ later, load.Punctual (schedule ++ later) ∧
      (load.after (schedule ++ later)).phase = .finished := by
  have sound := sound_follow load schedule
  obtain ⟨later, goes_on, same⟩ := exists_drive_eq_punctual
    ((load.after schedule).moveBound load) _ sound (clocked_follow punctual)
  refine ⟨later, by rw [Punctual, isPunctual_append, punctual, goes_on]; rfl, ?_⟩
  rw [after_append, ← same]
  exact drive_finished sound (Nat.le_refl _)

theorem run_punctual (load : Load) : ∃ schedule, load.Punctual schedule ∧
    load.run = load.after schedule :=
  exists_drive_eq_punctual _ _ sound_initial clocked_initial

end State

end Environments.Load
