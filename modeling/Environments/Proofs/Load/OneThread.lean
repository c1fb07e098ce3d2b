import Environments.Proofs.Load.Log
import Environments.Proofs.Load.Punctual
import Mathlib.Data.List.Basic

/-!
# Loads on one thread

Where a load and its tasks take turns on one thread, a task that was started does not run before the
load waits, and the load does not wait while a task has ended or while the deadline has come and is
not seen to.  `OneThread` are the schedules of this kind; the punctual ones are among them.

`fruitless_of_late`: if the providers are listed only when no time is left, nothing passes between
the load and the providers or the sink, and every row is cancelled.
-/

namespace Environments.Load

def Move.isStep : Move → Bool
  | .step _ => true
  | _ => false

namespace State

/-- Whether the load waits for its tasks. -/
def isWaiting (load : Load) (s : State) : Bool :=
  s.phase = .loading && s.tasks.all (!·.stage.isEnded) && (s.elapsed || s.now < load.cutoff)

/-- Whether no task makes a step before the load has waited, which it may have done already. -/
def isOneThread (load : Load) : Bool → State → List Move → Bool
  | _, _, [] => true
  | waited, s, move :: later =>
    (waited || s.isWaiting load || !move.isStep || s.phase ≠ .loading) &&
      (s.apply load move).isOneThread load (waited || s.isWaiting load) later

end State

/-- A schedule of a load in which no task runs before the load waits. -/
abbrev OneThread (load : Load) (schedule : List Move) : Prop :=
  State.isOneThread load false {} schedule = true

namespace State

variable {load : Load} {s : State} {waited : Bool}

theorem isWaiting_iff : s.isWaiting load = true ↔ s.phase = .loading ∧
    (∀ t ∈ s.tasks, t.stage.isEnded = false) ∧ (s.elapsed = true ∨ s.now < load.cutoff) := by
  simp [isWaiting, and_assoc]

/-! ### The induction over these schedules -/

/-- **What the start of a load has, and every move keeps that lets the load wait before a task runs,
holds under every schedule on one thread.** -/
theorem oneThread_induction {P : Bool → State → Prop} (start : P false {})
    (waits : ∀ waited s, P waited s → P (waited || s.isWaiting load) s)
    (keeps : ∀ waited first move s', P waited (load.after first) →
      ((load.after first).phase = .loading → move.isStep = true → waited = true) →
      Effect load (load.after first) move s' → P waited s')
    {schedule : List Move} (h : load.OneThread schedule) :
    ∃ waited, P waited (load.after schedule) := by
  suffices ∀ (later first : List Move) (waited : Bool), P waited (load.after first) →
      (load.after first).isOneThread load waited later = true →
      ∃ waited, P waited (load.after (first ++ later)) from this schedule [] false start h
  intro later
  induction later with
  | nil =>
    intro first waited holds _
    rw [List.append_nil]
    exact ⟨waited, holds⟩
  | cons move later ih =>
    intro first waited holds oneThread
    obtain ⟨fits, oneThread⟩ := Bool.and_eq_true_iff.mp oneThread
    rw [List.append_cons]
    have next : (load.after first).apply load move = load.after (first ++ [move]) := by
      rw [after_append]
      rfl
    rw [next] at oneThread
    refine ih (first ++ [move]) _ ?_ oneThread
    rw [← next]
    refine keeps _ first move _ (waits _ _ holds) (fun phase step => ?_) (effect_apply load _ move)
    simpa [phase, step] using fits

/-! ### A load without time left -/

/-- A task that has not begun, or has ended like that. -/
def IsUnbegun (t : Task) : Prop :=
  t.stage = .resting 0 [] t.entry.developers ∨
    t.stage.ending? = some (.returned t.entry.descriptor (.cancelled 0))

theorem IsUnbegun.cutOff {t : Task} (h : IsUnbegun t) : IsUnbegun { t with stage := t.cutOff } := by
  refine Or.inr (t.ending?_cutOff.trans ?_)
  rcases h with fresh | left
  · rw [fresh]
    rfl
  · rw [left]
    rfl

theorem mem_log_of_note {event : LoadEvent} {time count : Nat}
    (logged : (time, .discovered count) ∈ (s.note event).log) (other : event ≠ .discovered count) :
    (time, .discovered count) ∈ s.log := by
  rcases List.mem_append.mp logged with before | new
  · exact before
  · exact absurd (congrArg Prod.snd (List.mem_singleton.mp new)).symm other

/-- Whether the providers were listed when no time was left. -/
def IsLate (load : Load) (s : State) : Prop :=
  ∃ time count, (time, .discovered count) ∈ s.log ∧ load.cutoff ≤ time

/-- Nothing has begun in a load that has no time left, and nothing does before the sign to cancel. -/
structure Unbegun (load : Load) (waited : Bool) (s : State) : Prop where
  clock : load.cutoff ≤ s.now
  deeds : s.deeds = [(0, .asked)]
  waited : waited = true → s.elapsed = true
  tasks : ∀ t ∈ s.tasks, IsUnbegun t

theorem Unbegun.of_eq {s' : State} (h : Unbegun load waited s) (clock : s.now ≤ s'.now)
    (deeds : s'.deeds = s.deeds) (elapsed : s.elapsed = true → s'.elapsed = true)
    (tasks : s'.tasks = s.tasks) : Unbegun load waited s' :=
  ⟨Nat.le_trans h.clock clock, deeds.trans h.deeds, fun waits => elapsed (h.waited waits),
    tasks ▸ h.tasks⟩

/-- **A load whose providers are listed when no time is left.** -/
structure Spent (load : Load) (waited : Bool) (s : State) : Prop where
  discovering : s.phase = .discovering → waited = false ∧ s.deeds = [(0, .asked)]
  late : IsLate load s → Unbegun load waited s

theorem spent_initial : Spent load false {} :=
  ⟨fun _ => ⟨rfl, rfl⟩, fun ⟨_, _, logged, _⟩ => nomatch logged⟩

/-- A load without time left does not wait before the sign to cancel. -/
theorem Spent.wait (h : Spent load waited s) : Spent load (waited || s.isWaiting load) s := by
  refine ⟨fun phase => by simpa [isWaiting, phase] using h.discovering phase, fun late => ?_⟩
  have unbegun := h.late late
  refine ⟨unbegun.clock, unbegun.deeds, fun waits => ?_, unbegun.tasks⟩
  rcases Bool.or_eq_true_iff.mp waits with before | now
  · exact unbegun.waited before
  · rcases (isWaiting_iff.mp now).2.2 with elapsed | early
    · exact elapsed
    · exact absurd unbegun.clock (Nat.not_le_of_lt early)

theorem IsLate.of_note {event : LoadEvent} (late : IsLate load (s.note event))
    (other : ∀ count, event ≠ .discovered count) : IsLate load s := by
  obtain ⟨time, count, logged, due⟩ := late
  exact ⟨time, count, mem_log_of_note logged (other count), due⟩

/-- **A load without time left goes on like this**, if no task runs before it waits. -/
theorem Spent.keeps {move : Move} {s' : State} (h : Spent load waited s) (sound : Sound load s)
    (logged : Logged load s) (oneThread : s.phase = .loading → move.isStep = true → waited = true)
    (effect : Effect load s move s') : Spent load waited s' := by
  cases effect with
  | stay => exact h
  | wait =>
    refine ⟨h.discovering, fun late => ?_⟩
    exact (h.late late).of_eq (Nat.le_add_right _ _) rfl (fun given => given) rfl
  | @start entries phase =>
    obtain ⟨inFlight, same, _⟩ := start_eq load (sound.discovering phase).1 entries
    obtain ⟨unwaited, nothing⟩ := h.discovering phase
    rw [same]
    refine ⟨nofun, fun ⟨time, count, there, due⟩ => ⟨?_, nothing, fun waits => ?_, fun t member => ?_⟩⟩
    · rcases List.mem_append.mp there with before | new
      · rw [(logged.discovering phase).1] at before
        cases before
      · obtain ⟨rfl, _⟩ := Prod.mk.inj (List.mem_singleton.mp new)
        exact due
    · cases unwaited.symm.trans waits
    · obtain ⟨entry, _, rfl⟩ := List.mem_map.mp member
      exact Or.inl rfl
  | fail =>
    refine ⟨nofun, fun late => ?_⟩
    exact (h.late ((late.of_note nofun).of_note nofun)).of_eq (Nat.le_refl _) rfl (fun given => given) rfl
  | timeOut =>
    refine ⟨nofun, fun late => ?_⟩
    exact (h.late ((late.of_note nofun).of_note nofun)).of_eq (Nat.le_refl _) rfl (fun _ => rfl) rfl
  | cancel =>
    refine ⟨h.discovering, fun late => ?_⟩
    exact (h.late (late.of_note nofun)).of_eq (Nat.le_refl _) rfl (fun _ => rfl) rfl
  | @step number t phase found =>
    refine ⟨fun discovering => ?_, fun late => ?_⟩
    · cases phase.symm.trans discovering
    · -- The load has waited, and so it has given the sign to cancel: the task is cut off.
      have unbegun := h.late late
      have elapsed := unbegun.waited (oneThread phase rfl)
      have cut : t.step load s.now number s.elapsed = (t.cutOff, []) := by
        rw [elapsed]
        rfl
      rw [cut]
      refine ⟨unbegun.clock, (List.append_nil _).trans unbegun.deeds, fun _ => elapsed, ?_⟩
      intro u member
      rcases List.mem_or_eq_of_mem_set member with before | rfl
      · exact unbegun.tasks u before
      · exact (unbegun.tasks t (List.mem_of_getElem? found)).cutOff
  | @join number entry ending phase found =>
    rw [sound.recorded_eq found]
    refine ⟨h.discovering, fun late => ?_⟩
    have unbegun := h.late (late.of_note nofun)
    refine ⟨unbegun.clock, unbegun.deeds, unbegun.waited, fun u member => ?_⟩
    rcases List.mem_or_eq_of_mem_set member with before | rfl
    · exact unbegun.tasks u before
    · rcases unbegun.tasks _ (List.mem_of_getElem? found) with fresh | left
      · cases fresh
      · exact Or.inr left
  | close =>
    refine ⟨nofun, fun late => ?_⟩
    exact (h.late (late.of_note nofun)).of_eq (Nat.le_refl _) rfl (fun given => given) rfl

theorem spent_follow {schedule : List Move} (oneThread : load.OneThread schedule) :
    ∃ waited, Spent load waited (load.after schedule) :=
  oneThread_induction spent_initial (fun _ _ h => h.wait)
    (fun _ first _ _ h fits effect => h.keeps (sound_follow load first) (logged_follow load first)
      fits effect) oneThread

/-- **What comes of a load that lists these entries when no time is left**: nothing passes between it
and the providers or the sink, and every entry is cancelled without a result. -/
structure Fruitless (load : Load) (entries : List (Entry Provider)) (s : State) : Prop where
  listed : load.discovered = .ok entries
  fine : s.discoveryError = none
  elapsed : s.elapsed = true
  deeds : s.deeds = [(0, .asked)]
  rows : s.rows.Perm (entries.map fun entry => ⟨entry.descriptor, .cancelled 0⟩)

theorem filterMap_row?_unbegun {tasks : List Task} (unbegun : ∀ t ∈ tasks, IsUnbegun t)
    (joined : ∀ t ∈ tasks, t.stage.isJoined = true) : tasks.filterMap Task.row? =
      (tasks.map (·.entry)).map fun entry => ⟨entry.descriptor, .cancelled 0⟩ := by
  rw [List.map_map, ← List.filterMap_eq_map]
  refine List.filterMap_congr fun t member => ?_
  have done := joined t member
  have left := unbegun t member
  obtain ⟨entry, stage⟩ := t
  cases stage with
  | joined ending =>
    rcases left with fresh | left
    · cases fresh
    · change some (ProviderReport.mk entry.descriptor ending.outcome) = _
      rw [Option.some.inj left]
      rfl
  | resting | querying | delivering | ended => cases done

/-- **A load on one thread that lists its providers when no time is left is fruitless.** -/
theorem fruitless_of_late {schedule : List Move} (oneThread : load.OneThread schedule)
    (finished : (load.after schedule).phase = .finished) {time count : Nat}
    (there : (time, .discovered count) ∈ (load.after schedule).log) (late : load.cutoff ≤ time)
    (some : 0 < count) :
    ∃ entries, entries.length = count ∧ Fruitless load entries (load.after schedule) := by
  have sound := sound_follow load schedule
  obtain ⟨fine, rfl⟩ := (logged_follow load schedule).of_discovered sound finished there
  obtain ⟨waited, spent⟩ := spent_follow oneThread
  have unbegun := spent.late ⟨time, _, there, late⟩
  have rows : (load.after schedule).rows.Perm
      (((load.after schedule).tasks.map (·.entry)).map fun entry => ⟨entry.descriptor, .cancelled 0⟩) := by
    rw [← filterMap_row?_unbegun unbegun.tasks fun t member => ?_]
    · exact sound.rows
    · simpa using List.countP_eq_zero.mp (sound.finished finished) t member
  -- There is a row, and it is cancelled.
  have elapsed : (load.after schedule).elapsed = true := by
    obtain ⟨t, member⟩ := List.exists_mem_of_length_pos some
    have row : ⟨t.entry.descriptor, .cancelled 0⟩ ∈ (load.after schedule).rows :=
      rows.mem_iff.mpr (List.mem_map_of_mem (List.mem_map_of_mem member))
    exact elapsed_of_cancelled schedule row rfl
  exact ⟨_, List.length_map _, sound.listed (by rw [finished]; nofun) fine, fine, elapsed,
    unbegun.deeds, rows⟩

/-! ### Punctual schedules are on one thread -/

theorem discoveryLatency_le {schedule : List Move} {time count : Nat}
    (there : (time, .discovered count) ∈ (load.after schedule).log) : load.discoveryLatency ≤ time := by
  refine sound_induction (P := fun s => ∀ time count, (time, .discovered count) ∈ s.log →
    load.discoveryLatency ≤ time) nofun ?_ schedule time count there
  intro s move s' sound h effect time count there
  cases effect with
  | stay | wait | step => exact h time count there
  | @start entries phase listed =>
    obtain ⟨inFlight, same, _⟩ := start_eq load (sound.discovering phase).1 entries
    rw [same] at there
    rcases List.mem_append.mp there with before | new
    · exact h time count before
    · obtain ⟨rfl, _⟩ := Prod.mk.inj (List.mem_singleton.mp new)
      exact listed
  | fail | timeOut => exact h time count (mem_log_of_note (mem_log_of_note there nofun) nofun)
  | cancel | close => exact h time count (mem_log_of_note there nofun)
  | join phase found =>
    rw [sound.recorded_eq found] at there
    exact h time count (mem_log_of_note there nofun)

/-- Either the load has waited for its tasks, or none of them has ended, and the deadline has come only
if listing the providers has taken all the time. -/
def Awaited (load : Load) (waited : Bool) (s : State) : Prop :=
  s.phase = .loading → waited = true ∨ ((∀ t ∈ s.tasks, t.stage.isEnded = false) ∧
    (load.discoveryLatency < load.cutoff → s.now < load.cutoff))

theorem Awaited.waited_of_step (h : Awaited load waited s) (phase : s.phase = .loading) {number : Nat}
    (prompt : s.isPrompt load (.step number) = true) : (waited || s.isWaiting load) = true := by
  rw [Bool.or_eq_true_iff]
  refine (h phase).imp_right fun ⟨unended, early⟩ => isWaiting_iff.mpr ⟨phase, unended, ?_⟩
  exact (isPrompt_step_iff.mp prompt).imp_right early

theorem Awaited.keeps {move : Move} {s' : State} (h : Awaited load waited s) (sound : Sound load s)
    (clocked : Clocked load s) (prompt : s.isPrompt load move = true)
    (effect : Effect load s move s') : Awaited load (waited || s.isWaiting load) s' := by
  -- Once the load has waited there is nothing to show.
  cases waits : waited || s.isWaiting load with
  | true => exact fun _ => Or.inl rfl
  | false =>
    obtain ⟨unwaited, unwaiting⟩ := Bool.or_eq_false_iff.mp waits
    have running : s.phase = .loading → (∀ t ∈ s.tasks, t.stage.isEnded = false) ∧
        ¬s.now < load.cutoff ∧ (load.discoveryLatency < load.cutoff → s.now < load.cutoff) := by
      intro phase
      obtain ⟨unended, early⟩ := (h phase).resolve_left (by rw [unwaited]; nofun)
      refine ⟨unended, fun before => ?_, early⟩
      cases unwaiting.symm.trans (isWaiting_iff.mpr ⟨phase, unended, Or.inr before⟩)
    cases effect with
    | stay | cancel => exact fun phase => Or.inr ⟨(running phase).1, (running phase).2.2⟩
    | wait =>
      intro phase
      obtain ⟨unended, due, early⟩ := running phase
      exact Or.inr ⟨unended, fun before => absurd (early before) due⟩
    | @start entries phase =>
      obtain ⟨inFlight, same, _⟩ := start_eq load (sound.discovering phase).1 entries
      rw [same]
      refine fun _ => Or.inr ⟨fun t member => ?_, ?_⟩
      · obtain ⟨entry, _, rfl⟩ := List.mem_map.mp member
        rfl
      · exact Nat.lt_of_le_of_lt (clocked.discovering phase).1
    | fail | timeOut | close => exact nofun
    | step phase => cases waits.symm.trans (h.waited_of_step phase prompt)
    | join phase found => cases (running phase).1 _ (List.mem_of_getElem? found)

theorem isOneThread_of_isPunctual (schedule : List Move) {s : State} {waited : Bool}
    (sound : Sound load s) (clocked : Clocked load s) (awaited : Awaited load waited s)
    (punctual : s.isPunctual load schedule = true) : s.isOneThread load waited schedule = true := by
  induction schedule generalizing s waited with
  | nil => rfl
  | cons move later ih =>
    obtain ⟨prompt, punctual⟩ := Bool.and_eq_true_iff.mp punctual
    have effect := effect_apply load s move
    refine Bool.and_eq_true_iff.mpr ⟨?_, ih (sound.keeps effect) (clocked.keeps sound prompt effect)
      (awaited.keeps sound clocked prompt effect) punctual⟩
    by_cases phase : s.phase = .loading
    · cases move with
      | step => rw [awaited.waited_of_step phase prompt, Bool.true_or, Bool.true_or]
      | wait | discover | expire | join | finish => simp [Move.isStep]
    · simp [phase]

/-- **A punctual schedule is on one thread.** -/
theorem oneThread_of_punctual {schedule : List Move} (punctual : load.Punctual schedule) :
    load.OneThread schedule :=
  isOneThread_of_isPunctual schedule sound_initial clocked_initial nofun punctual

end State

end Environments.Load
