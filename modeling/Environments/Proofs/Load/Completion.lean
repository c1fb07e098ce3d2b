import Environments.Proofs.Load.Rows

/-!
# Loads come to an end

Whatever has happened to a load so far, it can be brought to its end: the natural schedule does it.
`Natural` says which move that schedule makes in which state.  Each of its moves either shortens
what is left of the load, which `State.movesLeft` counts, or is a wait, and no wait follows a wait,
because a wait lasts until the next thing is due.  Hence `drive_finished`: the natural schedule,
followed for as many moves as `State.moveBound` says, ends every load.
-/

namespace Environments

namespace Task

variable {load : Load} {number now : Nat} {entry : Entry Provider} {cancelled : Bool}

theorem Advance.stepsLeft_lt {first last : Stage} {deeds : List Deed}
    (h : Advance load number entry now cancelled first deeds last) :
    last.stepsLeft < first.stepsLeft := by
  cases h with
  | cutResting | cutQuerying | cutDelivering | handOver =>
    rw [Stage.stepsLeft, Stage.stepsLeft]
    omega
  | @call _ _ _ rest =>
    show 2 * rest.length + 4 < 2 * (rest.length + 1) + 3
    omega
  | @collect index results developer rest due answer =>
    rcases answer with (_ | _) | _ <;> simp only [Task.collect, Stage.stepsLeft] <;> omega
  | @conclude batch due answer =>
    rcases answer with (_ | _) | _ <;> simp only [Task.conclude, Stage.stepsLeft] <;> omega

theorem stepsLeft_resume_le (stage : Stage) :
    (resume load now number entry stage).1.stepsLeft ≤ stage.stepsLeft := by
  rcases resume_eq_or_advance load now number entry stage with same | taken
  · exact Nat.le_of_eq (by rw [same])
  · exact Nat.le_of_lt taken.stepsLeft_lt

theorem stepsLeft_step_lt (load : Load) (number : Nat) {t : Task} (open_ : t.stage.ending? = none)
    (ready : cancelled = false → t.stage.isReady now = true) :
    (t.step load now number cancelled).1.stepsLeft < t.stage.stepsLeft := by
  obtain ⟨entry, stage⟩ := t
  cases cancelled with
  | true =>
    cases stage with
    | resting => exact (Advance.cutResting : Advance load number entry now true _ _ _).stepsLeft_lt
    | querying => exact (Advance.cutQuerying : Advance load number entry now true _ _ _).stepsLeft_lt
    | delivering =>
      exact (Advance.cutDelivering : Advance load number entry now true _ _ _).stepsLeft_lt
    | ended | joined => cases open_
  | false =>
    cases stage with
    | resting index results rest =>
      exact Nat.lt_of_le_of_lt (stepsLeft_resume_le _)
        (begin_advance load now number entry index results rest).stepsLeft_lt
    | querying index results developer rest due answer =>
      have arrived : due ≤ now := by simpa [Stage.isReady] using ready rfl
      simp only [step, Bool.false_eq_true, if_false, resume, if_pos arrived]
      exact (Advance.collect arrived : Advance load number entry now false _ _ _).stepsLeft_lt
    | delivering batch due answer =>
      have arrived : due ≤ now := by simpa [Stage.isReady] using ready rfl
      simp only [step, Bool.false_eq_true, if_false, resume, if_pos arrived]
      exact (Advance.conclude arrived : Advance load number entry now false _ _ _).stepsLeft_lt
    | ended | joined => cases open_

end Task

namespace Load.State

variable {load : Load} {s : State}

/-! ### The natural moves -/

/-- Nothing is left to do at this time but to wait. -/
def Waiting (load : Load) (s : State) : Prop :=
  s.elapsed = false ∧ s.now < load.cutoff ∧ s.outstanding ≠ 0 ∧
    ∀ t ∈ s.tasks, t.stage.isJoined = true ∨ ∃ due, t.stage.due? = some due ∧ s.now < due

/-- The moves of the natural schedule, each with the state in which it is made. -/
inductive Natural (load : Load) (s : State) : Move → Prop
  | discover : s.phase = .discovering → load.discoveryLatency ≤ s.now → Natural load s .discover
  | timeOut : s.phase = .discovering → s.now < load.discoveryLatency → load.cutoff ≤ s.now →
      Natural load s .expire
  | await : s.phase = .discovering → s.now < load.discoveryLatency → s.now < load.cutoff →
      Natural load s (.wait (min load.discoveryLatency load.cutoff - s.now))
  | join {number entry ending} : s.phase = .loading →
      s.tasks[number]? = some ⟨entry, .ended ending⟩ → Natural load s (.join number)
  | finish : s.phase = .loading → s.outstanding = 0 → Natural load s .finish
  | cutOff {number t} : s.phase = .loading → s.tasks[number]? = some t → t.stage.ending? = none →
      s.elapsed = true → Natural load s (.step number)
  | expire : s.phase = .loading → s.elapsed = false → load.cutoff ≤ s.now → Natural load s .expire
  | step {number t} : s.phase = .loading → s.tasks[number]? = some t →
      t.stage.isReady s.now = true → s.elapsed = false → s.now < load.cutoff →
      Natural load s (.step number)
  | wait : s.phase = .loading → s.Waiting load → Natural load s (.wait (s.nextDue load - s.now))

theorem firstTask?_some {kind : Stage → Bool} {number : Nat} (h : s.firstTask? kind = some number) :
    ∃ t, s.tasks[number]? = some t ∧ kind t.stage = true := by
  obtain ⟨inside, holds, _⟩ := List.findIdx?_eq_some_iff_getElem.mp h
  exact ⟨_, List.getElem?_eq_getElem inside, holds⟩

theorem firstTask?_none {kind : Stage → Bool} (h : s.firstTask? kind = none) :
    ∀ t ∈ s.tasks, kind t.stage = false := by
  intro t member
  simpa using List.findIdx?_eq_none_iff.mp h t member

/-- A task that has not ended and is not ready waits for something that is not due yet. -/
theorem due_of_not_ready {stage : Stage} {now : Nat} (open_ : stage.isEnded = false)
    (later : stage.isReady now = false) :
    stage.isJoined = true ∨ ∃ due, stage.due? = some due ∧ now < due := by
  cases stage with
  | resting => cases later
  | querying _ _ _ _ due _ => exact Or.inr ⟨due, rfl, by simpa [Stage.isReady] using later⟩
  | delivering _ due _ => exact Or.inr ⟨due, rfl, by simpa [Stage.isReady] using later⟩
  | ended => cases open_
  | joined => exact Or.inl rfl

theorem natural_nextLoading (phase : s.phase = .loading) : Natural load s (s.nextLoading load) := by
  unfold nextLoading
  split
  · rename_i number found
    obtain ⟨⟨entry, stage⟩, at_number, ended⟩ := firstTask?_some found
    cases stage with
    | ended ending => exact .join phase at_number
    | resting | querying | delivering | joined => cases ended
  · rename_i none
    refine .finish phase (List.countP_eq_zero.mpr fun t member => ?_)
    simp [firstTask?_none none t member]
  · rename_i number none found
    obtain ⟨t, at_number, open_⟩ := firstTask?_some found
    split
    · rename_i elapsed
      refine .cutOff phase at_number ?_ elapsed
      have := firstTask?_none none t (List.mem_of_getElem? at_number)
      cases stage : t.stage with
      | resting | querying | delivering => rfl
      | ended => rw [stage] at this; cases this
      | joined => rw [stage] at open_; cases open_
    · rename_i running
      have running : s.elapsed = false := by simpa using running
      split
      · exact .expire phase running ‹_›
      · rename_i early
        have early : s.now < load.cutoff := Nat.lt_of_not_le early
        split
        · rename_i ready
          obtain ⟨t, at_number, ready⟩ := firstTask?_some ready
          exact .step phase at_number ready running early
        · rename_i idle
          refine .wait phase ⟨running, early, fun all => ?_, fun t member => ?_⟩
          · have joined := List.countP_eq_zero.mp all t (List.mem_of_getElem? at_number)
            exact joined open_
          · exact due_of_not_ready (firstTask?_none none t member) (firstTask?_none idle t member)

/-- **The natural schedule makes natural moves, until the load is finished.** -/
theorem natural_next? {move : Move} (h : s.next? load = some move) : Natural load s move := by
  unfold next? at h
  split at h
  · cases h
  · rename_i phase
    obtain rfl := Option.some.inj h
    unfold nextDiscovering
    split
    · exact .discover phase ‹_›
    · rename_i unlisted
      have unlisted := Nat.lt_of_not_le unlisted
      split
      · exact .timeOut phase unlisted ‹_›
      · exact .await phase unlisted (Nat.lt_of_not_le ‹_›)
  · rename_i phase
    obtain rfl := Option.some.inj h
    exact natural_nextLoading phase

theorem next?_eq_none_iff : s.next? load = none ↔ s.phase = .finished := by
  unfold next?
  split <;> simp_all

/-! ### When the next thing is due -/

theorem nextDue_le_cutoff (load : Load) (s : State) : s.nextDue load ≤ load.cutoff := by
  unfold nextDue
  induction s.tasks.filterMap (·.stage.due?) with
  | nil => exact Nat.le_refl _
  | cons due dues ih => exact Nat.le_trans (Nat.min_le_right _ _) ih

theorem nextDue_le (load : Load) {t : Task} {due : Nat} (member : t ∈ s.tasks)
    (h : t.stage.due? = some due) : s.nextDue load ≤ due := by
  have listed : due ∈ s.tasks.filterMap (·.stage.due?) := List.mem_filterMap.mpr ⟨t, member, h⟩
  unfold nextDue
  generalize s.tasks.filterMap (·.stage.due?) = dues at listed ⊢
  induction dues with
  | nil => cases listed
  | cons first dues ih =>
    rcases List.mem_cons.mp listed with rfl | later
    · exact Nat.min_le_left _ _
    · exact Nat.le_trans (Nat.min_le_right _ _) (ih later)

theorem nextDue_eq (load : Load) (s : State) : s.nextDue load = load.cutoff ∨
    ∃ t ∈ s.tasks, t.stage.due? = some (s.nextDue load) := by
  suffices s.nextDue load = load.cutoff ∨ s.nextDue load ∈ s.tasks.filterMap (·.stage.due?) from
    this.imp_right List.mem_filterMap.mp
  unfold nextDue
  induction s.tasks.filterMap (·.stage.due?) with
  | nil => exact Or.inl rfl
  | cons first dues ih =>
    rw [List.foldr_cons]
    rcases Nat.le_total first (dues.foldr min load.cutoff) with first_le | le_first
    · rw [Nat.min_eq_left first_le]
      exact Or.inr List.mem_cons_self
    · rw [Nat.min_eq_right le_first]
      exact ih.imp_right (List.mem_cons_of_mem _)

/-- **After a wait of the natural schedule something is due**, so that it does not wait again. -/
theorem next?_ne_wait_of_wait {millis : Nat} (h : Natural load s (.wait millis)) (later : Nat) :
    (s.apply load (.wait millis)).next? load ≠ some (.wait later) := by
  intro again
  have again := natural_next? again
  cases h with
  | await phase unlisted early =>
    have same : s.apply load (.wait (min load.discoveryLatency load.cutoff - s.now)) =
        { s with now := s.now + (min load.discoveryLatency load.cutoff - s.now) } := by
      simp [apply, phase]
    rw [same] at again
    cases again with
    | await _ unlisted' early' =>
      simp only at unlisted' early'
      omega
    | wait phase' => cases phase.symm.trans phase'
  | wait phase waiting =>
    have same : s.apply load (.wait (s.nextDue load - s.now)) =
        { s with now := s.now + (s.nextDue load - s.now) } := by
      simp [apply, phase]
    rw [same] at again
    cases again with
    | await phase' => cases phase.symm.trans phase'
    | wait _ waiting' =>
      obtain ⟨_, early, _, due⟩ := waiting'
      simp only at early due
      rcases nextDue_eq load s with cutoff | ⟨t, member, next⟩
      · rw [cutoff] at early
        omega
      · rcases due t member with joined | ⟨other, same, passed⟩
        · cases stage : t.stage with
          | joined => rw [stage] at next; cases next
          | resting | querying | delivering | ended => rw [stage] at joined; cases joined
        · obtain rfl := Option.some.inj (next.symm.trans same)
          omega

/-! ### What is left of a load -/

theorem stepsLeft_append (first later : List Task) :
    Task.stepsLeft (first ++ later) = Task.stepsLeft first + Task.stepsLeft later := by
  induction first with
  | nil => exact (Nat.zero_add _).symm
  | cons t first ih =>
    rw [List.cons_append, Task.stepsLeft, Task.stepsLeft, ih]
    omega

theorem stepsLeft_set_lt {tasks : List Task} {number : Nat} {t : Task} (stage : Stage)
    (found : tasks[number]? = some t) (shorter : stage.stepsLeft < t.stage.stepsLeft) :
    Task.stepsLeft (tasks.set number { t with stage := stage }) < Task.stepsLeft tasks := by
  obtain ⟨before, after, apart, set⟩ := exists_append_cons found
  rw [set, apart, stepsLeft_append, stepsLeft_append, Task.stepsLeft, Task.stepsLeft]
  exact Nat.add_lt_add_left (Nat.add_lt_add_right shorter _) _

theorem movesLeft_loading (phase : s.phase = .loading) :
    s.movesLeft load = Task.stepsLeft s.tasks + (if s.elapsed then 1 else 2) := by
  simp [movesLeft, phase]

theorem movesLeft_finished (phase : s.phase = .finished) : s.movesLeft load = 0 := by
  simp [movesLeft, phase]

theorem movesLeft_discovering (load : Load) (phase : s.phase = .discovering) :
    3 ≤ s.movesLeft load := by
  simp only [movesLeft, phase]
  split <;> omega

theorem movesLeft_start_lt (sound : Sound load s) (phase : s.phase = .discovering)
    {entries : List (Entry Provider)} (found : load.discovered = .ok entries) :
    (s.start load entries).movesLeft load < s.movesLeft load := by
  obtain ⟨inFlight, same, _⟩ := start_eq load (sound.discovering phase).1 entries
  rw [same, movesLeft_loading rfl]
  simp only [movesLeft, phase, found]
  split <;> omega

theorem movesLeft_step_lt (phase : s.phase = .loading) {number : Nat} {t : Task}
    (found : s.tasks[number]? = some t) (open_ : t.stage.ending? = none)
    (ready : s.elapsed = false → t.stage.isReady s.now = true) :
    (s.step load number).movesLeft load < s.movesLeft load := by
  simp only [step, found]
  rw [movesLeft_loading (by exact phase), movesLeft_loading phase]
  have shorter := stepsLeft_set_lt _ found (Task.stepsLeft_step_lt load number open_ ready)
  simp only
  omega

/-- **Every natural move but a wait shortens what is left of a load.** -/
theorem Natural.movesLeft_lt {move : Move} (h : Natural load s move) (sound : Sound load s)
    (notWait : ∀ millis, move ≠ .wait millis) :
    (s.apply load move).movesLeft load < s.movesLeft load := by
  cases h with
  | discover phase listed =>
    have left := movesLeft_discovering load phase
    simp only [apply, phase, State.discover, if_pos listed]
    split
    · exact movesLeft_start_lt sound phase ‹_›
    · rw [movesLeft_finished rfl]
      omega
  | timeOut phase =>
    have left := movesLeft_discovering load phase
    simp only [apply, phase]
    rw [movesLeft_finished rfl]
    omega
  | await | wait => exact absurd rfl (notWait _)
  | @join number entry ending phase found =>
    -- An ended task has one step left: to be taken note of.
    have shorter := stepsLeft_set_lt (.joined ending) found Nat.zero_lt_one
    simp only [apply, phase, State.join, found, sound.record_eq found]
    rw [movesLeft_loading (by exact phase), movesLeft_loading phase]
    exact Nat.add_lt_add_right shorter _
  | finish phase none =>
    simp only [apply, phase, if_pos none]
    rw [movesLeft_finished rfl, movesLeft_loading phase]
    split <;> omega
  | cutOff phase found open_ elapsed =>
    simp only [apply, phase]
    exact movesLeft_step_lt phase found open_ fun running => by rw [elapsed] at running; cases running
  | expire phase running =>
    simp only [apply, phase, running, Bool.false_eq_true, if_false]
    rw [movesLeft_loading (by exact phase), movesLeft_loading phase, running]
    exact Nat.lt_succ_self _
  | @step number t phase found ready =>
    have open_ : t.stage.ending? = none := by
      cases stage : t.stage with
      | resting | querying | delivering => rfl
      | ended | joined => rw [stage] at ready; cases ready
    simp only [apply, phase]
    exact movesLeft_step_lt phase found open_ fun _ => ready

theorem movesLeft_wait (millis : Nat) :
    (s.apply load (.wait millis)).movesLeft load = s.movesLeft load := by
  unfold apply
  split <;> simp_all [movesLeft]

/-- **The natural schedule ends a load**, followed for long enough. -/
theorem drive_finished (sound : Sound load s) {fuel : Nat} (enough : s.moveBound load ≤ fuel) :
    (s.drive load fuel).phase = .finished := by
  -- A wait costs a unit of fuel and shortens nothing, but then one unit less is needed.
  suffices ∀ fuel (s : State), Sound load s →
      2 * s.movesLeft load + 1 ≤ fuel ∨
        2 * s.movesLeft load ≤ fuel ∧ (∀ millis, s.next? load ≠ some (.wait millis)) →
      (s.drive load fuel).phase = .finished from this fuel s sound (Or.inl enough)
  intro fuel
  induction fuel with
  | zero =>
    intro s _ enough
    have none : s.movesLeft load = 0 := by omega
    cases phase : s.phase with
    | discovering =>
      have := movesLeft_discovering load phase
      omega
    | loading =>
      rw [movesLeft_loading phase] at none
      split at none <;> omega
    | finished => exact phase
  | succ fuel ih =>
    intro s sound enough
    cases next : s.next? load with
    | none =>
      simp only [drive, next]
      exact next?_eq_none_iff.mp next
    | some move =>
      have natural := natural_next? next
      simp only [drive, next]
      refine ih _ (sound.keeps (effect_apply load s move)) ?_
      by_cases wait : ∃ millis, move = .wait millis
      · obtain ⟨millis, rfl⟩ := wait
        rw [movesLeft_wait]
        refine Or.inr ⟨?_, next?_ne_wait_of_wait natural⟩
        rcases enough with enough | ⟨_, never⟩
        · omega
        · exact absurd next (never millis)
      · have shorter := natural.movesLeft_lt sound fun millis same => wait ⟨millis, same⟩
        refine Or.inl ?_
        omega

/-- **Every load can be brought to its end**, whatever has happened to it so far. -/
theorem exists_follow_finished (load : Load) (schedule : List Move) :
    ∃ later, (load.after (schedule ++ later)).phase = .finished := by
  obtain ⟨later, same⟩ := exists_drive_eq_follow load
    ((load.after schedule).moveBound load) (load.after schedule)
  refine ⟨later, ?_⟩
  rw [after_append, ← same]
  exact drive_finished (sound_follow load schedule) (Nat.le_refl _)

theorem run_finished (load : Load) : load.run.phase = .finished :=
  drive_finished sound_initial (Nat.le_refl _)

end Load.State

end Environments
