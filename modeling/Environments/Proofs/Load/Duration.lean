import Environments.Proofs.Load.Cancellation
import Environments.Proofs.Load.OnTime
import Mathlib.Algebra.Ring.Nat

/-!
# How long a load takes

A load takes as long as the entry that takes longest, and never longer than up to its deadline:
`over_at_last_end`.  The entries run side by side, so that their times do not add up, and each of
them starts when the providers are listed, while the deadline counts from the start of the load.

The clock is bounded from both sides.  It does not run ahead of what the tasks wait for, so that it
stays within the natural end of some entry (`now_le_lastEnd`).  And where the deadline has not
elapsed, everything that belongs to the natural end of an entry has passed (`naturalEnd_le_now`).
`Listed` tells the three ways in which the listing of the providers can come out, and when.
-/

namespace Environments

/-- The batch that a deed is about. -/
def Deed.carried? : Deed → Option Batch
  | handed _ batch | accepted _ batch | refused _ batch _ | spoiled _ batch _ => some batch
  | asked | called .. | answered .. => none

namespace Load

variable {load : Load} {entry : Entry Provider} {number : Nat}

/-! ### The last end -/

/-- The time at which the last of these entries comes to its natural end; without entries, the time
at which the providers are listed. -/
def lastEnd (load : Load) (entries : List (Entry Provider)) : Nat :=
  (entries.zipIdx.map fun place => (load.naturalEnd place.1 place.2).1).foldr max load.discoveryLatency

theorem le_foldr_max (base : Nat) (times : List Nat) :
    base ≤ times.foldr max base ∧ ∀ time ∈ times, time ≤ times.foldr max base := by
  induction times with
  | nil => exact ⟨Nat.le_refl _, nofun⟩
  | cons first times ih =>
    rw [List.foldr_cons]
    refine ⟨Nat.le_trans ih.1 (Nat.le_max_right _ _), fun time member => ?_⟩
    rcases List.mem_cons.mp member with rfl | later
    · exact Nat.le_max_left _ _
    · exact Nat.le_trans (ih.2 time later) (Nat.le_max_right _ _)

theorem foldr_max_lt {base bound : Nat} {times : List Nat} (first : base < bound)
    (all : ∀ time ∈ times, time < bound) : times.foldr max base < bound := by
  induction times with
  | nil => exact first
  | cons time times ih =>
    rw [List.foldr_cons, Nat.max_lt]
    exact ⟨all time List.mem_cons_self, ih fun other later => all other (List.mem_cons_of_mem _ later)⟩

theorem discoveryLatency_le_lastEnd (load : Load) (entries : List (Entry Provider)) :
    load.discoveryLatency ≤ load.lastEnd entries :=
  (le_foldr_max _ _).1

theorem naturalEnd_le_lastEnd (load : Load) {entries : List (Entry Provider)}
    (here : entries[number]? = some entry) :
    (load.naturalEnd entry number).1 ≤ load.lastEnd entries := by
  refine (le_foldr_max _ _).2 _ (List.mem_map.mpr ⟨(entry, number), ?_, rfl⟩)
  exact List.mem_zipIdx_iff_getElem?.mpr here

theorem lastEnd_lt {entries : List (Entry Provider)} {bound : Nat}
    (listed : load.discoveryLatency < bound)
    (all : ∀ number entry, entries[number]? = some entry → (load.naturalEnd entry number).1 < bound) :
    load.lastEnd entries < bound := by
  refine foldr_max_lt listed fun time member => ?_
  obtain ⟨⟨entry, number⟩, place, rfl⟩ := List.mem_map.mp member
  exact all number entry (List.mem_zipIdx_iff_getElem?.mp place)

theorem lastEnd_le {entries : List (Entry Provider)} {bound : Nat}
    (listed : load.discoveryLatency ≤ bound)
    (all : ∀ number entry, entries[number]? = some entry → (load.naturalEnd entry number).1 ≤ bound) :
    load.lastEnd entries ≤ bound :=
  Nat.le_of_lt_succ (lastEnd_lt (Nat.lt_succ_of_le listed) fun number entry here =>
    Nat.lt_succ_of_le (all number entry here))

/-! ### What passes by the timetable -/

theorem answerTime_eq_sum (load : Load) (entry : Entry Provider) (count : Nat) :
    load.answerTime entry count =
      load.discoveryLatency + ((List.range count).map (load.latency entry)).sum := by
  induction count with
  | zero => rfl
  | succ count ih =>
    rw [answerTime, ih, List.range_succ, List.map_append, List.sum_append, Nat.add_assoc]
    simp

theorem carried?_firstExchanges (load : Load) (entry : Entry Provider) (number count : Nat) :
    ∀ deed ∈ load.firstExchanges entry number count, deed.2.carried? = none := by
  intro deed member
  obtain ⟨index, _, here⟩ := List.mem_flatMap.mp member
  unfold exchangeAt at here
  split at here
  · rcases List.mem_cons.mp here with rfl | last
    · rfl
    · rw [List.mem_singleton.mp last]
      rfl
  · cases here

theorem carried?_ofDelivery (number : Nat) (batch : Batch) (answer : Answer (Except SinkError Unit)) :
    (Deed.ofDelivery number batch answer).carried? = some batch := by
  rcases answer with (error | accepted) | message <;> rfl

/-- The natural end is the time of the last thing that passes until then. -/
theorem exists_mem_naturalHistory (load : Load) (entry : Entry Provider) (number : Nat) :
    ∃ deed, ((load.naturalEnd entry number).1, deed) ∈ load.naturalHistory entry number := by
  cases failed : load.failure? entry with
  | none =>
    rw [naturalEnd_of_none number failed, naturalHistory, failed]
    exact ⟨_, List.mem_append_right _ (List.mem_cons_of_mem _ (List.mem_singleton.mpr rfl))⟩
  | some first =>
    obtain ⟨index, outcome⟩ := first
    rw [naturalEnd_of_failure number failed, naturalHistory, failed]
    have asked : ∃ developer reply, load.query? entry index = some (developer, reply) := by
      have here := (failure?_eq_some_iff.mp failed).1
      unfold failureAt? at here
      split at here
      · exact ⟨_, _, ‹_›⟩
      · exact ⟨_, _, ‹_›⟩
      · cases here
    obtain ⟨developer, reply, query⟩ := asked
    refine ⟨.answered number developer reply.answer, ?_⟩
    show _ ∈ load.firstExchanges entry number (index + 1)
    rw [firstExchanges_succ query]
    simp

theorem Settled.carried {outcome : Outcome} {history : List (Nat × Deed)}
    (h : load.Settled entry number outcome history) {deed : Nat × Deed} {batch : Batch}
    (passed : deed ∈ history) (carries : deed.2.carried? = some batch) : batch = load.batch entry := by
  have late : ∀ {count : Nat} {last : List (Nat × Deed)},
      deed ∈ load.firstExchanges entry number count ++ last → deed ∈ last := by
    intro count last member
    rcases List.mem_append.mp member with early | late
    · cases (carried?_firstExchanges load entry number count deed early).symm.trans carries
    · exact late
  cases h with
  | natural =>
    unfold naturalHistory at passed
    split at passed
    · cases (carried?_firstExchanges load entry number _ deed passed).symm.trans carries
    · rcases List.mem_cons.mp (late passed) with rfl | last
      · exact (Option.some.inj carries).symm
      · rw [List.mem_singleton.mp last, carried?_ofDelivery] at carries
        exact (Option.some.inj carries).symm
  | @cutResting index =>
    cases (carried?_firstExchanges load entry number index deed passed).symm.trans carries
  | cutQuerying =>
    rw [List.mem_singleton.mp (late passed)] at carries
    cases carries
  | cutDelivering =>
    rw [List.mem_singleton.mp (late passed)] at carries
    exact (Option.some.inj carries).symm

end Load

namespace Task

variable {load : Load} {entry : Entry Provider} {number now : Nat}

/-- **What a task waits for comes no later than its natural end.** -/
theorem OnTime.due_le {stage : Stage} {history : List (Nat × Deed)} {due : Nat}
    (h : OnTime load entry number now stage history) (waits : stage.due? = some due) :
    due ≤ (load.naturalEnd entry number).1 := by
  cases h with
  | resting | ended | joined => cases waits
  | querying good _ _ query same =>
    obtain rfl := Option.some.inj waits
    rw [same]
    exact Load.answerTime_succ_le_naturalEnd number good (Load.lt_length_of_query? query)
  | delivering whole _ same =>
    obtain rfl := Option.some.inj waits
    rw [Load.naturalEnd_of_none number whole]
    exact Nat.le_of_eq same

theorem OnTime.carried {stage : Stage} {history : List (Nat × Deed)}
    (h : OnTime load entry number now stage history) {deed : Nat × Deed} {batch : Batch}
    (passed : deed ∈ history) (carries : deed.2.carried? = some batch) : batch = load.batch entry := by
  have early : ∀ {count : Nat}, deed ∉ load.firstExchanges entry number count := by
    intro count member
    cases (Load.carried?_firstExchanges load entry number count deed member).symm.trans carries
  cases h with
  | resting _ _ _ _ same =>
    rw [same] at passed
    exact absurd passed early
  | querying _ _ _ _ _ _ _ _ same =>
    rw [same] at passed
    rw [List.mem_singleton.mp ((List.mem_append.mp passed).resolve_left early)] at carries
    cases carries
  | delivering _ _ _ _ _ _ _ same =>
    rw [same] at passed
    rw [List.mem_singleton.mp ((List.mem_append.mp passed).resolve_left early)] at carries
    exact (Option.some.inj carries).symm
  | ended settled | joined settled => exact settled.carried passed carries

end Task

namespace Load.State

variable {load : Load} {s : State}

/-! ### The clock at the deadline -/

/-- The clock stands at the deadline at the latest, and exactly there once the deadline has elapsed.
-/
structure Capped (load : Load) (s : State) : Prop where
  le_cutoff : s.now ≤ load.cutoff
  of_elapsed : s.elapsed = true → s.now = load.cutoff

theorem Capped.keeps {move : Move} {s' : State} (h : Capped load s) (sound : Sound load s)
    (clocked : Clocked load s) (prompt : s.isPrompt load move = true)
    (effect : Effect load s move s') : Capped load s' := by
  cases effect with
  | stay => exact h
  | fail | close | step => exact ⟨h.le_cutoff, h.of_elapsed⟩
  | @start entries phase =>
    obtain ⟨inFlight, same, _⟩ := start_eq load (sound.discovering phase).1 entries
    rw [same]
    exact ⟨h.le_cutoff, h.of_elapsed⟩
  | @wait millis running =>
    cases phase : s.phase with
    | discovering =>
      refine ⟨((isPrompt_wait_discovering_iff phase).mp prompt).2, fun late => ?_⟩
      cases (clocked.discovering phase).2.2.symm.trans late
    | loading =>
      obtain ⟨early, before, _⟩ := (isPrompt_wait_iff phase).mp prompt
      refine ⟨before, fun late => ?_⟩
      cases early.symm.trans late
    | finished => exact absurd phase running
  | timeOut | cancel =>
    exact ⟨h.le_cutoff, fun _ => Nat.le_antisymm h.le_cutoff (isPrompt_expire_iff.mp prompt).1⟩
  | join _ found =>
    rw [sound.recorded_eq found]
    exact ⟨h.le_cutoff, h.of_elapsed⟩

/-- **No punctual load goes on after its deadline.** -/
theorem capped_follow {schedule : List Move} (punctual : load.Punctual schedule) :
    Capped load (load.after schedule) :=
  clocked_induction ⟨Nat.zero_le _, nofun⟩
    (fun _ _ _ sound clocked h prompt effect => h.keeps sound clocked prompt effect) punctual

/-! ### The listing of the providers -/

/-- **How the listing of the providers comes out, and when.** -/
inductive Listed (load : Load) (s : State) : Prop
  | pending : s.phase = .discovering → Listed load s
  | found : s.phase ≠ .discovering → s.discoveryError = none → load.discoveryLatency ≤ s.now →
      Listed load s
  | failed {error : DirectoryError} : s.phase = .finished → load.discovered = .error error →
      s.discoveryError = some error.message → s.now = load.discoveryLatency → s.elapsed = false →
      Listed load s
  | timedOut : s.phase = .finished → load.cutoff < load.discoveryLatency →
      s.discoveryError = some "provider discovery cancelled by deadline" → s.now = load.cutoff →
      s.elapsed = true → Listed load s

theorem Listed.keeps {move : Move} {s' : State} (h : Listed load s) (sound : Sound load s)
    (clocked : Clocked load s) (prompt : s.isPrompt load move = true)
    (effect : Effect load s move s') : Listed load s' := by
  cases effect with
  | stay => exact h
  | @start entries phase listed =>
    obtain ⟨inFlight, same, _⟩ := start_eq load (sound.discovering phase).1 entries
    rw [same]
    exact .found nofun (sound.discovering phase).2 listed
  | @fail error phase listed failed =>
    obtain ⟨before, _, early⟩ := clocked.discovering phase
    exact .failed rfl failed rfl (Nat.le_antisymm before listed) early
  | timeOut phase =>
    obtain ⟨_, before, _⟩ := clocked.discovering phase
    obtain ⟨due, unlisted⟩ := isPrompt_expire_iff.mp prompt
    have unlisted := unlisted.resolve_left (not_not_intro phase)
    exact .timedOut rfl (by omega) rfl (Nat.le_antisymm before due) rfl
  | @wait millis running =>
    cases h with
    | pending phase => exact .pending phase
    | found phase fine listed => exact .found phase fine (Nat.le_trans listed (Nat.le_add_right _ _))
    | failed phase | timedOut phase => exact absurd phase running
  | cancel phase | step phase =>
    cases h with
    | pending discovering => cases phase.symm.trans discovering
    | found running fine listed => exact .found running fine listed
    | failed finished | timedOut finished => cases phase.symm.trans finished
  | close phase =>
    cases h with
    | pending discovering => cases phase.symm.trans discovering
    | found _ fine listed => exact .found nofun fine listed
    | failed finished | timedOut finished => cases phase.symm.trans finished
  | join phase found =>
    rw [sound.recorded_eq found]
    cases h with
    | pending discovering => cases phase.symm.trans discovering
    | found running fine listed => exact .found running fine listed
    | failed finished | timedOut finished => cases phase.symm.trans finished

theorem listed_follow {schedule : List Move} (punctual : load.Punctual schedule) :
    Listed load (load.after schedule) :=
  clocked_induction (.pending rfl)
    (fun _ _ _ sound clocked h prompt effect => h.keeps sound clocked prompt effect) punctual

/-! ### The clock and the tasks -/

/-- **The induction over all punctual schedules**, with a load that is known to be sound and on time.
-/
theorem timely_induction {P : State → Prop} (start : P {})
    (keeps : ∀ s move s', Sound load s → Clocked load s → Timely load s → P s →
      s.isPrompt load move = true → Effect load s move s' → P s')
    {schedule : List Move} (punctual : load.Punctual schedule) : P (load.after schedule) := by
  suffices Timely load (load.after schedule) ∧ P (load.after schedule) from this.2
  have initial : Timely load {} := ofTasks_initial
  refine clocked_induction (P := fun s => Timely load s ∧ P s) ⟨initial, start⟩ ?_ punctual
  intro s move s' sound clocked h prompt effect
  exact ⟨h.1.keeps sound clocked prompt effect, keeps s move s' sound clocked h.1 h.2 prompt effect⟩

/-- **The clock does not run ahead of the tasks**: it stands within the natural end of some entry. -/
theorem now_le_lastEnd {entries : List (Entry Provider)} (listed : load.discovered = .ok entries)
    {schedule : List Move} (punctual : load.Punctual schedule) :
    (load.after schedule).now ≤ load.lastEnd entries := by
  refine timely_induction (P := fun s => s.now ≤ load.lastEnd entries) (Nat.zero_le _) ?_ punctual
  intro s move s' sound clocked timely h prompt effect
  cases effect with
  | stay | fail | timeOut | cancel | step | close => exact h
  | @start found phase =>
    obtain ⟨inFlight, same, _⟩ := start_eq load (sound.discovering phase).1 found
    rw [same]
    exact h
  | join _ found =>
    rw [sound.recorded_eq found]
    exact h
  | @wait millis running =>
    cases phase : s.phase with
    | discovering =>
      exact Nat.le_trans ((isPrompt_wait_discovering_iff phase).mp prompt).1
        (discoveryLatency_le_lastEnd load entries)
    | finished => exact absurd phase running
    | loading =>
      obtain ⟨_, _, outstanding, waits⟩ := (isPrompt_wait_iff phase).mp prompt
      -- Time passes only while some task waits, and never past what it waits for.
      obtain ⟨t, member, open_⟩ : ∃ t ∈ s.tasks, t.stage.isJoined = false := by
        obtain ⟨t, member, open_⟩ := List.countP_pos_iff.mp (Nat.pos_of_ne_zero outstanding)
        exact ⟨t, member, by simpa using open_⟩
      obtain ⟨number, found⟩ := List.getElem?_of_mem member
      rcases waits t member with joined | ⟨due, waiting, within⟩
      · cases open_.symm.trans joined
      · have here := sound.getElem?_entries listed found
        calc s.now + millis ≤ due := within
          _ ≤ (load.naturalEnd t.entry number).1 := (timely.task number t found).due_le waiting
          _ ≤ load.lastEnd entries := naturalEnd_le_lastEnd load here

theorem time_le_now (load : Load) (schedule : List Move) :
    ∀ deed ∈ (load.after schedule).deeds, deed.1 ≤ (load.after schedule).now := by
  refine sound_induction (P := fun s => ∀ deed ∈ s.deeds, deed.1 ≤ s.now) ?_ ?_ schedule
  · intro deed member
    obtain rfl := List.mem_singleton.mp member
    exact Nat.le_refl 0
  · intro s move s' sound h effect
    cases effect with
    | stay | fail | timeOut | cancel | close => exact h
    | wait => exact fun deed member => Nat.le_trans (h deed member) (Nat.le_add_right _ _)
    | @start entries phase =>
      obtain ⟨inFlight, same, _⟩ := start_eq load (sound.discovering phase).1 entries
      rw [same]
      exact h
    | join _ found =>
      rw [sound.recorded_eq found]
      exact h
    | step =>
      intro deed member
      rcases List.mem_append.mp member with before | new
      · exact h deed before
      · obtain ⟨_, _, rfl⟩ := List.mem_map.mp new
        exact Nat.le_refl _

theorem naturalEnd_le_now {schedule : List Move} (punctual : load.Punctual schedule)
    (running : (load.after schedule).elapsed = false) {number : Nat} {entry : Entry Provider}
    {ending : Ending}
    (found : (load.after schedule).tasks[number]? = some ⟨entry, .joined ending⟩) :
    (load.naturalEnd entry number).1 ≤ (load.after schedule).now := by
  have settled := settled_follow punctual found
  have uncut := noneCancelled_follow load schedule running _ (List.mem_of_getElem? found) ending rfl
  generalize outcome_eq : ending.outcome = outcome at settled uncut
  generalize history_eq : (load.after schedule).history number = history at settled
  cases settled with
  | natural =>
    obtain ⟨deed, last⟩ := exists_mem_naturalHistory load entry number
    rw [← history_eq] at last
    exact time_le_now load schedule _ (List.mem_filter.mp last).1
  | cutResting | cutQuerying | cutDelivering => cases uncut

/-! ### The end of a load -/

/-- A load is over so many milliseconds after its start, with its deadline elapsed or not, and its
report says so. -/
structure OverAt (load : Load) (final : State) (time : Nat) (elapsed : Bool) : Prop where
  now : final.now = time
  finishedAt : (final.report load).finishedAt = load.startedAt.after time
  deadlineElapsed : (final.report load).deadlineElapsed = elapsed

theorem overAt_of_eq {final : State} {time : Nat} {elapsed : Bool} (now : final.now = time)
    (deadlineElapsed : final.elapsed = elapsed) : OverAt load final time elapsed :=
  ⟨now, congrArg load.clock now, deadlineElapsed⟩

theorem overAt_discoveryLatency {error : DirectoryError} (unlisted : load.discovered = .error error)
    (early : load.discoveryLatency < load.cutoff) {schedule : List Move}
    (punctual : load.Punctual schedule) (finished : (load.after schedule).phase = .finished) :
    OverAt load (load.after schedule) load.discoveryLatency false := by
  cases listed_follow punctual with
  | pending phase => cases finished.symm.trans phase
  | found running fine =>
    cases ((sound_follow load schedule).listed running fine).symm.trans unlisted
  | failed _ _ _ now running => exact overAt_of_eq now running
  | timedOut _ late => omega

theorem overAt_cutoff_of_unlisted (late : load.cutoff < load.discoveryLatency) {schedule : List Move}
    (punctual : load.Punctual schedule) (finished : (load.after schedule).phase = .finished) :
    OverAt load (load.after schedule) load.cutoff true := by
  have capped := capped_follow punctual
  cases listed_follow punctual with
  | pending phase => cases finished.symm.trans phase
  | found _ _ listed =>
    have := capped.le_cutoff
    omega
  | failed _ _ _ now =>
    have := capped.le_cutoff
    omega
  | timedOut _ _ _ now elapsed => exact overAt_of_eq now elapsed

section Listed

variable {entries : List (Entry Provider)} (listed : load.discovered = .ok entries)
  (early : load.discoveryLatency < load.cutoff) {schedule : List Move}
  (punctual : load.Punctual schedule) (finished : (load.after schedule).phase = .finished)

include listed early punctual finished

theorem lastEnd_le_now_or_elapsed :
    ((load.after schedule).elapsed = false ∧ load.discoveryLatency ≤ (load.after schedule).now ∧
      ∀ number entry, entries[number]? = some entry →
        (load.naturalEnd entry number).1 ≤ (load.after schedule).now) ∨
    ((load.after schedule).elapsed = true ∧ (load.after schedule).now = load.cutoff) := by
  have sound := sound_follow load schedule
  cases running : (load.after schedule).elapsed with
  | true => exact Or.inr ⟨rfl, (capped_follow punctual).of_elapsed running⟩
  | false =>
    refine Or.inl ⟨rfl, ?_⟩
    have fine := discoveryError_eq_none listed (Nat.le_of_lt early) punctual
    obtain ⟨found, outcomes, same, _, _, ended⟩ := sound.exists_outcomes finished fine
    obtain rfl := Except.ok.inj (listed.symm.trans same)
    refine ⟨?_, fun number entry here => ?_⟩
    · cases listed_follow punctual with
      | pending phase => cases finished.symm.trans phase
      | found _ _ at_time => exact at_time
      | failed _ _ failed | timedOut _ _ failed => cases fine.symm.trans failed
    · obtain ⟨ending, _, joined⟩ := ended number entry here
      exact naturalEnd_le_now punctual running joined

theorem overAt_lastEnd (before : ∀ number entry, entries[number]? = some entry →
      (load.naturalEnd entry number).1 < load.cutoff) :
    OverAt load (load.after schedule) (load.lastEnd entries) false := by
  have ahead := now_le_lastEnd listed punctual
  have last : load.lastEnd entries < load.cutoff := lastEnd_lt early before
  rcases lastEnd_le_now_or_elapsed listed early punctual finished with
    ⟨running, at_least, ends⟩ | ⟨_, now⟩
  · exact overAt_of_eq (Nat.le_antisymm ahead (lastEnd_le at_least ends)) running
  · omega

theorem overAt_cutoff {number : Nat} {entry : Entry Provider} (here : entries[number]? = some entry)
    (late : load.cutoff < (load.naturalEnd entry number).1) :
    OverAt load (load.after schedule) load.cutoff true := by
  have capped := (capped_follow punctual).le_cutoff
  rcases lastEnd_le_now_or_elapsed listed early punctual finished with
    ⟨_, _, ends⟩ | ⟨elapsed, now⟩
  · have := ends number entry here
    omega
  · exact overAt_of_eq now elapsed

end Listed

/-- **A batch is stamped with the time that listing the providers and the queries have taken.** -/
theorem loadedAt_of_accepted {schedule : List Move} (punctual : load.Punctual schedule)
    {time number : Nat} {batch : Batch}
    (accepted : (time, .accepted number batch) ∈ (load.after schedule).deeds) :
    ∃ entries entry, load.discovered = .ok entries ∧ entries[number]? = some entry ∧
      batch.provider = entry.descriptor ∧
      batch.loadedAt = load.startedAt.after (load.discoveryLatency +
        ((List.range entry.developers.length).map (load.latency entry)).sum) := by
  obtain ⟨t, found⟩ := exists_task_of_mem_deeds load schedule accepted rfl
  have sound := sound_follow load schedule
  have listed := sound.listed_of_task found
  have own := ((timely_follow punctual).task number t found).carried (mem_history accepted rfl) rfl
  refine ⟨_, t.entry, listed, sound.getElem?_entries listed found, congrArg Batch.provider own, ?_⟩
  rw [own, ← answerTime_eq_sum]
  rfl

/-- **A load is over when its last entry is, or at its deadline.** Every punctual schedule goes on to
a finished load.  If the providers cannot be listed, it is over when that is known, and if they are
not listed by the deadline, it is over then.  If they are listed before the deadline, it is over at
the last natural end of an entry, where all of these come before the deadline, and at the deadline,
where one would come later; the deadline has elapsed in this case only.

Hence no load is over later than at its deadline.  A batch that the sink has accepted is stamped with
the time that listing the providers and answering the queries of its entry have taken. -/
theorem over_at_last_end (load : Load) {schedule : List Move} (punctual : load.Punctual schedule) :
    (∃ later, load.Punctual (schedule ++ later) ∧
      (load.after (schedule ++ later)).phase = .finished) ∧
    (0 < load.cutoff → load.cutoff =
      if Config.isTellable (load.ticks + load.config.deadline) then load.config.deadline
      else Time.horizon) ∧
    let final := load.after schedule
    (final.phase = .finished →
      (∀ error, load.discovered = .error error → load.discoveryLatency < load.cutoff →
        OverAt load final load.discoveryLatency false) ∧
      (load.cutoff < load.discoveryLatency → OverAt load final load.cutoff true) ∧
      ∀ entries, load.discovered = .ok entries → load.discoveryLatency < load.cutoff →
        ((∀ number entry, entries[number]? = some entry →
            (load.naturalEnd entry number).1 < load.cutoff) →
          OverAt load final (load.lastEnd entries) false) ∧
        ((∃ number entry, entries[number]? = some entry ∧
            load.cutoff < (load.naturalEnd entry number).1) →
          OverAt load final load.cutoff true)) ∧
    (final.report load).finishedAt.totalNanos ≤ (load.startedAt.after load.cutoff).totalNanos ∧
    ∀ time number batch, (time, .accepted number batch) ∈ final.deeds → ∃ entries entry,
      load.discovered = .ok entries ∧ entries[number]? = some entry ∧
      batch.provider = entry.descriptor ∧
      batch.loadedAt = load.startedAt.after (load.discoveryLatency +
        ((List.range entry.developers.length).map (load.latency entry)).sum) := by
  refine ⟨exists_punctual_finished punctual, Config.cutoff_eq, fun finished => ⟨?_, ?_, ?_⟩, ?_, ?_⟩
  · intro error unlisted early
    exact overAt_discoveryLatency unlisted early punctual finished
  · intro late
    exact overAt_cutoff_of_unlisted late punctual finished
  · intro entries listed early
    refine ⟨fun before => overAt_lastEnd listed early punctual finished before, ?_⟩
    rintro ⟨number, entry, here, late⟩
    exact overAt_cutoff listed early punctual finished here late
  · exact Time.Instant.totalNanos_after_mono _ (capped_follow punctual).le_cutoff
  · intro time number batch accepted
    exact loadedAt_of_accepted punctual accepted

/-- A load in which one provider breaks down at once and one answers in three milliseconds. -/
def brief : Load := .small [broken, quick] {}

def briefMoves : List Move :=
  [.wait 2, .discover, .step 0, .step 1, .join 0, .wait 3, .step 1, .step 1, .join 1, .finish]

/-- A load that finds the directory damaged. -/
def blind : Load := { mixed with discovered := .error .damaged }

/-- A load that does not list its providers before the deadline. -/
def belated : Load := { mixed with discoveryLatency := 20 }

/-- The providers are listed after two milliseconds, and the deadline is after ten.  A load with a
slow provider is over at the deadline, and one without it after five milliseconds.  A load that finds
the directory damaged is over when it has looked, and one that looks for too long at the deadline. -/
theorem over_at_last_end_mixed_brief :
    (mixed.Punctual mixedMoves ∧ OverAt mixed (mixed.after mixedMoves) 10 true) ∧
    (brief.Punctual briefMoves ∧ OverAt brief (brief.after briefMoves) 5 false ∧
      ∃ batch, (5, .accepted 1 batch) ∈ (brief.after briefMoves).deeds ∧
        batch.loadedAt = Time.Instant.epoch.after 5) ∧
    OverAt blind (blind.after [.wait 2, .discover]) 2 false ∧
    OverAt belated (belated.after [.wait 10, .expire]) 10 true := by
  have punctual : mixed.Punctual mixedMoves := by decide +kernel
  obtain ⟨_, _, ends, _⟩ := over_at_last_end mixed punctual
  have cut := ((ends (by decide)).2.2 _ rfl (by decide +kernel)).2 ⟨2, slow, rfl, by decide +kernel⟩
  have punctual' : brief.Punctual briefMoves := by decide +kernel
  obtain ⟨_, _, ends', _, stamped⟩ := over_at_last_end brief punctual'
  have early : ∀ number entry, [broken, quick][number]? = some entry →
      (brief.naturalEnd entry number).1 < brief.cutoff := by
    intro number entry here
    match number with
    | 0 =>
      obtain rfl := Option.some.inj here
      decide +kernel
    | 1 =>
      obtain rfl := Option.some.inj here
      decide +kernel
    | _ + 2 => cases here
  have whole := ((ends' (by decide)).2.2 _ rfl (by decide +kernel)).1 early
  have last : (brief.after briefMoves).deeds[6]? = some (5, .accepted 1 (brief.batch quick)) := by rfl
  have accepted := List.mem_of_getElem? last
  obtain ⟨entries, entry, listed, here, _, at_time⟩ := stamped 5 1 _ accepted
  obtain rfl := Except.ok.inj (listed.symm.trans (rfl : brief.discovered = .ok [broken, quick]))
  obtain rfl := Option.some.inj here
  refine ⟨⟨punctual, cut⟩, ⟨punctual', whole, _, accepted, at_time⟩, ?_, ?_⟩
  · have punctual : blind.Punctual [.wait 2, .discover] := by decide +kernel
    exact ((over_at_last_end blind punctual).2.2.1 (by decide)).1 _ rfl (by decide +kernel)
  · have punctual : belated.Punctual [.wait 10, .expire] := by decide +kernel
    exact ((over_at_last_end belated punctual).2.2.1 (by decide)).2.1 (by decide +kernel)

end Load.State

end Environments
