import Environments.Proofs.Load.Cancellation
import Environments.Proofs.Load.Course

/-!
# The log of a load tells its report

`Narrates` is what the log of a load says while the load goes on: how many providers there are, and
for each row, in the order of the rows, how the provider ended.  If the deadline has elapsed this is
told in between, behind rows that are not cancelled and with the number of tasks that were not on
record; each of them has its event later.  `logged_follow` says that every load logs like this.

`log_tells_report` draws the sum for a finished load, with the last event and with the ways in which
the providers cannot be had.
-/

namespace Environments

/-- The event that goes with a row. -/
def ProviderReport.event (row : ProviderReport) : LoadEvent :=
  .ended row.provider.id row.outcome

/-- What is to be logged for a row, with the level: a failed query or a breakdown is an error, a
batch that was not accepted a warning, and all else is for those who look closely. -/
def ProviderReport.logged (row : ProviderReport) : Level × LoadEvent :=
  match row.outcome with
  | .delivered _ | .cancelled _ => (.debug, row.event)
  | .deliveryFailed _ => (.warn, row.event)
  | .queryFailed .. | .aborted _ => (.error, row.event)

/-- The last event of a load, which sums up its report. -/
def Report.lastEvent (report : Report) : LoadEvent :=
  .finished report.deliveredCount report.failedCount report.cancelledCount report.deadlineElapsed

def LoadEvent.leveled (event : LoadEvent) : Level × LoadEvent := (event.level, event)

theorem ProviderReport.leveled_event (row : ProviderReport) : row.event.leveled = row.logged := by
  obtain ⟨provider, outcome⟩ := row
  cases outcome <;> rfl

theorem Task.isSome_row? (t : Task) : t.row?.isSome = t.stage.isJoined := by
  obtain ⟨entry, stage⟩ := t
  cases stage <;> rfl

theorem Task.Advances.isJoined_eq {load : Load} {number now : Nat} {entry : Entry Provider}
    {cancelled : Bool} {first last : Stage} {deeds : List Deed}
    (h : Task.Advances load number entry now cancelled first deeds last) :
    last.isJoined = first.isJoined := by
  rw [← Task.isSome_row? ⟨entry, last⟩, ← h.row?_eq, Task.isSome_row?]

namespace Load.State

variable {load : Load} {s : State}

/-- What a load has logged, each event with its level. -/
def events (s : State) : List (Level × LoadEvent) :=
  s.log.map fun logged => logged.2.leveled

/-! ### The tasks that are not on record -/

theorem outstanding_moved {number : Nat} {t : Task} {last : Stage} {deeds : List Deed}
    (found : s.tasks[number]? = some t)
    (event : Task.Advances load number t.entry s.now s.elapsed t.stage deeds last) :
    (s.moved number t last deeds).outstanding = s.outstanding := by
  obtain ⟨before, after, apart, set⟩ := exists_append_cons found
  have same : last.isJoined = t.stage.isJoined := event.isJoined_eq
  change (s.tasks.set number { t with stage := last }).countP _ = s.tasks.countP _
  rw [set, apart]
  simp [List.countP_cons, same]

theorem outstanding_recorded (sound : Sound load s) {number : Nat} {entry : Entry Provider}
    {ending : Ending} (found : s.tasks[number]? = some ⟨entry, .ended ending⟩) :
    s.outstanding = (s.recorded number entry ending).outstanding + 1 := by
  obtain ⟨before, after, apart, set⟩ := exists_append_cons found
  rw [sound.recorded_eq found]
  change s.tasks.countP _ = (s.tasks.set number ⟨entry, .joined ending⟩).countP _ + 1
  rw [set, apart]
  simp [Stage.isJoined]
  omega

/-! ### While the load goes on -/

/-- **What the log says of so many providers** while the load goes on: by whether the deadline has
elapsed, by the number of tasks that are not on record, and by the rows so far. -/
inductive Narrates (deadline providers : Nat) :
    Bool → Nat → List ProviderReport → List LoadEvent → Prop
  | inTime {outstanding rows} : (∀ row ∈ rows, row.outcome.isCancelled = false) →
      Narrates deadline providers false outstanding rows
        (.discovered providers :: rows.map ProviderReport.event)
  | cutOff {outstanding early late} : (∀ row ∈ early, row.outcome.isCancelled = false) →
      Narrates deadline providers true outstanding (early ++ late)
        (.discovered providers :: early.map ProviderReport.event ++
          .deadlineElapsed deadline (late.length + outstanding) :: late.map ProviderReport.event)

section

variable {deadline providers outstanding : Nat} {elapsed : Bool} {rows : List ProviderReport}
  {told : List LoadEvent}

theorem narrates_start :
    Narrates deadline providers false outstanding [] [.discovered providers] :=
  .inTime nofun

/-- One more row, one more event, and one task less that is not on record. -/
theorem Narrates.row (h : Narrates deadline providers elapsed (outstanding + 1) rows told)
    {row : ProviderReport} (early : elapsed = false → row.outcome.isCancelled = false) :
    Narrates deadline providers elapsed outstanding (rows ++ [row]) (told ++ [row.event]) := by
  cases h with
  | inTime before =>
    have after : ∀ other ∈ rows ++ [row], other.outcome.isCancelled = false := by
      intro other member
      rcases List.mem_append.mp member with there | new
      · exact before other there
      · rw [List.mem_singleton.mp new]
        exact early rfl
    have told : Narrates deadline providers false outstanding (rows ++ [row]) _ := .inTime after
    rwa [List.map_append] at told
  | @cutOff _ first late before =>
    -- One more row is late, and one task less is outstanding: the number that was told still fits.
    have told : Narrates deadline providers true outstanding (first ++ (late ++ [row])) _ :=
      .cutOff before
    have count : (late ++ [row]).length + outstanding = late.length + (outstanding + 1) := by
      rw [List.length_append, List.length_singleton]
      omega
    rw [count, List.map_append] at told
    simpa using told

theorem Narrates.expire (h : Narrates deadline providers false outstanding rows told) :
    Narrates deadline providers true outstanding rows
      (told ++ [.deadlineElapsed deadline outstanding]) := by
  cases h with
  | inTime before =>
    have told : Narrates deadline providers true outstanding (rows ++ []) _ := .cutOff before
    rwa [List.append_nil, List.length_nil, Nat.zero_add] at told

theorem Narrates.discovered_mem (h : Narrates deadline providers elapsed outstanding rows told) :
    .discovered providers ∈ told := by
  cases h <;> exact List.mem_cons_self

theorem Narrates.exists_split (h : Narrates deadline providers elapsed 0 rows told) :
    ∃ early late, rows = early ++ late ∧ (∀ row ∈ early, row.outcome.isCancelled = false) ∧
      (elapsed = false → late = []) ∧
      told = .discovered providers :: early.map ProviderReport.event ++
        (if elapsed then [.deadlineElapsed deadline late.length] else []) ++
        late.map ProviderReport.event := by
  cases h with
  | inTime before => exact ⟨rows, [], by simp, before, fun _ => rfl, by simp⟩
  | @cutOff _ early late before => exact ⟨early, late, rfl, before, nofun, by simp⟩

end

/-- **What a load has logged**, by where it stands. -/
structure Logged (load : Load) (s : State) : Prop where
  discovering : s.phase = .discovering → s.log = [] ∧ s.elapsed = false ∧ s.rows = []
  loading : s.phase = .loading → Narrates load.config.deadline s.tasks.length s.elapsed s.outstanding
    s.rows (s.log.map Prod.snd)
  finished : s.phase = .finished → s.discoveryError = none → ∃ told,
    s.log.map Prod.snd = told ++ [(s.report load).lastEvent] ∧
      Narrates load.config.deadline s.tasks.length s.elapsed s.outstanding s.rows told
  unlisted : ∀ error, s.discoveryError = some error →
    s.log.map Prod.snd = [if s.elapsed then .discoveryTimedOut load.config.deadline
      else .discoveryFailed error, (s.report load).lastEvent] ∧
    (s.elapsed = false → ∃ failure, load.discovered = .error failure ∧ error = failure.message)

theorem logged_initial : Logged load {} :=
  ⟨fun _ => ⟨rfl, rfl, rfl⟩, nofun, nofun, nofun⟩

theorem logged_of_narrates (phase : s.phase = .loading) (fine : s.discoveryError = none)
    (told : Narrates load.config.deadline s.tasks.length s.elapsed s.outstanding s.rows
      (s.log.map Prod.snd)) : Logged load s := by
  refine ⟨fun discovering => ?_, fun _ => told, fun finished => ?_, fun error failed => ?_⟩
  · cases phase.symm.trans discovering
  · cases phase.symm.trans finished
  · cases fine.symm.trans failed

theorem logged_of_unlisted {error : String} (finished : s.phase = .finished)
    (failed : s.discoveryError = some error)
    (told : s.log.map Prod.snd = [if s.elapsed then .discoveryTimedOut load.config.deadline
      else .discoveryFailed error, (s.report load).lastEvent])
    (cause : s.elapsed = false → ∃ failure, load.discovered = .error failure ∧ error = failure.message) :
    Logged load s := by
  refine ⟨fun discovering => ?_, fun running => ?_, fun _ fine => ?_, fun other same => ?_⟩
  · cases finished.symm.trans discovering
  · cases finished.symm.trans running
  · cases failed.symm.trans fine
  · obtain rfl : error = other := Option.some.inj (failed.symm.trans same)
    exact ⟨told, cause⟩

theorem Logged.keeps {move : Move} {s' : State} (h : Logged load s) (sound : Sound load s)
    (uncancelled : NoneCancelled s) (effect : Effect load s move s') : Logged load s' := by
  have fine : s.phase ≠ .finished → s.discoveryError = none := fun running =>
    Option.eq_none_iff_forall_ne_some.mpr fun error failed =>
      running (sound.unlisted (by rw [failed]; nofun)).1
  have fine_loading : s.phase = .loading → s.discoveryError = none := fun phase =>
    fine (by rw [phase]; nofun)
  cases effect with
  | stay => exact h
  | wait running =>
    refine ⟨h.discovering, h.loading, fun finished => absurd finished running, fun error failed => ?_⟩
    cases (fine running).symm.trans failed
  | @start entries phase =>
    obtain ⟨inFlight, same, _⟩ := start_eq load (sound.discovering phase).1 entries
    obtain ⟨nothing, early, none⟩ := h.discovering phase
    rw [same]
    refine logged_of_narrates rfl (sound.discovering phase).2 ?_
    simp only [State.note, nothing, early, none, List.length_map, List.nil_append, List.map_cons,
      List.map_nil]
    exact narrates_start
  | @fail failure phase _ unlisted =>
    obtain ⟨nothing, early, _⟩ := h.discovering phase
    refine logged_of_unlisted rfl rfl ?_ fun _ => ⟨failure, unlisted, rfl⟩
    simp only [State.fail, State.close, State.note, nothing, early]
    rfl
  | timeOut phase =>
    -- Here the deadline elapses in the same move, so that the first event is another one.
    obtain ⟨nothing, _⟩ := h.discovering phase
    refine logged_of_unlisted rfl rfl ?_ fun inTime => ?_
    · simp only [State.timeOut, State.close, State.note, nothing]
      rfl
    · cases inTime
  | cancel phase running =>
    have told := h.loading phase
    rw [running] at told
    refine logged_of_narrates phase (fine_loading phase) ?_
    rw [State.cancel, State.note, List.map_append]
    exact told.expire
  | @step number t phase found =>
    have event : Task.Advances load number t.entry s.now s.elapsed t.stage _ _ := Task.advances_step t
    refine logged_of_narrates phase (fine_loading phase) ?_
    rw [outstanding_moved found event]
    have told := h.loading phase
    rwa [← List.length_set] at told
  | @join number entry ending phase found =>
    have told := h.loading phase
    rw [outstanding_recorded sound found] at told
    have row : Narrates _ _ _ _ (s.rows ++ [⟨entry.descriptor, ending.outcome⟩]) _ :=
      told.row fun running => uncancelled running _ (List.mem_of_getElem? found) ending rfl
    rw [sound.recorded_eq found] at row ⊢
    refine logged_of_narrates phase (fine_loading phase) ?_
    rw [State.put, State.note, List.map_append, List.length_set]
    exact row
  | close phase =>
    refine ⟨fun discovering => ?_, fun running => ?_,
      fun _ _ => ⟨s.log.map Prod.snd, ?_, h.loading phase⟩, fun error failed => ?_⟩
    · cases discovering
    · cases running
    · rw [State.close, State.note, List.map_append]
      rfl
    · cases (fine_loading phase).symm.trans failed

theorem logged_follow (load : Load) (schedule : List Move) : Logged load (load.after schedule) := by
  suffices NoneCancelled (load.after schedule) ∧ Logged load (load.after schedule) from this.2
  exact sound_induction (P := fun s => NoneCancelled s ∧ Logged load s)
    ⟨noneCancelled_follow load [], logged_initial⟩
    (fun _ _ _ sound h effect => ⟨h.1.keeps sound effect, h.2.keeps sound h.1 effect⟩) schedule

/-! ### Once the load has finished -/

theorem Logged.exists_discovered (h : Logged load s) (finished : s.phase = .finished)
    (fine : s.discoveryError = none) : ∃ time, (time, .discovered s.tasks.length) ∈ s.log := by
  obtain ⟨told, all, narrates⟩ := h.finished finished fine
  have logged : .discovered s.tasks.length ∈ s.log.map Prod.snd := by
    rw [all]
    exact List.mem_append_left _ narrates.discovered_mem
  obtain ⟨⟨time, event⟩, there, rfl⟩ := List.mem_map.mp logged
  exact ⟨time, there⟩

theorem Logged.of_discovered (h : Logged load s) (sound : Sound load s)
    (finished : s.phase = .finished) {time count : Nat} (there : (time, .discovered count) ∈ s.log) :
    s.discoveryError = none ∧ count = s.tasks.length := by
  have logged : .discovered count ∈ s.log.map Prod.snd := List.mem_map_of_mem there
  cases fine : s.discoveryError with
  | none =>
    obtain ⟨told, all, narrates⟩ := h.finished finished fine
    rw [sound.finished finished] at narrates
    obtain ⟨early, late, _, _, _, rfl⟩ := narrates.exists_split
    rw [all] at logged
    refine ⟨rfl, ?_⟩
    have notRow : ∀ rows : List ProviderReport,
        LoadEvent.discovered count ∉ rows.map ProviderReport.event := by
      intro rows member
      obtain ⟨row, _, same⟩ := List.mem_map.mp member
      cases same
    simpa [notRow, Report.lastEvent] using logged
  | some error =>
    rw [(h.unlisted error fine).1] at logged
    generalize s.elapsed = elapsed at logged
    cases elapsed <;> simp [Report.lastEvent] at logged

theorem events_eq (s : State) : s.events = (s.log.map Prod.snd).map LoadEvent.leveled := by
  rw [List.map_map]
  rfl

theorem map_leveled_event (rows : List ProviderReport) :
    (rows.map ProviderReport.event).map LoadEvent.leveled = rows.map ProviderReport.logged := by
  rw [List.map_map]
  exact List.map_congr_left fun row _ => row.leveled_event

theorem Logged.events_of_listed (h : Logged load s) (sound : Sound load s)
    (finished : s.phase = .finished) (fine : s.discoveryError = none) :
    ∃ entries early late, load.discovered = .ok entries ∧ s.rows = early ++ late ∧
      (∀ row ∈ early, row.outcome.isCancelled = false) ∧ (s.elapsed = false → late = []) ∧
      s.events = (.debug, .discovered entries.length) :: early.map ProviderReport.logged ++
        (if s.elapsed then [(.error, .deadlineElapsed load.config.deadline late.length)] else []) ++
        late.map ProviderReport.logged ++ [(.info, (s.report load).lastEvent)] := by
  obtain ⟨told, all, narrates⟩ := h.finished finished fine
  rw [sound.finished finished] at narrates
  obtain ⟨early, late, rows, uncancelled, inTime, rfl⟩ := narrates.exists_split
  refine ⟨_, early, late, sound.listed (by rw [finished]; nofun) fine, rows, uncancelled, inTime, ?_⟩
  rw [events_eq, all]
  simp only [List.map_append, List.map_cons, map_leveled_event, List.length_map]
  cases s.elapsed <;> rfl

theorem Logged.events_of_unlisted (h : Logged load s) {error : String}
    (failed : s.discoveryError = some error) :
    s.events = [(.error, if s.elapsed then .discoveryTimedOut load.config.deadline
      else .discoveryFailed error), (.info, (s.report load).lastEvent)] := by
  rw [events_eq, (h.unlisted error failed).1]
  cases s.elapsed <;> rfl

/-- Whether an event is an error by which a load says that it was cut off. -/
def isCutOffError (event : Level × LoadEvent) : Bool :=
  event.1 = .error && event.2.isCancellation

theorem countP_logged (rows : List ProviderReport) :
    (rows.map ProviderReport.logged).countP isCutOffError = 0 := by
  refine List.countP_eq_zero.mpr fun event member => ?_
  obtain ⟨row, _, rfl⟩ := List.mem_map.mp member
  rw [← row.leveled_event]
  simp [isCutOffError, LoadEvent.leveled, ProviderReport.event, LoadEvent.isCancellation]

theorem Logged.countP_events (h : Logged load s) (sound : Sound load s)
    (finished : s.phase = .finished) :
    s.events.countP isCutOffError = if s.elapsed then 1 else 0 := by
  cases fine : s.discoveryError with
  | none =>
    obtain ⟨entries, early, late, _, _, _, _, events⟩ := h.events_of_listed sound finished fine
    rw [events]
    simp only [List.countP_append, List.countP_cons, countP_logged]
    cases s.elapsed <;> rfl
  | some error =>
    rw [h.events_of_unlisted fine]
    cases s.elapsed <;> rfl

/-- **The log tells the report.** A finished load has logged exactly one error that says that it was
cut off if the deadline has elapsed, and none otherwise.

If the providers could be listed, the log says how many there are, then for each row, in the order of
the rows, how the provider ended, and last what the report adds up to.  If the deadline has elapsed
the log says so behind rows that are not cancelled, with the number of the rows that follow.

If the providers could not be listed there is no row, and the log says why, and last what the report
adds up to. -/
theorem log_tells_report (load : Load) (schedule : List Move)
    (finished : (load.after schedule).phase = .finished) :
    let final := load.after schedule
    let report := final.report load
    final.unattributed = [] ∧
    final.events.countP isCutOffError = (if report.deadlineElapsed then 1 else 0) ∧
    (report.discoveryError = none → ∃ entries early late, load.discovered = .ok entries ∧
      report.providers = early ++ late ∧ (∀ row ∈ early, row.outcome.isCancelled = false) ∧
      (report.deadlineElapsed = false → late = []) ∧
      final.events = (.debug, .discovered entries.length) :: early.map ProviderReport.logged ++
        (if report.deadlineElapsed then
          [(.error, .deadlineElapsed load.config.deadline late.length)] else []) ++
        late.map ProviderReport.logged ++ [(.info, report.lastEvent)]) ∧
    (∀ error, report.discoveryError = some error → report.providers = [] ∧
      (report.deadlineElapsed = false →
        ∃ failure, load.discovered = .error failure ∧ error = failure.message) ∧
      final.events = [(.error, if report.deadlineElapsed then
        .discoveryTimedOut load.config.deadline else .discoveryFailed error),
        (.info, report.lastEvent)]) := by
  have sound := sound_follow load schedule
  have logged := logged_follow load schedule
  refine ⟨sound.unattributed, logged.countP_events sound finished,
    logged.events_of_listed sound finished, fun error failed => ⟨?_, ?_, ?_⟩⟩
  · have rows := sound.rows
    rwa [(sound.unlisted (Option.ne_none_iff_exists'.mpr ⟨error, failed⟩)).2, List.filterMap_nil,
      List.perm_nil] at rows
  · exact (logged.unlisted error failed).2
  · exact logged.events_of_unlisted failed

/-- One provider breaks down, one delivers, and one is cut off by the deadline: all this is logged. -/
theorem log_tells_report_mixed :
    (mixed.after mixedMoves).phase = .finished ∧
      (mixed.after mixedMoves).events.countP isCutOffError = 1 ∧
      ∃ early late, [⟨broken.descriptor, .aborted (breakdownReport "oops")⟩,
          ⟨quick.descriptor, .delivered 1⟩, ⟨slow.descriptor, .cancelled 0⟩] = early ++ late ∧
        (∀ row ∈ early, row.outcome.isCancelled = false) ∧
        (mixed.after mixedMoves).events =
          (.debug, .discovered 3) :: early.map ProviderReport.logged ++
            [(.error, .deadlineElapsed 10 late.length)] ++ late.map ProviderReport.logged ++
            [(.info, .finished 1 1 1 true)] := by
  have finished : (mixed.after mixedMoves).phase = .finished := by decide
  obtain ⟨_, count, listed, _⟩ := log_tells_report mixed mixedMoves finished
  obtain ⟨entries, early, late, same, rows, before, _, events⟩ := listed (by decide +kernel)
  obtain rfl := Except.ok.inj same
  have elapsed : (mixed.after mixedMoves).elapsed = true := by decide +kernel
  have three : (mixed.after mixedMoves).rows = [⟨broken.descriptor, .aborted (breakdownReport "oops")⟩,
      ⟨quick.descriptor, .delivered 1⟩, ⟨slow.descriptor, .cancelled 0⟩] := by decide +kernel
  have last : ((mixed.after mixedMoves).report mixed).lastEvent = .finished 1 1 1 true := by
    decide +kernel
  rw [last] at events
  refine ⟨finished, ?_, early, late, ?_, before, ?_⟩
  · simpa [State.report, elapsed] using count
  · exact three.symm.trans rows
  · rw [show mixed.config.deadline = 10 from rfl] at events
    simpa [State.report, elapsed] using events

end Load.State

end Environments
