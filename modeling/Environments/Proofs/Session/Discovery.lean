import Environments.Proofs.Load.Confluence
import Environments.Proofs.Load.Log
import Environments.Proofs.Session.Cutoff
import Environments.Proofs.Session.Journals

/-!
# Loads that cannot list their providers

The listing of the providers has three exits: it succeeds, it fails, or the deadline passes first.
`clean_discovery_failure`: a load that takes one of the last two says so in its report and leaves
nothing else behind (`Traceless`), and a load that takes the first has no discovery error, whatever
becomes of its providers.

Until the providers are listed, a load has not looked at what listing them comes to.  This is
`after_eq_of_discovering`, and hence what would come after the deadline is ignored.
-/

namespace Environments

namespace Load.State

variable {load : Load} {s : State}

theorem follow_of_finished (load : Load) (finished : s.phase = .finished) (schedule : List Move) :
    s.follow load schedule = s := by
  induction schedule with
  | nil => rfl
  | cons move schedule ih =>
    have stays : s.apply load move = s := by simp only [apply, finished]
    rw [follow_cons, stays, ih]

/-! ### What is not yet known -/

/-- No load comes back to listing its providers. -/
theorem discovering_of_apply {move : Move} (sound : Sound load s)
    (after : (s.apply load move).phase = .discovering) : s.phase = .discovering := by
  generalize same : s.apply load move = s' at after
  have effect : Effect load s move s' := same ▸ effect_apply load s move
  cases effect with
  | stay | wait | cancel | step => exact after
  | start phase | fail phase | timeOut phase => exact phase
  | join _ found =>
    rw [sound.recorded_eq found] at after
    exact after
  | close => cases after

/-- A load that is listing its providers before a move and after it has not looked at what that comes
to. -/
theorem apply_eq_of_discovering (discovered : Except DirectoryError (List (Entry Provider)))
    {move : Move} (sound : Sound load s) (before : s.phase = .discovering)
    (after : (s.apply load move).phase = .discovering) :
    s.apply { load with discovered } move = s.apply load move := by
  cases move with
  | discover =>
    by_cases listed : load.discoveryLatency ≤ s.now
    · -- What listing comes to is looked at, so that the load goes on to its tasks or finishes.
      simp only [apply, before, discover, if_pos listed] at after
      cases found : load.discovered with
      | ok entries =>
        obtain ⟨_, same, _⟩ := start_eq load (sound.discovering before).1 entries
        simp only [found, same] at after
        cases after
      | error error =>
        simp only [found] at after
        cases after
    · simp only [apply, before, discover, if_neg listed]
  | expire | wait | step | join | finish => simp only [apply, before] <;> rfl

/-- **While a load is listing its providers, it does not depend on what that comes to.** -/
theorem after_eq_of_discovering (discovered : Except DirectoryError (List (Entry Provider)))
    {schedule : List Move} (phase : (load.after schedule).phase = .discovering) :
    Load.after { load with discovered } schedule = load.after schedule := by
  induction schedule using List.reverseRecOn with
  | nil => rfl
  | append_singleton first move ih =>
    have sound := sound_follow load first
    rw [after_append, follow_cons, follow_nil] at phase
    have before := discovering_of_apply sound phase
    rw [after_append, after_append, ih before, follow_cons, follow_cons]
    exact apply_eq_of_discovering discovered sound before phase

/-! ### The three exits -/

/-- **What passes the deadline while a load is listing its providers ends the load**, and what
listing them would have come to later is ignored. -/
theorem after_eq_of_timeOut (load : Load) (discovered : Except DirectoryError (List (Entry Provider)))
    {first : List Move} (phase : (load.after first).phase = .discovering) (later : List Move) :
    load.after (first ++ .expire :: later) = (load.after first).timeOut load ∧
      Load.after { load with discovered } (first ++ .expire :: later) =
        load.after (first ++ .expire :: later) := by
  have expires : ∀ load : Load, ∀ s : State, s.phase = .discovering →
      s.follow load (.expire :: later) = s.timeOut load := by
    intro load s phase
    have timeOut : s.apply load .expire = s.timeOut load := by simp only [apply, phase]
    rw [follow_cons, timeOut]
    exact follow_of_finished load rfl later
  have same := after_eq_of_discovering discovered phase
  have own := expires load _ phase
  refine ⟨by rw [after_append, own], ?_⟩
  rw [after_append, after_append, own, same, expires _ _ phase]
  rfl

/-- **A load that is no longer listing its providers** has listed them, or the deadline has passed. -/
theorem exists_exit (load : Load) (schedule : List Move)
    (gone : (load.after schedule).phase ≠ .discovering) :
    ∃ first later, (load.after first).phase = .discovering ∧
      ((schedule = first ++ .discover :: later ∧ load.discoveryLatency ≤ (load.after first).now) ∨
        schedule = first ++ .expire :: later) := by
  induction schedule using List.reverseRecOn with
  | nil => exact absurd rfl gone
  | append_singleton before move ih =>
    by_cases phase : (load.after before).phase = .discovering
    · refine ⟨before, [], phase, ?_⟩
      rw [after_append, follow_cons, follow_nil] at gone
      generalize same : (load.after before).apply load move = s' at gone
      have effect : Effect load (load.after before) move s' := same ▸ effect_apply load _ move
      cases effect with
      | stay | wait => exact absurd phase gone
      | start _ listed | fail _ listed => exact Or.inl ⟨rfl, listed⟩
      | timeOut => exact Or.inr rfl
      | cancel running | step running | join running | close running => cases phase.symm.trans running
    · obtain ⟨first, later, there, exit⟩ := ih phase
      refine ⟨first, later ++ [move], there, ?_⟩
      rcases exit with ⟨rfl, listed⟩ | rfl
      · exact Or.inl ⟨by simp, listed⟩
      · exact Or.inr (by simp)

theorem exists_timeOut (late : load.cutoff < load.discoveryLatency) {schedule : List Move}
    (punctual : load.Punctual schedule) (gone : (load.after schedule).phase ≠ .discovering) :
    ∃ first later, schedule = first ++ .expire :: later ∧
      (load.after first).phase = .discovering := by
  obtain ⟨first, later, phase, ⟨rfl, listed⟩ | rfl⟩ := exists_exit load schedule gone
  · have := ((clocked_follow (punctual_of_append punctual)).discovering phase).2.1
    omega
  · exact ⟨first, later, rfl, phase⟩

end Load.State

namespace Session

/-- **What a load leaves behind that could not list its providers**: it has asked for them and has no
rows, and a session has the sink, the journals and the directory after it that it had before. -/
structure Traceless (load : Load) (final : Load.State) : Prop where
  providers : (final.report load).providers = []
  deeds : final.deeds = [(0, .asked)]
  sink : ∀ s : Session, (s.afterLoad final).sink = s.sink
  roster : ∀ s : Session, (s.afterLoad final).roster = s.roster
  directory : ∀ s : Session, (s.afterLoad final).directory = s.directory

variable {load : Load} {schedule : List Load.Move}

theorem traceless_of_discoveryError (load : Load) (schedule : List Load.Move)
    (failed : (load.after schedule).discoveryError ≠ none) :
    Traceless load (load.after schedule) := by
  have sound := Load.State.sound_follow load schedule
  have none := (sound.unlisted failed).2
  have rows := sound.rows
  have deeds := Load.State.deeds_perm load schedule
  rw [none] at rows deeds
  have nothing := List.perm_singleton.mp deeds
  exact ⟨List.perm_nil.mp rows, nothing, fun s => (afterLoad_of_deeds nothing s).1,
    fun s => (afterLoad_of_deeds nothing s).2, fun _ => rfl⟩

theorem discoveryError_of_discovered {time count : Nat}
    (there : (time, .discovered count) ∈ (load.after schedule).log) :
    (load.after schedule).discoveryError = none := by
  by_contra failed
  have finished := ((Load.State.sound_follow load schedule).unlisted failed).1
  exact failed ((Load.State.logged_follow load schedule).of_discovered
    (Load.State.sound_follow load schedule) finished there).1

/-- **A deadline that passes while the providers are being listed** is all that the report tells. -/
theorem timedOut_of_discovering (load : Load) {first : List Load.Move}
    (phase : (load.after first).phase = .discovering) (later : List Load.Move) :
    let schedule := first ++ .expire :: later
    let final := load.after schedule
    (final.report load).discoveryError = some "provider discovery cancelled by deadline" ∧
      (final.report load).deadlineElapsed = true ∧ Traceless load final ∧
      ∀ discovered, Load.after { load with discovered } schedule = final := by
  have same := (Load.State.after_eq_of_timeOut load load.discovered phase later).1
  have failed : (load.after (first ++ .expire :: later)).discoveryError =
      some "provider discovery cancelled by deadline" := by
    rw [same]
    rfl
  have elapsed : (load.after (first ++ .expire :: later)).elapsed = true := by
    rw [same]
    rfl
  exact ⟨failed, elapsed, traceless_of_discoveryError load _ (by rw [failed]; nofun),
    fun discovered => (Load.State.after_eq_of_timeOut load discovered phase later).2⟩

/-- **A failure that comes by the deadline** is all that the report tells. -/
theorem failed_of_discovered {failure : DirectoryError} (unlisted : load.discovered = .error failure)
    (early : load.discoveryLatency ≤ load.cutoff) (punctual : load.Punctual schedule)
    (finished : (load.after schedule).phase = .finished) :
    let final := load.after schedule
    (final.report load).discoveryError = some failure.message ∧
      (final.report load).deadlineElapsed = false ∧ Traceless load final := by
  have known : (load.after schedule).discoveryError = some failure.message ∧
      (load.after schedule).elapsed = false := by
    cases Load.State.listed_follow punctual with
    | pending phase => cases finished.symm.trans phase
    | found running fine =>
      cases ((Load.State.sound_follow load schedule).listed running fine).symm.trans unlisted
    | failed _ found told _ inTime =>
      obtain rfl := Except.error.inj (unlisted.symm.trans found)
      exact ⟨told, inTime⟩
    | timedOut _ late => omega
  exact ⟨known.1, known.2, traceless_of_discoveryError load _ (by rw [known.1]; nofun)⟩

/-- What a load finds in a directory: that it is damaged, or the failure it was told to answer with,
also where there are entries, or else its entries. -/
theorem discovered_of_lists {directory : Directory Registered} (lists : load.Lists directory) :
    (directory.damaged = true → load.discovered = .error .damaged) ∧
    (directory.damaged = false → ∀ failure, directory.failure = some failure →
      load.discovered = .error failure) ∧
    (directory.damaged = false → directory.failure = none →
      load.discovered = .ok (directory.entries.map (Entry.map Registered.toProvider))) := by
  rw [lists, Directory.providers, Directory.unlessDamaged]
  refine ⟨fun damaged => ?_, fun sane failure told => ?_, fun sane none => ?_⟩
  · rw [if_pos damaged]
    rfl
  · rw [sane, told]
    rfl
  · rw [sane, none]
    rfl

/-- **A load that cannot list its providers ends cleanly.** Under every schedule a load asks for the
providers once.  A discovery error is reported with no row and leaves no trace, and it is that of the
directory unless the deadline has elapsed.  If the deadline passes while the providers are being
listed, the report says so, and nothing depends on what listing them would have come to.  A load that
has listed its providers has no discovery error, whatever becomes of them.

Under a punctual schedule the times tell which of this is the case: a failure by the deadline is
reported in its own words, and a listing that takes longer is cut off.  A load that meets a directory
fails where this is damaged or was told to fail, also where there are entries. -/
theorem clean_discovery_failure (load : Load) (schedule : List Load.Move) :
    let final := load.after schedule
    let report := final.report load
    final.deeds.filter (·.2.task? = none) = [(0, .asked)] ∧
    (∀ error, report.discoveryError = some error → Traceless load final ∧
      (report.deadlineElapsed = false →
        ∃ failure, load.discovered = .error failure ∧ error = failure.message)) ∧
    (∀ first later, schedule = first ++ .expire :: later → (load.after first).phase = .discovering →
      report.discoveryError = some "provider discovery cancelled by deadline" ∧
      report.deadlineElapsed = true ∧ Traceless load final ∧
      ∀ discovered, Load.after { load with discovered } schedule = final) ∧
    (∀ time count, (time, .discovered count) ∈ final.log → report.discoveryError = none) ∧
    (load.Punctual schedule →
      (∃ later, load.Punctual (schedule ++ later) ∧
        (load.after (schedule ++ later)).phase = .finished) ∧
      (final.phase = .finished →
        (∀ failure, load.discovered = .error failure → load.discoveryLatency ≤ load.cutoff →
          report.discoveryError = some failure.message ∧ report.deadlineElapsed = false ∧
          Traceless load final) ∧
        (load.cutoff < load.discoveryLatency →
          report.discoveryError = some "provider discovery cancelled by deadline" ∧
          report.deadlineElapsed = true ∧ Traceless load final ∧
          ∀ discovered, Load.after { load with discovered } schedule = final)) ∧
      ∀ entries, load.discovered = .ok entries → load.discoveryLatency ≤ load.cutoff →
        report.discoveryError = none) ∧
    ∀ directory : Directory Registered, load.Lists directory →
      (directory.damaged = true → load.discovered = .error .damaged) ∧
      (directory.damaged = false → ∀ failure, directory.failure = some failure →
        load.discovered = .error failure) ∧
      (directory.damaged = false → directory.failure = none →
        load.discovered = .ok (directory.entries.map (Entry.map Registered.toProvider))) := by
  refine ⟨Load.State.filter_asked load schedule, fun error failed => ⟨?_, ?_⟩, ?_,
    fun time count there => discoveryError_of_discovered there, fun punctual => ⟨?_, ?_, ?_⟩,
    fun directory lists => discovered_of_lists lists⟩
  · exact traceless_of_discoveryError load schedule (Option.ne_none_iff_exists'.mpr ⟨error, failed⟩)
  · exact ((Load.State.logged_follow load schedule).unlisted error failed).2
  · rintro first later rfl phase
    exact timedOut_of_discovering load phase later
  · exact Load.State.exists_punctual_finished punctual
  · refine fun finished => ⟨fun failure unlisted early => ?_, fun late => ?_⟩
    · exact failed_of_discovered unlisted early punctual finished
    · obtain ⟨first, later, rfl, phase⟩ :=
        Load.State.exists_timeOut late punctual (by rw [finished]; nofun)
      exact timedOut_of_discovering load phase later
  · exact fun entries listed early => Load.State.discoveryError_eq_none listed early punctual

/-- A directory that was told to fail, and has an entry. -/
def failing : Directory Registered where
  entries := [⟨⟨⟨forgetful, 0⟩, none⟩, [⟨"a", none⟩]⟩]
  failure := some (.discovery "no network")

/-- A load that meets it two milliseconds after its start. -/
def blocked : Load :=
  { Load.mixed with discovered := failing.providers.map (·.map (Entry.map Registered.toProvider)) }

/-- The failure that a directory was told to answer with is reported, although there is an entry; a
load that waits for the directory up to its deadline reports that; and one that finds its providers
reports no error, although one of them breaks down. -/
theorem clean_discovery_failure_blocked :
    (blocked.Punctual [.wait 2, .discover] ∧
      ((blocked.after [.wait 2, .discover]).report blocked).discoveryError =
        some "provider discovery failed: no network" ∧
      Traceless blocked (blocked.after [.wait 2, .discover])) ∧
    (Load.State.belated.Punctual [.wait 10, .expire] ∧
      (Load.State.belated.after [.wait 10, .expire]).elapsed = true ∧
      Load.after { Load.State.belated with discovered := .error .damaged } [.wait 10, .expire] =
        Load.State.belated.after [.wait 10, .expire]) ∧
    (Load.mixed.Punctual Load.mixedMoves ∧
      ((Load.mixed.after Load.mixedMoves).report Load.mixed).discoveryError = none) := by
  have lists : blocked.Lists failing := rfl
  have unlisted := ((clean_discovery_failure blocked []).2.2.2.2.2 failing lists).2.1 rfl _ rfl
  have punctual : blocked.Punctual [.wait 2, .discover] := by decide +kernel
  obtain ⟨error, _, traceless⟩ := ((clean_discovery_failure blocked _).2.2.2.2.1 punctual).2.1
    (by decide +kernel) |>.1 _ unlisted (by decide +kernel)
  have late : Load.State.belated.Punctual [.wait 10, .expire] := by decide +kernel
  obtain ⟨_, elapsed, _, ignored⟩ :=
    ((clean_discovery_failure Load.State.belated _).2.2.2.2.1 late).2.1 (by decide +kernel)
      |>.2 (by decide +kernel)
  have listed : Load.mixed.Punctual Load.mixedMoves := by decide +kernel
  have fine := ((clean_discovery_failure Load.mixed _).2.2.2.2.1 listed).2.2 _ rfl (by decide +kernel)
  exact ⟨⟨punctual, error, traceless⟩, ⟨late, elapsed, ignored _⟩, listed, fine⟩

end Session

end Environments
