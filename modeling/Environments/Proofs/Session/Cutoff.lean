import Environments.Proofs.Load.OneThread
import Environments.Session

/-!
# Nothing starts after the cut-off

What reaches a sink in a load are batches that a task of this load has handed over, with answers to
its own queries, and that the sink has accepted: `arrived_afterLoad`.

`nothing_after_cutoff` joins this to what the sign to cancel does.  From the sign on nothing passes
between the load and the providers or the sink, so that what was in flight reaches no sink, neither
then nor in a later load, and what was running ends as cancelled.  A load on one thread that lists its
providers when no time is left has given the sign before anything began.
-/

namespace Environments

/-- The batch that a sink accepts. -/
def Deed.accepted? : Deed → Option Batch
  | accepted _ batch => some batch
  | _ => none

/-- A task whose batch was accepted has exchanged what is in it, handed it over, and nothing else. -/
theorem Task.Course.of_accepted {load : Load} {number : Nat} {entry : Entry Provider} {stage : Stage}
    {deeds : List Deed} (h : Task.Course load number entry stage deeds) {batch : Batch}
    (accepted : .accepted number batch ∈ deeds) :
    deeds = Task.exchanges number load.config.options batch.results ++
      [.handed number batch, .accepted number batch] := by
  cases h with
  | resting | querying | delivering => simp at accepted
  | ended ends | joined ends =>
    cases ends with
    | accepted =>
      obtain rfl : batch = _ := by simpa using accepted
      rfl
    | cutResting | cutQuerying | cutDelivering | failed | brokeDown | refused | spoiled =>
      simp at accepted

namespace Session

/-! ### What a sink gains from a load -/

theorem arrived_receive (sink : Sink) (batch : Batch) :
    (sink.receive batch).arrived = sink.arrived ++ [batch] := by
  cases sink <;> rfl

theorem arrived_foldl_receiveDeed (deeds : List Deed) (sink : Sink) :
    (deeds.foldl receiveDeed sink).arrived = sink.arrived ++ deeds.filterMap Deed.accepted? := by
  induction deeds generalizing sink with
  | nil => exact (List.append_nil _).symm
  | cons deed deeds ih =>
    rw [List.foldl_cons, ih]
    cases deed with
    | accepted task batch =>
      rw [receiveDeed, arrived_receive, List.append_assoc]
      rfl
    | asked | called | answered | handed | refused | spoiled => rfl

/-- **What arrives at the sink of a session in a load comes from this load**: every batch is the whole
of what one of its tasks has exchanged and handed over. -/
theorem arrived_afterLoad (s : Session) (load : Load) (schedule : List Load.Move) :
    let final := load.after schedule
    ∃ gained, (s.afterLoad final).sink.arrived = s.sink.arrived ++ gained ∧
      ∀ batch ∈ gained, ∃ number, (final.history number).map Prod.snd =
        Task.exchanges number load.config.options batch.results ++
          [.handed number batch, .accepted number batch] := by
  intro final
  refine ⟨_, arrived_foldl_receiveDeed _ _, fun batch member => ?_⟩
  obtain ⟨deed, passed, same⟩ := List.mem_filterMap.mp member
  obtain ⟨⟨time, other⟩, there, rfl⟩ := List.mem_map.mp passed
  cases other with
  | accepted number batch =>
    obtain rfl := Option.some.inj same
    have part : (Deed.accepted number batch).task? = some number := rfl
    obtain ⟨t, found⟩ := Load.State.exists_task_of_mem_deeds load schedule there part
    have course := Load.State.course_follow load schedule found
    exact ⟨number, course.of_accepted (List.mem_map_of_mem (Load.State.mem_history there part))⟩
  | asked | called | answered | handed | refused | spoiled => cases same

theorem afterLoad_of_deeds {final : Load.State} (nothing : final.deeds = [(0, .asked)]) (s : Session) :
    (s.afterLoad final).sink = s.sink ∧ (s.afterLoad final).roster = s.roster := by
  simp only [afterLoad, nothing]
  exact ⟨rfl, rfl⟩

/-- **Nothing starts after the cut-off.** From the sign to cancel on nothing passes between a load and
the providers or the sink, no query and no answer, no batch and no word on it, and what has not ended
by then ends as cancelled, with what it had collected.  What arrives at the sink of any session, also
one of earlier loads, was exchanged, handed over and accepted in this load.

On one thread, a load that lists its providers when no time is left leaves them and the sink alone,
and all are cancelled without a result.  So it is where listing the providers takes just the time up
to the deadline, or none where the deadline is none, if nothing is late.

A row is cancelled only in a load whose deadline has elapsed. -/
theorem nothing_after_cutoff (load : Load) (schedule : List Load.Move) :
    let final := load.after schedule
    (∀ first later, schedule = first ++ later → (load.after first).elapsed = true →
      final.deeds = (load.after first).deeds ∧
      (final.phase = .finished → ∀ (number : Nat) (t : Task),
        (load.after first).tasks[number]? = some t → t.stage.ending? = none →
        final.tasks[number]? = some
            ⟨t.entry, .joined (.returned t.entry.descriptor (.cancelled t.stage.collected))⟩ ∧
          ⟨t.entry.descriptor, .cancelled t.stage.collected⟩ ∈ (final.report load).providers)) ∧
    (∀ s : Session, ∃ gained, (s.afterLoad final).sink.arrived = s.sink.arrived ++ gained ∧
      ∀ batch ∈ gained, ∃ number, (final.history number).map Prod.snd =
        Task.exchanges number load.config.options batch.results ++
          [.handed number batch, .accepted number batch]) ∧
    (load.OneThread schedule → final.phase = .finished → ∀ time count,
      (time, .discovered count) ∈ final.log → load.cutoff ≤ time → 0 < count →
      ∃ entries, entries.length = count ∧ Load.State.Fruitless load entries final ∧
        ∀ s : Session, (s.afterLoad final).sink = s.sink ∧ (s.afterLoad final).roster = s.roster) ∧
    (load.Punctual schedule → final.phase = .finished → load.discoveryLatency = load.cutoff →
      ∀ entries, load.discovered = .ok entries → entries ≠ [] →
      Load.State.Fruitless load entries final ∧
        ∀ s : Session, (s.afterLoad final).sink = s.sink ∧ (s.afterLoad final).roster = s.roster) ∧
    ∀ row ∈ (final.report load).providers, row.outcome.isCancelled = true →
      (final.report load).deadlineElapsed = true := by
  intro final
  have sound := Load.State.sound_follow load schedule
  refine ⟨?_, fun s => arrived_afterLoad s load schedule, ?_, ?_,
    fun row member => Load.State.elapsed_of_cancelled schedule member⟩
  · rintro first later rfl elapsed
    have stilled := Load.State.stilled_follow first later elapsed
    exact ⟨stilled.deeds, fun finished number t found => stilled.cancelled_row sound finished found⟩
  · intro oneThread finished time count there late some
    obtain ⟨entries, length, fruitless⟩ :=
      Load.State.fruitless_of_late oneThread finished there late some
    exact ⟨entries, length, fruitless, afterLoad_of_deeds fruitless.deeds⟩
  · intro punctual finished whole entries listed some
    have fine := Load.State.discoveryError_eq_none listed (Nat.le_of_eq whole) punctual
    obtain ⟨time, there⟩ := (Load.State.logged_follow load schedule).exists_discovered finished fine
    have late : load.cutoff ≤ time := whole ▸ Load.State.discoveryLatency_le there
    have same := Except.ok.inj (listed.symm.trans (sound.listed (by rw [finished]; nofun) fine))
    have count : 0 < (load.after schedule).tasks.length := by
      rw [← List.length_map Task.entry, ← same]
      exact List.length_pos_of_ne_nil some
    obtain ⟨others, _, fruitless⟩ := Load.State.fruitless_of_late
      (Load.State.oneThread_of_punctual punctual) finished there late count
    obtain rfl := Except.ok.inj (listed.symm.trans fruitless.listed)
    exact ⟨fruitless, afterLoad_of_deeds fruitless.deeds⟩

/-- A load whose deadline is none, with a directory that answers at once. -/
def hurried : Load :=
  { Load.small [Load.quick] {} with config := { deadline := 0 }, discoveryLatency := 0 }

def hurriedMoves : List Load.Move :=
  [.discover, .expire, .step 0, .join 0, .finish]

/-- The answer that is under way at the deadline is dropped; and where the deadline is none, no query
is made. -/
theorem nothing_after_cutoff_mixed_hurried :
    (∃ first later, Load.mixedMoves = first ++ later ∧ (Load.mixed.after first).elapsed = true ∧
      (Load.mixed.after Load.mixedMoves).deeds = (Load.mixed.after first).deeds ∧
      ⟨Load.slow.descriptor, .cancelled 0⟩ ∈ (Load.mixed.after Load.mixedMoves).rows ∧
      ((Load.mixed.after Load.mixedMoves).report Load.mixed).deadlineElapsed = true) ∧
    (hurried.OneThread hurriedMoves ∧
      (0, .discovered 1) ∈ (hurried.after hurriedMoves).log ∧
      ∃ entries, entries.length = 1 ∧
        Load.State.Fruitless hurried entries (hurried.after hurriedMoves)) ∧
    (hurried.Punctual hurriedMoves ∧ (hurried.after hurriedMoves).phase = .finished ∧
      (hurried.after hurriedMoves).deeds = [(0, .asked)] ∧
      (hurried.after hurriedMoves).rows.Perm [⟨Load.quick.descriptor, .cancelled 0⟩]) := by
  have finished : (Load.mixed.after Load.mixedMoves).phase = .finished := by decide
  have elapsed : (Load.mixed.after (Load.mixedMoves.take 12)).elapsed = true := by decide +kernel
  obtain ⟨deeds, ended⟩ := (nothing_after_cutoff Load.mixed Load.mixedMoves).1
    (Load.mixedMoves.take 12) (Load.mixedMoves.drop 12) rfl elapsed
  obtain ⟨_, row⟩ := ended finished 2 _ rfl rfl
  have cancelled := (nothing_after_cutoff Load.mixed Load.mixedMoves).2.2.2.2 _ row rfl
  have punctual : hurried.Punctual hurriedMoves := by decide +kernel
  have done : (hurried.after hurriedMoves).phase = .finished := by decide
  have oneThread : hurried.OneThread hurriedMoves := by decide +kernel
  have there : (0, .discovered 1) ∈ (hurried.after hurriedMoves).log := by decide +kernel
  obtain ⟨entries, one, late, _⟩ := (nothing_after_cutoff hurried hurriedMoves).2.2.1 oneThread done
    0 1 there (Nat.le_refl 0) (by decide)
  obtain ⟨fruitless, _⟩ := (nothing_after_cutoff hurried hurriedMoves).2.2.2.1 punctual done
    (by decide +kernel) [Load.quick] rfl (by nofun)
  exact ⟨⟨_, _, rfl, elapsed, deeds, row, cancelled⟩, ⟨oneThread, there, entries, one, late⟩, punctual,
    done, fruitless.deeds, fruitless.rows⟩

end Session

end Environments
