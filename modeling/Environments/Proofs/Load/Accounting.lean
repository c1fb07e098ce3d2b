import Environments.Proofs.Load.Completion
import Environments.Proofs.Load.Course

/-!
# Every provider is accounted for

`row_for_each_entry`: a load can always be brought to its end, and then its report has one row for
each discovered entry, under the descriptor of that entry and with the outcome that the task of the
entry has ended with.  A provider that breaks down, or over whose batch the sink breaks down, is no
exception.  A load that could not list its providers has no rows.
-/

namespace Environments

/-- Every outcome is of one of the three kinds that a report counts. -/
theorem Report.counts_add (r : Report) :
    r.deliveredCount + r.failedCount + r.cancelledCount = r.providers.length := by
  unfold deliveredCount failedCount cancelledCount count
  induction r.providers with
  | nil => rfl
  | cons row rows ih =>
    have one : (if row.outcome.isDelivered then 1 else 0) + (if row.outcome.isFailed then 1 else 0) +
        (if row.outcome.isCancelled then 1 else 0) = 1 := by
      cases row.outcome <;> rfl
    simp only [List.countP_cons, List.length_cons]
    omega

/-- The message with which a provider or the sink breaks down. -/
def Deed.breakdown? : Deed → Option String
  | answered _ _ (.brokeDown message) => some message
  | spoiled _ _ message => some message
  | _ => none

namespace Task

theorem breakdown?_exchanges {number : Nat} {options : String} {results : List IdentityResult} :
    ∀ deed ∈ exchanges number options results, deed.breakdown? = none := by
  intro deed member
  obtain ⟨r, _, here⟩ := List.mem_flatMap.mp member
  rcases List.mem_cons.mp here with rfl | last
  · rfl
  · rw [List.mem_singleton.mp last]
    rfl

/-- **A breakdown in the course of a task ends it**, and is what the task leaves behind. -/
theorem Ends.of_breakdown {load : Load} {number : Nat} {entry : Entry Provider} {ending : Ending}
    {deeds : List Deed} (h : Ends load number entry ending deeds) {deed : Deed} {message : String}
    (passed : deed ∈ deeds) (breakdown : deed.breakdown? = some message) :
    ending = .brokeDown (load.taskId number) (breakdownReport message) := by
  have late : ∀ {results last}, deed ∈ exchanges number load.config.options results ++ last →
      deed ∈ last := by
    intro results last member
    rcases List.mem_append.mp member with early | late
    · cases (breakdown?_exchanges deed early).symm.trans breakdown
    · exact late
  have mem_pair : ∀ {first last : Deed}, deed ∈ [first, last] → deed = first ∨ deed = last := by
    intro first last member
    rcases List.mem_cons.mp member with first | last
    · exact Or.inl first
    · exact Or.inr (List.mem_singleton.mp last)
  cases h with
  | cutResting => cases (breakdown?_exchanges deed passed).symm.trans breakdown
  | cutQuerying | cutDelivering =>
    rw [List.mem_singleton.mp (late passed)] at breakdown
    cases breakdown
  | failed | accepted | refused =>
    rcases mem_pair (late passed) with rfl | rfl <;> cases breakdown
  | brokeDown | spoiled =>
    rcases mem_pair (late passed) with rfl | rfl
    · cases breakdown
    · obtain rfl := Option.some.inj breakdown
      rfl

end Task

namespace Load.State

/-- **One row for each entry.** Whatever a load has been through, it can be brought to its end.  A
finished load without a discovery error has a row for each discovered entry, under the descriptor
of the entry and with the outcome of the task of the entry; where something broke down in that
task, it is aborted with that message.  A finished load with a discovery error has no rows. -/
theorem row_for_each_entry (load : Load) (schedule : List Move) :
    (∃ later, (load.after (schedule ++ later)).phase = .finished) ∧
    ((load.after schedule).phase = .finished →
      let final := load.after schedule
      let report := final.report load
      (report.discoveryError = none → ∃ (entries : List (Entry Provider)) (outcomes : List Outcome),
        load.discovered = .ok entries ∧ outcomes.length = entries.length ∧
        report.providers.Perm (Report.rowsOf entries outcomes) ∧
        (report.providers.map (·.provider)).Perm (entries.map (·.descriptor)) ∧
        (∀ number < entries.length,
          outcomes[number]? = (final.tasks[number]?.bind (·.stage.ending?)).map Ending.outcome) ∧
        (∀ time deed number message, (time, deed) ∈ final.deeds → deed.task? = some number →
          deed.breakdown? = some message →
          outcomes[number]? = some (.aborted (breakdownReport message))) ∧
        report.deliveredCount + report.failedCount + report.cancelledCount = entries.length) ∧
      ((∃ error, report.discoveryError = some error) ∨ (∃ error, load.discovered = .error error) →
        report.providers = [])) := by
  refine ⟨exists_follow_finished load schedule, fun finished => ?_⟩
  have sound := sound_follow load schedule
  refine ⟨fun fine => ?_, fun unlisted => ?_⟩
  · obtain ⟨entries, outcomes, listed, length, rows, ended⟩ := sound.exists_outcomes finished fine
    have descriptors : ((load.after schedule).rows.map (·.provider)).Perm
        (entries.map (·.descriptor)) := by
      rw [← Report.map_provider_rowsOf length]
      exact rows.map _
    refine ⟨entries, outcomes, listed, length, rows, descriptors, fun number inside => ?_, ?_, ?_⟩
    · obtain ⟨ending, outcome, found⟩ := ended number _ (List.getElem?_eq_getElem inside)
      rw [outcome, found]
      rfl
    · intro time deed number message passed part breakdown
      obtain ⟨t, at_number⟩ := exists_task_of_mem_deeds load schedule passed part
      obtain ⟨ending, outcome, found⟩ :=
        ended number t.entry (sound.getElem?_entries listed at_number)
      have ends := (course_follow load schedule found).ends rfl
      rw [outcome, ends.of_breakdown (List.mem_map_of_mem (mem_history passed part)) breakdown]
      rfl
    · rw [Report.counts_add]
      simpa [State.report] using descriptors.length_eq
  · suffices (load.after schedule).rows = [] from this
    have failed : (load.after schedule).discoveryError ≠ none := by
      rcases unlisted with ⟨error, failed⟩ | ⟨error, failed⟩
      · intro fine
        cases fine.symm.trans failed
      · intro fine
        cases (sound.listed (by rw [finished]; nofun) fine).symm.trans failed
    have rows := sound.rows
    rwa [(sound.unlisted failed).2, List.filterMap_nil, List.perm_nil] at rows

/-- Of three providers, one breaks down, one delivers and one is cut off: there is a row for each.
-/
theorem row_for_each_entry_mixed :
    (mixed.after mixedMoves).phase = .finished ∧
      ((mixed.after mixedMoves).report mixed).providers.Perm
        [⟨broken.descriptor, .aborted (breakdownReport "oops")⟩, ⟨quick.descriptor, .delivered 1⟩,
          ⟨slow.descriptor, .cancelled 0⟩] := by
  have finished : (mixed.after mixedMoves).phase = .finished := by decide
  obtain ⟨entries, outcomes, listed, length, rows, _, ended, _⟩ :=
    ((row_for_each_entry mixed mixedMoves).2 finished).1 (by decide +kernel)
  obtain rfl := Except.ok.inj listed
  have first : outcomes[0]? = some (.aborted (breakdownReport "oops")) :=
    (ended 0 (by decide)).trans (by decide +kernel)
  have second : outcomes[1]? = some (.delivered 1) := (ended 1 (by decide)).trans (by decide +kernel)
  have third : outcomes[2]? = some (.cancelled 0) := (ended 2 (by decide)).trans (by decide +kernel)
  refine ⟨finished, rows.trans (.of_eq ?_)⟩
  match outcomes, length with
  | [a, b, c], _ =>
    obtain rfl := Option.some.inj first
    obtain rfl := Option.some.inj second
    obtain rfl := Option.some.inj third
    rfl

end Load.State

end Environments
