import Environments.Proofs.Load.Rejections
import Environments.Proofs.Session.Independence

/-!
# Recording is exact

A session with a recording sink is one way to go into it: all other uses of the sink are made before the
load, and `goesInto_of_recordsIn` says that the sink answers the whole load as it stands then.  The sink
that the session has after the load has also seen the batches of the load: `sink_afterLoad`.

`recording_is_exact` joins this to what a sink has on record and to what a load tells of rejections.
-/

namespace Environments

open RecordingSink (Use)

namespace Load

variable {load : Load} {sink : RecordingSink}

/-! ### What a recording sink has accepted -/

theorem accepted?_resume (load : Load) (now number : Nat) {entry : Entry Provider} {stage : Stage}
    (idle : Task.isDelivering ⟨entry, stage⟩ = false) :
    (Task.resume load now number entry stage).2.filterMap Deed.accepted? = [] := by
  cases stage with
  | resting | ended | joined => rfl
  | delivering => cases idle
  | querying index results developer rest due answer =>
    rw [Task.resume]
    split <;> rfl

theorem accepted?_step (records : load.RecordsIn sink) (now number : Nat) (cancelled : Bool) {t : Task}
    (idle : t.isDelivering = false) :
    (t.step load now number cancelled).2.filterMap Deed.accepted? =
      ((t.step load now number cancelled).2.filterMap Deed.batch?).filter sink.accepts := by
  cases cancelled with
  | true => rfl
  | false =>
    obtain ⟨entry, stage⟩ := t
    cases stage with
    | delivering => cases idle
    | querying | ended | joined =>
      simp only [Task.step, Bool.false_eq_true, if_false]
      rw [accepted?_resume load now number idle, State.batch?_resume, List.filter_nil]
    | resting index results rest =>
      cases rest with
      | cons developer rest =>
        simp only [Task.step, Task.begin, Bool.false_eq_true, if_false, List.filterMap_append]
        rw [accepted?_resume load now number rfl, State.batch?_resume]
        rfl
      | nil =>
        rw [Task.step_handOver records]
        simp only [State.conclude_deeds, RecordingSink.answer_eq]
        generalize (⟨entry.descriptor, results, load.clock now⟩ : Batch) = batch
        cases accepts : sink.accepts batch with
        | false =>
          have refused : [batch].filter sink.accepts = [] := by simp [accepts]
          exact refused.symm
        | true =>
          have accepted : [batch].filter sink.accepts = [batch] := by simp [accepts]
          exact accepted.symm

/-- **A recording sink has accepted what was handed over**, less the batches that it refuses. -/
theorem accepted_eq (records : load.RecordsIn sink) (schedule : List Move) :
    (load.after schedule).accepted = (load.after schedule).handed.filter sink.accepts := by
  induction schedule using List.reverseRecOn with
  | nil => rfl
  | append_singleton schedule move ih =>
    have idle := (State.settling_follow records schedule).idle
    rw [after_append]
    generalize load.after schedule = s at ih idle ⊢
    have more : (s.newDeeds load move).filterMap Deed.accepted? =
        ((s.newDeeds load move).filterMap Deed.batch?).filter sink.accepts := by
      unfold State.newDeeds
      split
      · split
        · rename_i found
          exact accepted?_step records _ _ _ (idle _ (List.mem_of_getElem? found))
        · rfl
      · rfl
    simp only [State.accepted, State.handed] at ih ⊢
    rw [State.follow_cons, State.follow_nil, State.deeds_apply, List.filterMap_append,
      List.filterMap_append, List.filter_append, ih, List.filterMap_map, List.filterMap_map]
    exact congrArg _ more

/-! ### Uses before a load -/

/-- The turns of a load into a sink that was used like this before. -/
def turnsAfter (uses : List Use) (schedule : List Move) : List Turn :=
  uses.map .use ++ schedule.map .move

theorem joint_turnsAfter (load : Load) (uses : List Use) (schedule : List Move) :
    load.joint (turnsAfter uses schedule) =
      ⟨load.after schedule, uses ++ (load.after schedule).handed.map .deliver⟩ := by
  induction schedule using List.reverseRecOn with
  | nil =>
    rw [turnsAfter, List.map_nil, List.append_nil]
    induction uses using List.reverseRecOn with
    | nil => rfl
    | append_singleton uses u ih =>
      rw [List.map_append, List.map_singleton, joint_concat, ih]
      simp [Joint.turn, State.handed, Deed.batch?]
  | append_singleton schedule move ih =>
    have turns : turnsAfter uses (schedule ++ [move]) = turnsAfter uses schedule ++ [.move move] := by
      simp [turnsAfter]
    rw [turns, joint_concat, ih, after_append, State.follow_cons, State.follow_nil, State.handed_apply]
    simp [Joint.turn]

/-- Where a batch is handed over, the sink was used as it was before, and for other batches. -/
theorem HandsOver.exists_batches {uses : List Use} {schedule : List Move} {number : Nat} {batch : Batch}
    {j : Joint} (h : load.HandsOver (turnsAfter uses schedule) number batch j) :
    ∃ batches : List Batch, j.uses = uses ++ batches.map .deliver := by
  obtain ⟨first, later, apart, rfl, _⟩ := h
  have before : ∃ earlier, first = turnsAfter uses earlier := by
    rcases List.append_eq_append_iff.mp apart with ⟨earlier, rfl, rest⟩ | ⟨others, before, rest⟩
    · obtain ⟨earlier, _, _, rfl, _⟩ := List.map_eq_append_iff.mp rest
      exact ⟨earlier, rfl⟩
    · cases others with
      | nil => exact ⟨[], by simpa [turnsAfter] using before.symm⟩
      | cons turn others =>
        -- A move is none of the uses before the load.
        obtain ⟨rfl, _⟩ := List.cons.inj rest
        have member : Turn.move (.step number) ∈ uses.map Turn.use := by simp [before]
        simp at member
  obtain ⟨earlier, rfl⟩ := before
  exact ⟨_, congrArg Joint.uses (joint_turnsAfter load uses earlier)⟩

/-- **A sink that refuses some providers before a load answers all of the load alike.** -/
theorem goesInto_of_recordsIn {uses : List Use}
    (records : load.RecordsIn (RecordingSink.useAll {} uses)) (schedule : List Move) :
    load.GoesInto (turnsAfter uses schedule) := by
  intro number batch j handing
  obtain ⟨batches, same⟩ := handing.exists_batches
  have answer : j.sink.answer batch = (RecordingSink.useAll {} uses).answer batch := by
    rw [Joint.sink, same, RecordingSink.useAll_append]
    exact (RecordingSink.lasts_useAll _ _).others batch (by simp)
  rw [records number batch, Sink.reply, Sink.reply, answer]

end Load

namespace Session

theorem sink_afterLoad {s : Session} {uses : List Use}
    (recording : s.sink = .recording (RecordingSink.useAll {} uses)) {load : Load}
    (records : load.RecordsIn (RecordingSink.useAll {} uses)) (schedule : List Load.Move) :
    (s.afterLoad (load.after schedule)).sink =
      .recording (load.joint (Load.turnsAfter uses schedule)).sink := by
  have delivered : (RecordingSink.useAll {} uses).useAll ((load.after schedule).handed.map .deliver) =
      (load.after schedule).handed.foldl RecordingSink.take (RecordingSink.useAll {} uses) :=
    List.foldl_map ..
  rw [(extends_afterLoad recording _).sink, Load.accepted_eq records, Load.joint_turnsAfter,
    Load.Joint.sink, RecordingSink.useAll_append, delivered, RecordingSink.foldl_take]

end Session

/-- **Recording is exact.** After any course of operations on sinks and clones, a sink has on record the
batches that were delivered to it and its clones, in order and as they were, less those whose provider
had been rejected by then.  Such a batch is answered with `closed` and changes nothing; a rejection lasts,
and it concerns the one identifier and no batch that is on record.

A load into a recording sink reports a failed delivery exactly for the entries whose batch was handed
over, before the sign to cancel, when their provider had been rejected, and leaves the sink alone at
their turns.  Where the providers cannot be listed nothing is handed over.  This is so also if the sink
is used from elsewhere in the course of the load, and for every such course there is a load.  So it is
for the loads of a session, whatever its sink was used for before. -/
theorem recording_is_exact :
    (∀ operations sink ref, (SharedSinks.performAll {} operations).refs[sink]? = some ref →
      ∃ s, SharedSinks.Faithful operations sink ref s) ∧
    (∀ (load : Load) (turns : List Load.Turn), ∃ sink, (load.withSink sink).GoesInto turns) ∧
    (∀ (load : Load) (turns : List Load.Turn), load.GoesInto turns →
      let final := (load.joint turns).state
      final.phase = .finished →
      (final.discoveryError = none →
        ∃ (entries : List (Entry Provider)) (outcomes : List Outcome), load.discovered = .ok entries ∧
          outcomes.length = entries.length ∧
          (final.report load).providers.Perm (Report.rowsOf entries outcomes) ∧
          ∀ number entry outcome, entries[number]? = some entry → outcomes[number]? = some outcome →
            load.Heeds turns number entry outcome) ∧
      (final.discoveryError ≠ none → (final.report load).providers = [] ∧
        ∀ number batch j, ¬load.HandsOver turns number batch j)) ∧
    ∀ (s : Session) (config : Config) (uses : List Use) (schedule : List Load.Move),
      s.sink = .recording (RecordingSink.useAll {} uses) →
      let load := s.load config
      let turns := Load.turnsAfter uses schedule
      load.GoesInto turns ∧ (load.joint turns).state = load.after schedule ∧
        (s.afterLoad (load.after schedule)).sink = .recording (load.joint turns).sink := by
  refine ⟨fun operations sink ref refers => ⟨_, SharedSinks.faithful_performAll refers⟩,
    Load.exists_goesInto, fun load turns goes finished => ⟨goes.exists_outcomes finished,
      Load.unlisted_joint⟩, ?_⟩
  intro s config uses schedule recording load turns
  have records : load.RecordsIn (RecordingSink.useAll {} uses) := by
    intro number batch
    rw [← recording]
    rfl
  exact ⟨Load.goesInto_of_recordsIn records schedule,
    congrArg Load.Joint.state (Load.joint_turnsAfter load uses schedule),
    Session.sink_afterLoad recording records schedule⟩

/-- A provider that answers as fast as `Load.quick`. -/
def Load.brisk : Entry Provider := .steady "brisk" ⟨3, .returned (.ok (.success []))⟩

/-- Turns of a load in which one provider is rejected when the batch of the other has been taken. -/
def Load.midway : List Load.Turn :=
  [.move (.wait 2), .move .discover, .move (.step 0), .move (.step 1), .move (.wait 3), .move (.step 0),
    .move (.step 0), .use (.rejectFrom ⟨"brisk"⟩), .move (.step 1), .move (.step 1), .move (.join 0),
    .move (.join 1), .move .finish]

/-- A clone is told to reject a provider, and the sink keeps the batch it has and takes no other.  In the
course of a load a rejection holds for what has not been handed over, and before a load for all of it. -/
theorem recording_is_exact_midway :
    let batch : Batch := ⟨Load.quick.descriptor, [], .epoch⟩
    let load := Load.small [Load.quick, Load.brisk] { refused := [⟨"brisk"⟩] }
    let session := { Session.fresh with
      sink := .recording (RecordingSink.useAll {} [.rejectFrom ⟨"p"⟩]) }
    (∃ s, (SharedSinks.performAll {} [.create, .clone 0, .use 0 (.deliver batch),
      .use 1 (.rejectFrom ⟨"quick"⟩), .use 0 (.deliver batch)]).state? 0 = some s ∧
      s.batches = [batch]) ∧
    (load.GoesInto Load.midway ∧ (load.joint Load.midway).state.phase = .finished ∧
      ⟨Load.brisk.descriptor, .deliveryFailed "sink is closed"⟩ ∈
        ((load.joint Load.midway).state.report load).providers ∧
      (load.joint Load.midway).sink.providerOrder = [⟨"quick"⟩]) ∧
    ∃ sink, (session.afterLoad ((session.load {}).after Session.diligentMoves)).sink = .recording sink ∧
      sink.batches = [] := by
  intro batch load session
  obtain ⟨sinks, _, loads, sessions⟩ := recording_is_exact
  obtain ⟨s, faithful⟩ := sinks [.create, .clone 0, .use 0 (.deliver batch),
    .use 1 (.rejectFrom ⟨"quick"⟩), .use 0 (.deliver batch)] 0 0 (by decide)
  have goes : load.GoesInto Load.midway := Load.goesInto_of_places (by decide +kernel)
  have finished : (load.joint Load.midway).state.phase = .finished := by decide +kernel
  obtain ⟨entries, outcomes, listed, length, rows, heeds⟩ :=
    (loads load Load.midway goes finished).1 (by decide +kernel)
  obtain rfl := Except.ok.inj listed
  have failed : ⟨Load.brisk.descriptor, .deliveryFailed "sink is closed"⟩ ∈
      ((load.joint Load.midway).state.report load).providers := by
    have handing : ((load.joint (Load.midway.take 9)).state.offer? load (.step 1)).isSome := by
      decide +kernel
    obtain ⟨handed, offered⟩ := Option.isSome_iff_exists.mp handing
    match outcomes, length with
    | [first, second], _ =>
      obtain rfl := ((heeds 1 Load.brisk second rfl rfl).failed _).mpr
        ⟨rfl, handed, _, ⟨_, Load.midway.drop 10, rfl, rfl, offered⟩, by decide +kernel⟩
      exact rows.mem_iff.mpr (List.mem_cons_of_mem _ List.mem_cons_self)
  obtain ⟨_, _, after⟩ := sessions session {} [.rejectFrom ⟨"p"⟩] Session.diligentMoves rfl
  exact ⟨⟨s, faithful.state, faithful.records.batches.trans (by decide +kernel)⟩,
    ⟨goes, finished, failed, by decide +kernel⟩, _, after, by decide +kernel⟩

end Environments
