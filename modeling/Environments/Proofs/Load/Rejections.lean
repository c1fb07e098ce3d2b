import Environments.Proofs.Load.Joint

/-!
# What a load tells of rejections

In a load into a recording sink, which may be used from elsewhere at the same time, the delivery of an
entry fails exactly where its provider had been rejected when its batch was handed over, and it leaves the
sink alone: `GoesInto.heeds` for one entry, and `GoesInto.exists_outcomes` for the report.
-/

namespace Environments

namespace Load

variable {load : Load} {turns : List Turn} {number : Nat} {batch : Batch} {j : Joint}

/-! ### The turn at which a batch is handed over -/

theorem Joint.answer_eq (j : Joint) (batch : Batch) : j.sink.answer batch =
    if .rejectFrom batch.provider.id ∈ j.uses then .error .closed else .ok () := by
  have refused := (RecordingSink.records_useAll j.uses).refused
  simp only [RecordingSink.answer, Joint.sink, refused]

/-- The batch of a rejected provider is refused, and any other is accepted. -/
theorem GoesInto.told (goes : load.GoesInto turns) (handing : load.HandsOver turns number batch j) :
    (.rejectFrom batch.provider.id ∈ j.uses →
      .refused number batch .closed ∈ ((load.joint turns).state.history number).map Prod.snd) ∧
    (.rejectFrom batch.provider.id ∉ j.uses →
      .accepted number batch ∈ ((load.joint turns).state.history number).map Prod.snd) := by
  have answered := handing.answered (goes number batch j handing)
  rw [Joint.answer_eq] at answered
  constructor
  · intro rejected
    rwa [if_pos rejected] at answered
  · intro taken
    rwa [if_neg taken] at answered

theorem GoesInto.of_refused (goes : load.GoesInto turns) {error : SinkError}
    (answer : (load.sink number batch).answer = .returned (.error error))
    (handed : .handed number batch ∈ ((load.joint turns).state.history number).map Prod.snd) :
    error = .closed ∧
      ∃ j, load.HandsOver turns number batch j ∧ .rejectFrom batch.provider.id ∈ j.uses := by
  obtain ⟨⟨time, deed⟩, passed, rfl⟩ := List.mem_map.mp handed
  obtain ⟨j, handing⟩ := exists_handsOver (List.mem_of_mem_filter passed)
  rw [goes number batch j handing, Sink.reply, Joint.answer_eq] at answer
  by_cases rejected : .rejectFrom batch.provider.id ∈ j.uses
  · rw [if_pos rejected] at answer
    cases answer
    exact ⟨rfl, j, handing, rejected⟩
  · rw [if_neg rejected] at answer
    cases answer

theorem HandsOver.sink_turn (handing : load.HandsOver turns number batch j)
    (rejected : .rejectFrom batch.provider.id ∈ j.uses) :
    (j.turn load (.move (.step number))).sink = j.sink := by
  obtain ⟨_, _, _, _, offered⟩ := handing
  have after : (j.turn load (.move (.step number))).sink = j.sink.use (.deliver batch) := by
    rw [Joint.sink, Joint.turn, offered, RecordingSink.useAll_append]
    rfl
  rw [after]
  exact ((RecordingSink.records_useAll j.uses).closed batch rejected).2

/-! ### What becomes of an entry -/

/-- **How the outcome of an entry tells of a rejection.** -/
structure Heeds (load : Load) (turns : List Turn) (number : Nat) (entry : Entry Provider)
    (outcome : Outcome) : Prop where
  /-- A delivery has failed exactly if the batch of the entry was handed over, before the sign to
  cancel, and its provider had been rejected by then. -/
  failed : ∀ reason, outcome = .deliveryFailed reason ↔ reason = "sink is closed" ∧
    ∃ batch j, load.HandsOver turns number batch j ∧ .rejectFrom entry.id ∈ j.uses
  /-- Then no batch of it was accepted, and the sink stands after a turn of it as it did before. -/
  unchanged : ∀ reason, outcome = .deliveryFailed reason →
    (∀ batch, .accepted number batch ∉ ((load.joint turns).state.history number).map Prod.snd) ∧
    ∀ batch j, load.HandsOver turns number batch j → (j.turn load (.move (.step number))).sink = j.sink

theorem GoesInto.heeds (goes : load.GoesInto turns) {entry : Entry Provider} {ending : Ending}
    (found : (load.joint turns).state.tasks[number]? = some ⟨entry, .joined ending⟩) :
    Heeds load turns number entry ending.outcome := by
  have course : Task.Course load number entry (.joined ending)
      (((load.joint turns).state.history number).map Prod.snd) := by
    rw [state_joint] at found ⊢
    exact State.course_follow load _ found
  have agrees := (course.ends rfl).agrees
  have provider : ∀ {batch}, .handed number batch ∈
      ((load.joint turns).state.history number).map Prod.snd → batch.provider.id = entry.id := by
    intro batch handed
    have whole := course.delivery.whole batch (List.mem_filterMap.mpr ⟨.handed number batch, handed, rfl⟩)
    exact congrArg Descriptor.id whole.1
  have spared : ∀ {reason}, ending.outcome = .deliveryFailed reason → ∀ batch,
      .accepted number batch ∉ ((load.joint turns).state.history number).map Prod.snd := by
    intro reason failed batch accepted
    have delivered := (agrees.delivered _).mpr ⟨rfl, batch, accepted⟩
    cases failed.symm.trans delivered
  refine ⟨fun reason => ⟨fun failed => ?_, ?_⟩, fun reason failed => ⟨spared failed, ?_⟩⟩
  · obtain ⟨batch, error, refused, rfl⟩ := (agrees.deliveryFailed reason).mp failed
    obtain ⟨handed, answer⟩ := (agrees.answered batch).2 error refused
    obtain ⟨rfl, j, handing, rejected⟩ := goes.of_refused answer handed
    exact ⟨rfl, batch, j, handing, provider handed ▸ rejected⟩
  · rintro ⟨rfl, batch, j, handing, rejected⟩
    have refused := (goes.told handing).1 (provider handing.handed ▸ rejected)
    exact (agrees.deliveryFailed _).mpr ⟨batch, .closed, refused, rfl⟩
  · intro batch j handing
    by_cases rejected : .rejectFrom batch.provider.id ∈ j.uses
    · exact handing.sink_turn rejected
    · exact absurd ((goes.told handing).2 rejected) (spared failed batch)

theorem sound_joint (load : Load) (turns : List Turn) : State.Sound load (load.joint turns).state := by
  rw [state_joint]
  exact State.sound_follow load _

/-- **Deliveries fail for the rejected providers, and leave the sink alone.** -/
theorem GoesInto.exists_outcomes (goes : load.GoesInto turns)
    (finished : (load.joint turns).state.phase = .finished)
    (fine : (load.joint turns).state.discoveryError = none) :
    ∃ (entries : List (Entry Provider)) (outcomes : List Outcome), load.discovered = .ok entries ∧
      outcomes.length = entries.length ∧
      ((load.joint turns).state.report load).providers.Perm (Report.rowsOf entries outcomes) ∧
      ∀ number entry outcome, entries[number]? = some entry → outcomes[number]? = some outcome →
        Heeds load turns number entry outcome := by
  have sound := sound_joint load turns
  obtain ⟨entries, outcomes, listed, length, rows, ended⟩ := sound.exists_outcomes finished fine
  refine ⟨entries, outcomes, listed, length, rows, fun number entry outcome here told => ?_⟩
  obtain ⟨ending, same, found⟩ := ended number entry here
  obtain rfl := Option.some.inj (told.symm.trans same)
  exact goes.heeds found

/-- Where the providers could not be listed there is nothing to tell, since nothing was handed over. -/
theorem unlisted_joint (failed : (load.joint turns).state.discoveryError ≠ none) :
    ((load.joint turns).state.report load).providers = [] ∧
      ∀ number batch j, ¬load.HandsOver turns number batch j := by
  have sound := sound_joint load turns
  have noTask := (sound.unlisted failed).2
  constructor
  · have rows := sound.rows
    rwa [noTask, List.filterMap_nil, List.perm_nil] at rows
  · intro number batch j handing
    obtain ⟨⟨time, deed⟩, passed, rfl⟩ := List.mem_map.mp handing.handed
    rw [state_joint] at passed noTask
    obtain ⟨t, found⟩ :=
      State.exists_task_of_mem_deeds load _ (List.mem_of_mem_filter passed) rfl
    rw [noTask] at found
    cases found

end Load

end Environments
