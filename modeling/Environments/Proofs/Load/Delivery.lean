import Environments.Proofs.Load.Course
import Mathlib.Data.List.Basic

/-!
# The report and the sink agree

What is handed to the sink for an entry and what the report says of the entry come from one course
of events.  `Course.delivery` reads off the first: at most one batch, a whole one, after a good
answer for every account.  `Ends.agrees` compares it with the second: a row tells of a delivery
exactly where the sink has answered, and where the queries did not come to their end nothing has
been handed over.

A recording sink answers at once, so that no delivery is ever under way between two steps.  Hence
`gained_perm`: the batches that such a sink gains from a load are those of the delivered rows.
-/

namespace Environments

/-- The batch that is handed to the sink. -/
def Deed.batch? : Deed → Option Batch
  | handed _ batch => some batch
  | _ => none

def Answer.systems : Answer (Except QueryError QueryResult) → List ComputeSystem
  | returned (.ok result) => result.systems
  | _ => []

/-- The sink after a batch has been handed to it: a refused batch leaves it as it is. -/
def RecordingSink.take (sink : RecordingSink) (batch : Batch) : RecordingSink :=
  match sink.deliver batch with
  | .ok after => after
  | .error _ => sink

/-- Whether a sink accepts the batches of this batch's provider. -/
def RecordingSink.accepts (sink : RecordingSink) (batch : Batch) : Bool :=
  batch.provider.id ∉ sink.refused

theorem RecordingSink.answer_eq (sink : RecordingSink) (batch : Batch) :
    sink.answer batch = if sink.accepts batch then .ok () else .error .closed := by
  unfold answer accepts
  by_cases refused : batch.provider.id ∈ sink.refused <;> simp [refused]

theorem RecordingSink.take_eq (sink : RecordingSink) (batch : Batch) : sink.take batch =
    if sink.accepts batch then { sink with batches := sink.batches ++ [batch] } else sink := by
  rw [take, deliver, answer_eq]
  cases sink.accepts batch <;> rfl

theorem RecordingSink.foldl_take (sink : RecordingSink) (arriving : List Batch) :
    arriving.foldl RecordingSink.take sink =
      { sink with batches := sink.batches ++ arriving.filter sink.accepts } := by
  induction arriving generalizing sink with
  | nil => simp
  | cons batch arriving ih =>
    rw [List.foldl_cons, ih, take_eq]
    cases accepted : sink.accepts batch with
    | false => rw [List.filter_cons_of_neg (by simp [accepted])]; rfl
    | true =>
      rw [List.filter_cons_of_pos accepted, if_pos rfl, List.append_assoc]
      rfl

/-- The batches of a load go to a recording sink. -/
def Load.RecordsIn (load : Load) (sink : RecordingSink) : Prop :=
  ∀ number batch, load.sink number batch = (Sink.recording sink).reply batch

/-- The row of a delivered batch. -/
def Batch.row (batch : Batch) : ProviderReport :=
  ⟨batch.provider, .delivered batch.results.length⟩

namespace Task

/-! ### What is handed over for an entry -/

/-- **What may be handed over for an entry**, by all that passes in its task: at most one batch,
under the descriptor of the entry, with the answers to all its accounts in order; and before it
every account has been asked and has been answered well. -/
structure Delivery (load : Load) (number : Nat) (entry : Entry Provider) (deeds : List Deed) :
    Prop where
  once : (deeds.filterMap Deed.batch?).length ≤ 1
  whole : ∀ batch ∈ deeds.filterMap Deed.batch?, batch.provider = entry.descriptor ∧
    batch.results.length = entry.developers.length ∧
    (∀ index r, batch.results[index]? = some r → entry.developers[index]? = some r.developer ∧
      (entry.provider.query index r.developer load.config.options).answer = .returned (.ok r.result)) ∧
    batch.systems = entry.developers.zipIdx.flatMap (fun asked =>
      (entry.provider.query asked.2 asked.1 load.config.options).answer.systems) ∧
    ∃ after, deeds = exchanges number load.config.options batch.results ++ .handed number batch :: after

theorem batch?_exchanges (number : Nat) (options : String) (results : List IdentityResult) :
    (exchanges number options results).filterMap Deed.batch? = [] := by
  rw [exchanges, List.filterMap_flatMap]
  exact List.flatMap_eq_nil_iff.mpr fun _ _ => rfl

variable {load : Load} {number : Nat} {entry : Entry Provider} {ending : Ending} {deeds : List Deed}

theorem systems_of_batchOf {batch : Batch} (whole : load.BatchOf entry batch) :
    batch.systems = entry.developers.zipIdx.flatMap (fun asked =>
      (entry.provider.query asked.2 asked.1 load.config.options).answer.systems) := by
  calc batch.systems
      = (batch.results.zipIdx.map Prod.fst).flatMap (·.result.systems) := by
        rw [List.zipIdx_map_fst]
        rfl
    _ = batch.results.zipIdx.flatMap (·.1.result.systems) := List.flatMap_map ..
    _ = batch.results.zipIdx.flatMap (fun place =>
          (entry.provider.query place.2 place.1.developer load.config.options).answer.systems) := by
        refine List.flatMap_congr fun place member => ?_
        rw [whole.asked.answer place.2 place.1 (List.mem_zipIdx_iff_getElem?.mp member)]
        rfl
    _ = entry.developers.zipIdx.flatMap (fun asked =>
          (entry.provider.query asked.2 asked.1 load.config.options).answer.systems) := by
        rw [whole.asked.developers, List.append_nil, List.zipIdx_map, List.flatMap_map]
        rfl

theorem Ends.handed (h : Ends load number entry ending deeds) : deeds.filterMap Deed.batch? = [] ∨
    ∃ batch after, load.BatchOf entry batch ∧ deeds.filterMap Deed.batch? = [batch] ∧
      deeds = exchanges number load.config.options batch.results ++ .handed number batch :: after := by
  cases h with
  | cutResting | cutQuerying | failed | brokeDown =>
    refine Or.inl ?_
    simp [batch?_exchanges, Deed.batch?]
  | cutDelivering whole | accepted whole | refused whole | spoiled whole =>
    refine Or.inr ⟨_, _, whole, ?_, rfl⟩
    simp [batch?_exchanges, Deed.batch?]

theorem Course.handed {stage : Stage} (h : Course load number entry stage deeds) :
    deeds.filterMap Deed.batch? = [] ∨
      ∃ batch after, load.BatchOf entry batch ∧ deeds.filterMap Deed.batch? = [batch] ∧
        deeds = exchanges number load.config.options batch.results ++ .handed number batch :: after := by
  cases h with
  | resting | querying =>
    refine Or.inl ?_
    simp [batch?_exchanges, Deed.batch?]
  | delivering whole =>
    refine Or.inr ⟨_, _, whole, ?_, rfl⟩
    simp [batch?_exchanges, Deed.batch?]
  | ended ends | joined ends => exact ends.handed

theorem Course.delivery {stage : Stage} (h : Course load number entry stage deeds) :
    Delivery load number entry deeds := by
  rcases h.handed with none | ⟨batch, after, whole, one, passed⟩
  · refine ⟨by simp [none], fun batch handed => ?_⟩
    rw [none] at handed
    cases handed
  · refine ⟨by simp [one], fun other handed => ?_⟩
    rw [one] at handed
    obtain rfl := List.mem_singleton.mp handed
    refine ⟨whole.provider, whole.length, fun index r found => ⟨?_, whole.asked.answer index r found⟩,
      systems_of_batchOf whole, after, passed⟩
    rw [whole.asked.developers, List.append_nil, List.getElem?_map, found]
    rfl

/-! ### What the row says of it -/

/-- **How the outcome of an entry agrees with what passed between its task and the sink.** -/
structure Agrees (load : Load) (number : Nat) (entry : Entry Provider) (outcome : Outcome)
    (deeds : List Deed) : Prop where
  /-- A row is delivered exactly if the sink has accepted the batch, with all accounts in it. -/
  delivered : ∀ identities, outcome = .delivered identities ↔
    identities = entry.developers.length ∧ ∃ batch, .accepted number batch ∈ deeds
  /-- A delivery failed exactly if the sink has refused the batch, and for the reason it gave. -/
  deliveryFailed : ∀ reason, outcome = .deliveryFailed reason ↔
    ∃ batch error, .refused number batch error ∈ deeds ∧ reason = error.message
  /-- What the sink has answered is its answer to the batch that was handed over. -/
  answered : ∀ batch, (.accepted number batch ∈ deeds → .handed number batch ∈ deeds ∧
      (load.sink number batch).answer = .returned (.ok ())) ∧
    ∀ error, .refused number batch error ∈ deeds → .handed number batch ∈ deeds ∧
      (load.sink number batch).answer = .returned (.error error)
  /-- Only the deadline comes between a batch that was handed over and the answer to it. -/
  handed : ∀ batch, .handed number batch ∈ deeds →
    outcome = .cancelled entry.developers.length ∨
      outcome = .ofDelivery entry.developers.length (load.sink number batch).answer
  /-- Where the queries do not come to their end nothing is handed over. -/
  withheld : (∃ failedAt developer reason, outcome = .queryFailed failedAt developer reason) ∨
      (∃ completed < entry.developers.length, outcome = .cancelled completed) ∨
      (∃ developer message, .answered number developer (.brokeDown message) ∈ deeds) →
    ∀ batch, .handed number batch ∉ deeds

theorem Ends.delivered_iff (h : Ends load number entry ending deeds) (identities : Nat) :
    ending.outcome = .delivered identities ↔
      identities = entry.developers.length ∧ ∃ batch, .accepted number batch ∈ deeds := by
  cases h with
  | accepted whole => simp [Ending.outcome, ← whole.length, eq_comm]
  | cutResting | cutQuerying | cutDelivering | failed | brokeDown | refused | spoiled =>
    simp [Ending.outcome]

theorem Ends.deliveryFailed_iff (h : Ends load number entry ending deeds) (reason : String) :
    ending.outcome = .deliveryFailed reason ↔
      ∃ batch error, .refused number batch error ∈ deeds ∧ reason = error.message := by
  cases h with
  | refused => simp [Ending.outcome, eq_comm]
  | cutResting | cutQuerying | cutDelivering | failed | brokeDown | accepted | spoiled =>
    simp [Ending.outcome]

theorem Ends.answered (h : Ends load number entry ending deeds) (batch : Batch) :
    (.accepted number batch ∈ deeds → .handed number batch ∈ deeds ∧
      (load.sink number batch).answer = .returned (.ok ())) ∧
    ∀ error, .refused number batch error ∈ deeds → .handed number batch ∈ deeds ∧
      (load.sink number batch).answer = .returned (.error error) := by
  cases h with
  | accepted _ answer =>
    refine ⟨fun passed => ?_, by simp⟩
    obtain rfl : batch = _ := by simpa using passed
    exact ⟨by simp, answer⟩
  | refused _ answer =>
    refine ⟨by simp, fun error passed => ?_⟩
    obtain ⟨rfl, rfl⟩ : batch = _ ∧ error = _ := by simpa using passed
    exact ⟨by simp, answer⟩
  | cutResting | cutQuerying | cutDelivering | failed | brokeDown | spoiled => simp

theorem Ends.of_handed (h : Ends load number entry ending deeds) {batch : Batch}
    (handed : .handed number batch ∈ deeds) :
    ending.outcome = .cancelled entry.developers.length ∨
      ending.outcome = .ofDelivery entry.developers.length (load.sink number batch).answer := by
  cases h with
  | cutResting | cutQuerying | failed | brokeDown => simp at handed
  | cutDelivering whole =>
    rw [← whole.length]
    exact Or.inl rfl
  | accepted whole answer | refused whole answer | spoiled whole answer =>
    obtain rfl : batch = _ := by simpa using handed
    rw [← whole.length, answer]
    exact Or.inr rfl

theorem Ends.agrees (h : Ends load number entry ending deeds) :
    Agrees load number entry ending.outcome deeds := by
  refine ⟨h.delivered_iff, h.deliveryFailed_iff, h.answered, fun batch => h.of_handed, ?_⟩
  intro unfinished batch handed
  cases h with
  | cutResting | cutQuerying | failed | brokeDown => simp at handed
  | cutDelivering whole => simp [Ending.outcome, whole.length] at unfinished
  | accepted | refused | spoiled => simp [Ending.outcome] at unfinished

/-! ### Recording sinks -/

/-- The row of a task that has ended with a delivery. -/
def delivered? (t : Task) : Option ProviderReport :=
  (t.stage.ending?.map fun ending => ⟨t.entry.descriptor, ending.outcome⟩).filter
    (·.outcome.isDelivered)

/-- Whether the batch is handed over and the sink has not answered. -/
def isDelivering (t : Task) : Bool :=
  match t.stage with
  | .delivering .. => true
  | _ => false

/-- The rows of the batches that are handed over and that the sink accepts. -/
def acceptedRows (sink : RecordingSink) (deeds : List Deed) : List ProviderReport :=
  ((deeds.filterMap Deed.batch?).filter sink.accepts).map Batch.row

variable {now : Nat} {cancelled : Bool} {sink : RecordingSink}

theorem acceptedRows_append (first later : List Deed) :
    acceptedRows sink (first ++ later) = acceptedRows sink first ++ acceptedRows sink later := by
  simp [acceptedRows]

/-- Where no delivery is under way, taking an answer neither hands a batch over nor delivers it.
-/
theorem resume_idle (load : Load) (now number : Nat) (sink : RecordingSink) {stage : Stage}
    (idle : isDelivering ⟨entry, stage⟩ = false) :
    isDelivering ⟨entry, (resume load now number entry stage).1⟩ = false ∧
      acceptedRows sink (resume load now number entry stage).2 = [] ∧
      delivered? ⟨entry, (resume load now number entry stage).1⟩ = delivered? ⟨entry, stage⟩ := by
  cases stage with
  | resting | ended | joined => exact ⟨rfl, rfl, rfl⟩
  | delivering => cases idle
  | querying index results developer rest due answer =>
    by_cases arrived : due ≤ now
    · rw [resume, if_pos arrived]
      rcases answer with (error | result) | message <;> exact ⟨rfl, rfl, rfl⟩
    · rw [resume, if_neg arrived]
      exact ⟨rfl, rfl, rfl⟩

theorem cutOff_idle {t : Task} (idle : t.isDelivering = false) :
    isDelivering ⟨t.entry, t.cutOff⟩ = false ∧ delivered? ⟨t.entry, t.cutOff⟩ = delivered? t := by
  obtain ⟨entry, stage⟩ := t
  cases stage with
  | resting | querying | ended | joined => exact ⟨rfl, rfl⟩
  | delivering => cases idle

theorem step_handOver (records : load.RecordsIn sink) (now number index : Nat)
    (results : List IdentityResult) :
    step load now number false ⟨entry, .resting index results []⟩ =
      let batch : Batch := ⟨entry.descriptor, results, load.clock now⟩
      let concluded := conclude load number entry batch (.returned (sink.answer batch))
      (concluded.1, .handed number batch :: concluded.2) := by
  have reply := records number ⟨entry.descriptor, results, load.clock now⟩
  simp [step, begin, resume, reply, Sink.reply]

/-- **What a step of a task delivers to a recording sink, the sink accepts**, and the other way
round; and between two steps no delivery is under way. -/
theorem step_idle (records : load.RecordsIn sink) (now number : Nat) (cancelled : Bool) {t : Task}
    (idle : t.isDelivering = false) :
    isDelivering ⟨t.entry, (t.step load now number cancelled).1⟩ = false ∧
      (delivered? t).toList ++ acceptedRows sink (t.step load now number cancelled).2 =
        (delivered? ⟨t.entry, (t.step load now number cancelled).1⟩).toList := by
  cases cancelled with
  | true =>
    obtain ⟨idle, same⟩ := cutOff_idle idle
    simp only [step, if_true]
    exact ⟨idle, by rw [same]; exact List.append_nil _⟩
  | false =>
    obtain ⟨entry, stage⟩ := t
    cases stage with
    | delivering => cases idle
    | querying | ended | joined =>
      obtain ⟨idle, none, same⟩ := resume_idle load now number sink idle
      simp only [step, Bool.false_eq_true, if_false]
      exact ⟨idle, by rw [none, same, List.append_nil]⟩
    | resting index results rest =>
      cases rest with
      | cons developer rest =>
        have waits : isDelivering ⟨entry, (begin load now number entry index results
            (developer :: rest)).1⟩ = false := rfl
        obtain ⟨idle, none, same⟩ := resume_idle load now number sink waits
        simp only [step, Bool.false_eq_true, if_false]
        refine ⟨idle, ?_⟩
        rw [same, acceptedRows_append, none]
        rfl
      | nil =>
        -- The only step in which a batch is handed over; its answer comes at once.
        rw [step_handOver records]
        simp only [RecordingSink.answer_eq]
        cases accepts : sink.accepts ⟨entry.descriptor, results, load.clock now⟩ with
        | false =>
          refine ⟨rfl, ?_⟩
          simp [acceptedRows, conclude, Deed.batch?, accepts]
          rfl
        | true =>
          refine ⟨rfl, ?_⟩
          simp [acceptedRows, conclude, Deed.batch?, accepts]
          rfl

end Task

namespace Load.State

variable {load : Load} {s : State} {sink : RecordingSink}

/-- The batches that were handed over, in the order in which they were. -/
def handed (s : State) : List Batch :=
  s.deeds.filterMap (·.2.batch?)

theorem filterMap_cons_toList {α β : Type} (f : α → Option β) (a : α) (l : List α) :
    (a :: l).filterMap f = (f a).toList ++ l.filterMap f := by
  cases found : f a <;> simp [found]

/-- What a load into a recording sink has delivered is what the sink has gained from it. -/
structure Settling (sink : RecordingSink) (s : State) : Prop where
  idle : ∀ t ∈ s.tasks, t.isDelivering = false
  delivered : (Task.acceptedRows sink (s.deeds.map Prod.snd)).Perm (s.tasks.filterMap Task.delivered?)

theorem Settling.moved (h : Settling sink s) (records : load.RecordsIn sink) {number : Nat} {t : Task}
    (found : s.tasks[number]? = some t) :
    Settling sink (s.moved number t (t.step load s.now number s.elapsed).1
      (t.step load s.now number s.elapsed).2) := by
  obtain ⟨idle, more⟩ := Task.step_idle records s.now number s.elapsed
    (h.idle t (List.mem_of_getElem? found))
  refine ⟨fun u member => ?_, ?_⟩
  · rcases List.mem_or_eq_of_mem_set member with before | rfl
    · exact h.idle u before
    · exact idle
  · obtain ⟨before, after, apart, set⟩ := exists_append_cons found
    have delivered := (h.delivered.append_right _).trans (.of_eq (congrArg (· ++ Task.acceptedRows sink
      (t.step load s.now number s.elapsed).2) (congrArg _ apart)))
    have passed : ((s.moved number t (t.step load s.now number s.elapsed).1
        (t.step load s.now number s.elapsed).2).deeds.map Prod.snd) =
        s.deeds.map Prod.snd ++ (t.step load s.now number s.elapsed).2 := by
      simp [State.moved, Function.comp_def]
    rw [passed, Task.acceptedRows_append]
    refine delivered.trans ?_
    -- What is new stands at the end on the one side, and at the place of the task on the other.
    simp only [State.moved, set, List.filterMap_append, filterMap_cons_toList, ← more, List.append_assoc]
    exact (List.perm_append_comm.append_left _).append_left _

theorem Settling.recorded (h : Settling sink s) (sound : Sound load s) {number : Nat}
    {entry : Entry Provider} {ending : Ending}
    (found : s.tasks[number]? = some ⟨entry, .ended ending⟩) :
    Settling sink (s.recorded number entry ending) := by
  rw [sound.recorded_eq found]
  refine ⟨fun u member => ?_, ?_⟩
  · rcases List.mem_or_eq_of_mem_set member with before | rfl
    · exact h.idle u before
    · rfl
  · obtain ⟨before, after, apart, set⟩ := exists_append_cons found
    have delivered := h.delivered
    rw [apart] at delivered
    simp only [set]
    rwa [List.filterMap_append, filterMap_cons_toList] at delivered ⊢

theorem Settling.start (h : Settling sink s) (sound : Sound load s) (phase : s.phase = .discovering)
    (entries : List (Entry Provider)) : Settling sink (s.start load entries) := by
  obtain ⟨inFlight, same, _⟩ := start_eq load (sound.discovering phase).1 entries
  have delivered := h.delivered
  rw [(sound.discovering phase).1] at delivered
  rw [same]
  refine ⟨fun t member => ?_, delivered.trans (.of_eq ?_)⟩
  · obtain ⟨entry, _, rfl⟩ := List.mem_map.mp member
    rfl
  · rw [List.filterMap_map]
    exact (List.filterMap_eq_nil_iff.mpr fun _ _ => rfl).symm

theorem settling_follow (records : load.RecordsIn sink) (schedule : List Move) :
    Settling sink (load.after schedule) := by
  have initial : Settling sink {} := ⟨fun _ member => (nomatch member), .nil⟩
  refine sound_induction initial (fun s move s' sound h effect => ?_) schedule
  cases effect with
  | stay => exact h
  | wait | fail | timeOut | cancel | close => exact ⟨h.idle, h.delivered⟩
  | start phase => exact h.start sound phase _
  | step _ found => exact h.moved records found
  | join _ found => exact h.recorded sound found

/-- **What a recording sink gains from a finished load is what the report says was delivered.** -/
theorem gained_perm (records : load.RecordsIn sink)
    {schedule : List Move} (finished : (load.after schedule).phase = .finished) :
    (((load.after schedule).handed.filter sink.accepts).map Batch.row).Perm
      ((load.after schedule).rows.filter (·.outcome.isDelivered)) := by
  have sound := sound_follow load schedule
  have delivered := (settling_follow records schedule).delivered
  generalize load.after schedule = s at finished sound delivered ⊢
  have joined : (s.tasks.filterMap Task.row?).filter (·.outcome.isDelivered) =
      s.tasks.filterMap Task.delivered? := by
    rw [List.filter_filterMap]
    refine List.filterMap_congr fun t member => ?_
    have joined := List.countP_eq_zero.mp (sound.finished finished) t member
    obtain ⟨entry, stage⟩ := t
    cases stage with
    | joined => rfl
    | resting | querying | delivering | ended => exact absurd rfl joined
  rw [Task.acceptedRows, List.filterMap_map] at delivered
  exact delivered.trans ((sound.rows.filter _).trans (.of_eq joined)).symm

/-- **The report and the sink agree.** At any time, at most one batch has been handed over for an
entry, and if so a whole one.  In the end, the outcome of every entry tells what the sink has
answered to its batch, and a recording sink has gained the batches of the delivered rows. -/
theorem report_agrees_with_sink (load : Load) (schedule : List Move) :
    let s := load.after schedule
    (∀ entries, load.discovered = .ok entries → ∀ number entry, entries[number]? = some entry →
      Task.Delivery load number entry ((s.history number).map Prod.snd)) ∧
    (s.phase = .finished →
      (s.discoveryError = none → ∃ (entries : List (Entry Provider)) (outcomes : List Outcome),
        load.discovered = .ok entries ∧ outcomes.length = entries.length ∧
        (s.report load).providers.Perm (Report.rowsOf entries outcomes) ∧
        ∀ number entry outcome, entries[number]? = some entry → outcomes[number]? = some outcome →
          Task.Agrees load number entry outcome ((s.history number).map Prod.snd)) ∧
      ∀ sink : RecordingSink, load.RecordsIn sink → ∃ gained,
          s.handed.foldl RecordingSink.take sink =
            { sink with batches := sink.batches ++ gained } ∧
          (gained.map Batch.row).Perm ((s.report load).providers.filter (·.outcome.isDelivered))) := by
  refine ⟨fun entries listed number entry here => ?_,
    fun finished => ⟨fun fine => ?_, fun sink records => ?_⟩⟩
  · cases found : (load.after schedule).tasks[number]? with
    | none =>
      rw [(courses_follow load schedule).absent number found]
      exact ⟨Nat.zero_le _, fun _ handed => by cases handed⟩
    | some t =>
      obtain rfl := Option.some.inj (here.symm.trans
        ((sound_follow load schedule).getElem?_entries listed found))
      exact (course_follow load schedule found).delivery
  · obtain ⟨entries, outcomes, listed, length, rows, ended⟩ :=
      (sound_follow load schedule).exists_outcomes finished fine
    refine ⟨entries, outcomes, listed, length, rows, fun number entry outcome here told => ?_⟩
    obtain ⟨ending, same, found⟩ := ended number entry here
    obtain rfl := Option.some.inj (told.symm.trans same)
    exact ((course_follow load schedule found).ends rfl).agrees
  · exact ⟨_, RecordingSink.foldl_take sink _, gained_perm records finished⟩

/-- Where one provider breaks down and one is cut off, the sink gains the batch of the third. -/
theorem report_agrees_with_sink_mixed :
    (mixed.after mixedMoves).phase = .finished ∧
      ∃ gained, (mixed.after mixedMoves).handed.foldl RecordingSink.take {} =
          { batches := gained } ∧
        (gained.map Batch.row).Perm [⟨quick.descriptor, .delivered 1⟩] := by
  have finished : (mixed.after mixedMoves).phase = .finished := by decide
  obtain ⟨gained, taken, rows⟩ :=
    ((report_agrees_with_sink mixed mixedMoves).2 finished).2 {} fun _ _ => rfl
  have delivered : ((mixed.after mixedMoves).report mixed).providers.filter
      (·.outcome.isDelivered) = [⟨quick.descriptor, .delivered 1⟩] := by decide +kernel
  exact ⟨finished, gained, taken, rows.trans (.of_eq delivered)⟩

end Load.State

end Environments
