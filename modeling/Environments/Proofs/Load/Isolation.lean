import Environments.Proofs.Load.Delivery
import Environments.Proofs.Load.OnTime

/-!
# Providers do not disturb each other

`isolation` compares two loads that have one provider in common and nothing else: neither the
number nor the order of the other providers, nor how these behave.  As long as the two loads start
alike, and no answer of the common provider falls on the deadline, that provider gets the same
calls at the same times, and has the same batch recorded and the same outcome reported.

The reason is that both are settled by the same timetable.  `Settled.inTask` carries what is
settled in one load over to the other, where the task has another number; `Settled.unique` says
that the timetable leaves no choice where nothing falls on the deadline.
-/

namespace Environments

/-- The same deed as part of a task with another number. -/
def Deed.inTask (number : Nat) : Deed → Deed
  | asked => asked
  | called _ developer options => called number developer options
  | answered _ developer answer => answered number developer answer
  | handed _ batch => handed number batch
  | accepted _ batch => accepted number batch
  | refused _ batch error => refused number batch error
  | spoiled _ batch message => spoiled number batch message

/-- The same deeds, at the same times, as part of a task with another number. -/
def Deed.allInTask (number : Nat) (history : List (Nat × Deed)) : List (Nat × Deed) :=
  history.map fun deed => (deed.1, deed.2.inTask number)

theorem Deed.allInTask_append (number : Nat) (first later : List (Nat × Deed)) :
    allInTask number (first ++ later) = allInTask number first ++ allInTask number later :=
  List.map_append

theorem Deed.inTask_ofDelivery (m n : Nat) (batch : Batch) (answer : Answer (Except SinkError Unit)) :
    (ofDelivery m batch answer).inTask n = ofDelivery n batch answer := by
  rcases answer with (error | accepted) | message <;> rfl

namespace Load

/-- Two loads that do not differ for the provider of an entry. -/
structure Alike (first second : Load) (entry : Entry Provider) : Prop where
  startedAt : first.startedAt = second.startedAt
  ticks : first.ticks = second.ticks
  config : first.config = second.config
  discoveryLatency : first.discoveryLatency = second.discoveryLatency
  sink : ∀ m n batch, batch.provider = entry.descriptor → first.sink m batch = second.sink n batch

/-! ### One timetable for both loads -/

section Alike

variable {first second : Load} {entry : Entry Provider} (alike : first.Alike second entry)

include alike

theorem Alike.symm : second.Alike first entry :=
  ⟨alike.startedAt.symm, alike.ticks.symm, alike.config.symm, alike.discoveryLatency.symm,
    fun m n batch provider => (alike.sink n m batch provider).symm⟩

theorem Alike.cutoff : first.cutoff = second.cutoff := by
  rw [Load.cutoff, Load.cutoff, alike.config, alike.ticks]

theorem Alike.query? : first.query? entry = second.query? entry := by
  funext index
  rw [Load.query?, Load.query?, alike.config]

theorem Alike.failure? : first.failure? entry = second.failure? entry := by
  unfold Load.failure? Load.failureAt?
  rw [alike.query?]

theorem Alike.goodAnswers : first.goodAnswers entry = second.goodAnswers entry := by
  rw [Load.goodAnswers, Load.goodAnswers, alike.failure?]

theorem Alike.answerTime : first.answerTime entry = second.answerTime entry := by
  funext count
  induction count with
  | zero => exact alike.discoveryLatency
  | succ count ih => rw [Load.answerTime, Load.answerTime, ih, Load.latency, Load.latency, alike.query?]

theorem Alike.handOverTime : first.handOverTime entry = second.handOverTime entry :=
  congrFun alike.answerTime _

theorem Alike.batch : first.batch entry = second.batch entry := by
  unfold Load.batch Load.firstResults Load.result? Load.clock
  rw [alike.query?, alike.startedAt, alike.answerTime]

theorem Alike.delivery (m n : Nat) : first.delivery entry m = second.delivery entry n := by
  rw [Load.delivery, Load.delivery, ← alike.batch]
  exact alike.sink m n _ rfl

theorem Alike.naturalEnd (m n : Nat) : first.naturalEnd entry m = second.naturalEnd entry n := by
  unfold Load.naturalEnd
  rw [alike.failure?, alike.answerTime, alike.handOverTime, alike.delivery m n]

theorem Alike.firstExchanges (m n count : Nat) :
    Deed.allInTask n (first.firstExchanges entry m count) = second.firstExchanges entry n count := by
  rw [Deed.allInTask, Load.firstExchanges, Load.firstExchanges, List.map_flatMap]
  refine congrArg (List.flatMap · _) (funext fun index => ?_)
  rw [Load.exchangeAt, Load.exchangeAt, alike.query?, alike.answerTime, alike.config]
  cases second.query? entry index <;> rfl

theorem Alike.naturalHistory (m n : Nat) :
    Deed.allInTask n (first.naturalHistory entry m) = second.naturalHistory entry n := by
  unfold Load.naturalHistory
  rw [alike.failure?]
  cases second.failure? entry with
  | some failed => exact alike.firstExchanges m n _
  | none =>
    rw [Deed.allInTask_append, alike.firstExchanges m n, alike.handOverTime, alike.batch,
      alike.delivery m n]
    simp only [Deed.allInTask, List.map_cons, List.map_nil, Deed.inTask_ofDelivery]
    rfl

theorem Settled.inTask {m n : Nat} {outcome : Outcome} {history : List (Nat × Deed)}
    (h : first.Settled entry m outcome history) :
    second.Settled entry n outcome (Deed.allInTask n history) := by
  cases h with
  | natural running in_time =>
    rw [alike.naturalEnd m n, alike.naturalHistory m n]
    rw [alike.naturalEnd m n, alike.cutoff] at in_time
    rw [alike.discoveryLatency, alike.cutoff] at running
    exact .natural running in_time
  | cutResting good at_time =>
    rw [alike.firstExchanges m n]
    rw [alike.goodAnswers] at good
    rw [alike.answerTime, alike.cutoff] at at_time
    exact .cutResting good at_time
  | cutQuerying good query running called due =>
    rw [Deed.allInTask_append, alike.firstExchanges m n]
    rw [alike.goodAnswers] at good
    rw [alike.query?] at query
    rw [alike.discoveryLatency, alike.cutoff] at running
    rw [alike.answerTime, alike.cutoff] at called due
    have cut : second.Settled entry n _ _ := .cutQuerying good query running called due
    rwa [← alike.answerTime, ← alike.config] at cut
  | cutDelivering whole running handed due =>
    rw [Deed.allInTask_append, alike.firstExchanges m n]
    rw [alike.failure?] at whole
    rw [alike.discoveryLatency, alike.cutoff] at running
    rw [alike.handOverTime, alike.cutoff] at handed due
    rw [alike.delivery m n] at due
    have cut : second.Settled entry n _ _ := .cutDelivering whole running handed due
    rwa [← alike.handOverTime, ← alike.batch] at cut

end Alike

/-! ### No choice off the deadline -/

section OffCutoff

variable {load : Load} {entry : Entry Provider} {number : Nat}

/-- No answer to the queries of an entry falls on the deadline. -/
def OffCutoff (load : Load) (entry : Entry Provider) : Prop :=
  ∀ index < entry.developers.length, index ≤ load.goodAnswers entry →
    load.answerTime entry (index + 1) ≠ load.cutoff

instance (load : Load) (entry : Entry Provider) : Decidable (load.OffCutoff entry) :=
  inferInstanceAs (Decidable (∀ index < entry.developers.length, index ≤ load.goodAnswers entry →
    load.answerTime entry (index + 1) ≠ load.cutoff))

theorem OffCutoff.answerTime_ne (off : load.OffCutoff entry)
    (early : load.discoveryLatency < load.cutoff) {index : Nat}
    (good : index ≤ load.goodAnswers entry) :
    load.answerTime entry index ≠ load.cutoff := by
  cases index with
  | zero => exact Nat.ne_of_lt early
  | succ index =>
    exact off index (Nat.lt_of_lt_of_le good goodAnswers_le) (Nat.le_of_succ_le good)

/-- **How an entry ends whose answers do not fall on the deadline**, if the sink answers at once.
-/
theorem Settled.off_cutoff {outcome : Outcome} {history : List (Nat × Deed)}
    (h : load.Settled entry number outcome history) (off : load.OffCutoff entry)
    (at_once : (load.delivery entry number).after = 0) :
    (load.discoveryLatency < load.cutoff ∧ (load.naturalEnd entry number).1 ≤ load.cutoff ∧
      outcome = (load.naturalEnd entry number).2 ∧ history = load.naturalHistory entry number) ∨
    (∃ index developer reply, load.query? entry index = some (developer, reply) ∧
      load.discoveryLatency < load.cutoff ∧ load.cutoff < (load.naturalEnd entry number).1 ∧
      load.answerTime entry index < load.cutoff ∧ load.cutoff < load.answerTime entry (index + 1) ∧
      outcome = .cancelled index ∧ history = load.firstExchanges entry number index ++
        [(load.answerTime entry index, .called number developer load.config.options)]) ∨
    (load.discoveryLatency = load.cutoff ∧ outcome = .cancelled 0 ∧ history = []) := by
  cases h with
  | natural running in_time => exact Or.inl ⟨running, in_time, rfl, rfl⟩
  | @cutResting index good at_time =>
    cases index with
    | zero => exact Or.inr (Or.inr ⟨at_time, rfl, rfl⟩)
    | succ index =>
      have inside : index < entry.developers.length := Nat.lt_of_lt_of_le good goodAnswers_le
      exact absurd at_time (off index inside (Nat.le_of_succ_le good))
  | @cutQuerying index developer reply good query running called due =>
    have inside := lt_length_of_query? query
    have called := Nat.lt_of_le_of_ne called (off.answerTime_ne running good)
    have due := Nat.lt_of_le_of_ne due (Ne.symm (off index inside good))
    have late := Nat.lt_of_lt_of_le due (answerTime_succ_le_naturalEnd number good inside)
    exact Or.inr (Or.inl ⟨index, developer, reply, query, running, late, called, due, rfl, rfl⟩)
  | cutDelivering whole running handed due =>
    rw [at_once, Nat.add_zero] at due
    refine absurd (Nat.le_antisymm handed due) (off.answerTime_ne running ?_)
    exact Nat.le_of_eq (goodAnswers_of_none whole).symm

/-- **The timetable leaves no choice** where no answer falls on the deadline. -/
theorem Settled.unique {outcome outcome' : Outcome} {history history' : List (Nat × Deed)}
    (h : load.Settled entry number outcome history) (h' : load.Settled entry number outcome' history')
    (off : load.OffCutoff entry) (at_once : (load.delivery entry number).after = 0) :
    outcome = outcome' ∧ history = history' := by
  rcases h.off_cutoff off at_once with ⟨early, in_time, rfl, rfl⟩ |
      ⟨index, developer, reply, query, early, late, called, due, rfl, rfl⟩ | ⟨late, rfl, rfl⟩ <;>
    rcases h'.off_cutoff off at_once with ⟨early', in_time', rfl, rfl⟩ |
      ⟨index', developer', reply', query', early', late', called', due', rfl, rfl⟩ | ⟨late', rfl, rfl⟩
  · exact ⟨rfl, rfl⟩
  · omega
  · omega
  · omega
  · have same : index = index' := by
      -- Both are the number of answers before the deadline.
      rcases Nat.lt_trichotomy index index' with less | same | more
      · have : load.answerTime entry (index + 1) ≤ load.answerTime entry index' := answerTime_mono less
        omega
      · exact same
      · have : load.answerTime entry (index' + 1) ≤ load.answerTime entry index := answerTime_mono more
        omega
    subst same
    obtain ⟨rfl, rfl⟩ := Prod.mk.inj (Option.some.inj (query.symm.trans query'))
    exact ⟨rfl, rfl⟩
  · omega
  · omega
  · omega
  · exact ⟨rfl, rfl⟩

end OffCutoff

/-! ### What a load shows of one provider -/

namespace State

variable {load : Load} {entry : Entry Provider} {before after : List (Entry Provider)}

/-- When, for which account and with which options a provider is called. -/
def call? : Nat × Deed → Option (Nat × Developer × String)
  | (time, .called _ developer options) => some (time, developer, options)
  | _ => none

theorem filterMap_call?_inTask (number : Nat) (history : List (Nat × Deed)) :
    (Deed.allInTask number history).filterMap call? = history.filterMap call? := by
  rw [Deed.allInTask, List.filterMap_map]
  refine List.filterMap_congr fun deed _ => ?_
  obtain ⟨time, deed⟩ := deed
  cases deed <;> rfl

theorem filterMap_batch?_inTask (number : Nat) (history : List (Nat × Deed)) :
    (Deed.allInTask number history).filterMap (·.2.batch?) = history.filterMap (·.2.batch?) := by
  rw [Deed.allInTask, List.filterMap_map]
  refine List.filterMap_congr fun deed _ => ?_
  obtain ⟨time, deed⟩ := deed
  cases deed <;> rfl

/-- **The batches that are handed over for a provider with one entry are those of its task.** -/
theorem filter_handed (listed : load.discovered = .ok (before ++ entry :: after))
    (others : ∀ other ∈ before ++ after, other.id ≠ entry.id) (schedule : List Move) :
    (load.after schedule).handed.filter (·.provider.id = entry.id) =
      ((load.after schedule).history before.length).filterMap (·.2.batch?) := by
  rw [handed, history, List.filter_filterMap, List.filterMap_filter]
  refine List.filterMap_congr fun deed passed => ?_
  obtain ⟨time, deed⟩ := deed
  cases deed with
  | asked | called | answered | accepted | refused | spoiled => simp [Deed.batch?]
  | handed number batch =>
    obtain ⟨t, found⟩ := exists_task_of_mem_deeds load schedule passed rfl
    have here := (sound_follow load schedule).getElem?_entries listed found
    have provider : batch.provider = t.entry.descriptor := by
      refine ((course_follow load schedule found).delivery.whole batch ?_).1
      exact List.mem_filterMap.mpr ⟨_, List.mem_map_of_mem (mem_history passed rfl), rfl⟩
    have own : batch.provider.id = entry.id ↔ number = before.length := by
      rw [provider]
      constructor
      · intro same
        by_contra other
        refine others t.entry (List.mem_append.mpr ?_) same
        rcases Nat.lt_trichotomy number before.length with less | equal | more
        · rw [List.getElem?_append_left less] at here
          exact Or.inl (List.mem_of_getElem? here)
        · exact absurd equal other
        · rw [List.getElem?_append_right (Nat.le_of_lt more), List.getElem?_cons,
            if_neg (by omega)] at here
          exact Or.inr (List.mem_of_getElem? here)
      · rintro rfl
        rw [List.getElem?_append_right (Nat.le_refl _), Nat.sub_self] at here
        rw [← Option.some.inj here]
        rfl
    by_cases same : number = before.length
    · simp [Deed.batch?, Deed.task?, own.mpr same, same]
    · simp [Deed.batch?, Deed.task?, mt own.mp same, same]

/-- **What a finished load shows of a provider with one entry**: what the timetable settles for it,
or nothing if the providers were not listed by the deadline. -/
theorem settled_or_unlisted (listed : load.discovered = .ok (before ++ entry :: after))
    (others : ∀ other ∈ before ++ after, other.id ≠ entry.id) {schedule : List Move}
    (punctual : load.Punctual schedule)
    (finished : (load.after schedule).phase = .finished) :
    (load.discoveryLatency ≤ load.cutoff ∧ ∃ outcome,
      load.Settled entry before.length outcome
        ((load.after schedule).history before.length) ∧
      ((load.after schedule).report load).outcomeFor? entry.id = some outcome) ∨
    (load.cutoff < load.discoveryLatency ∧
      (load.after schedule).history before.length = [] ∧
      ((load.after schedule).report load).outcomeFor? entry.id = none) := by
  rcases Nat.lt_or_ge load.cutoff load.discoveryLatency with late | early
  · have none := tasks_eq_nil late punctual
    have rows := (sound_follow load schedule).rows
    rw [none, List.filterMap_nil, List.perm_nil] at rows
    refine Or.inr ⟨late, (courses_follow load schedule).absent _ (by rw [none]; rfl), ?_⟩
    rw [Report.outcomeFor?, State.report, rows]
    rfl
  · obtain ⟨ending, told, found⟩ := (sound_follow load schedule).exists_outcomeFor? finished
      (discoveryError_eq_none listed early punctual) listed others
    exact Or.inl ⟨early, ending.outcome, settled_follow punctual found, told⟩

/-- **Providers do not disturb each other.** Two loads that start alike and come to the listing of
the providers alike, into recording sinks that treat one provider alike, have a single entry for it
in common.  Unless an answer of that provider falls on the deadline, both loads report the same
outcome for it, make the same calls to it at the same times, and leave the same batches of it in
their sinks, whatever the other entries are and in whichever order things happened. -/
theorem isolation {first second : Load} {sink₁ sink₂ : RecordingSink} {entry : Entry Provider}
    {before₁ after₁ before₂ after₂ : List (Entry Provider)} {schedule₁ schedule₂ : List Move}
    (config : first.config = second.config) (startedAt : first.startedAt = second.startedAt)
    (ticks : first.ticks = second.ticks)
    (discoveryLatency : first.discoveryLatency = second.discoveryLatency)
    (records₁ : first.RecordsIn sink₁) (records₂ : second.RecordsIn sink₂)
    (refused : entry.id ∈ sink₁.refused ↔ entry.id ∈ sink₂.refused)
    (listed₁ : first.discovered = .ok (before₁ ++ entry :: after₁))
    (listed₂ : second.discovered = .ok (before₂ ++ entry :: after₂))
    (others₁ : ∀ other ∈ before₁ ++ after₁, other.id ≠ entry.id)
    (others₂ : ∀ other ∈ before₂ ++ after₂, other.id ≠ entry.id)
    (off : first.OffCutoff entry)
    (punctual₁ : first.Punctual schedule₁)
    (punctual₂ : second.Punctual schedule₂)
    (finished₁ : (first.after schedule₁).phase = .finished)
    (finished₂ : (second.after schedule₂).phase = .finished) :
    ((first.after schedule₁).report first).outcomeFor? entry.id =
      ((second.after schedule₂).report second).outcomeFor? entry.id ∧
    ((first.after schedule₁).history before₁.length).filterMap call? =
      ((second.after schedule₂).history before₂.length).filterMap call? ∧
    ∃ gained₁ gained₂,
      (first.after schedule₁).handed.foldl RecordingSink.take sink₁ =
        { sink₁ with batches := sink₁.batches ++ gained₁ } ∧
      (second.after schedule₂).handed.foldl RecordingSink.take sink₂ =
        { sink₂ with batches := sink₂.batches ++ gained₂ } ∧
      gained₁.filter (·.provider.id = entry.id) = gained₂.filter (·.provider.id = entry.id) := by
  have alike : first.Alike second entry := by
    refine ⟨startedAt, ticks, config, discoveryLatency, fun m n batch provider => ?_⟩
    have refused : entry.descriptor.id ∈ sink₁.refused ↔ entry.descriptor.id ∈ sink₂.refused := refused
    rw [records₁, records₂]
    simp only [Sink.reply, RecordingSink.answer, provider, refused]
  -- Nothing but the number of its task tells the provider in one load from that in the other.
  have same : ((first.after schedule₁).report first).outcomeFor? entry.id =
        ((second.after schedule₂).report second).outcomeFor? entry.id ∧
      Deed.allInTask before₁.length ((second.after schedule₂).history before₂.length) =
        (first.after schedule₁).history before₁.length := by
    rcases settled_or_unlisted listed₁ others₁ punctual₁ finished₁ with
        ⟨early₁, outcome₁, settled₁, told₁⟩ | ⟨late₁, none₁, told₁⟩ <;>
      rcases settled_or_unlisted listed₂ others₂ punctual₂ finished₂ with
        ⟨early₂, outcome₂, settled₂, told₂⟩ | ⟨late₂, none₂, told₂⟩
    · have at_once : (first.delivery entry before₁.length).after = 0 := by
        rw [Load.delivery, records₁]
        rfl
      obtain ⟨rfl, history⟩ := (settled₂.inTask alike.symm).unique settled₁ off at_once
      exact ⟨told₁.trans told₂.symm, history⟩
    · rw [alike.cutoff, discoveryLatency] at early₁
      omega
    · rw [alike.cutoff, discoveryLatency] at late₁
      omega
    · rw [told₁, told₂, none₁, none₂]
      exact ⟨rfl, rfl⟩
  refine ⟨same.1, ?_, _, _, RecordingSink.foldl_take _ _, RecordingSink.foldl_take _ _, ?_⟩
  · rw [← same.2, filterMap_call?_inTask]
  · rw [List.filter_comm, filter_handed listed₁ others₁, List.filter_comm,
      filter_handed listed₂ others₂, ← same.2, filterMap_batch?_inTask,
      ← filter_handed listed₂ others₂]
    refine List.filter_congr fun batch member => ?_
    have provider : batch.provider.id = entry.id := by simpa using (List.mem_filter.mp member).2
    simp [RecordingSink.accepts, provider, refused]

/-- A load in which there is no other provider than the quick one. -/
def alone : Load := .small [quick] { refused := [⟨"slow"⟩] }

def aloneMoves : List Move :=
  [.wait 2, .discover, .step 0, .wait 3, .step 0, .step 0, .join 0, .finish]

/-- A provider fares alike by itself, and between one that breaks down and one that is cut off. -/
theorem isolation_mixed :
    mixed.OffCutoff quick ∧
      mixed.Punctual mixedMoves ∧ alone.Punctual aloneMoves ∧
      (mixed.after mixedMoves).phase = .finished ∧
      (alone.after aloneMoves).phase = .finished ∧
      ((mixed.after mixedMoves).report mixed).outcomeFor? quick.id =
        ((alone.after aloneMoves).report alone).outcomeFor? quick.id := by
  have off : mixed.OffCutoff quick := by decide +kernel
  have punctual₁ : mixed.Punctual mixedMoves := by decide +kernel
  have punctual₂ : alone.Punctual aloneMoves := by decide +kernel
  have finished₁ : (mixed.after mixedMoves).phase = .finished := by decide
  have finished₂ : (alone.after aloneMoves).phase = .finished := by decide
  have listed₁ : mixed.discovered = .ok ([broken] ++ quick :: [slow]) := rfl
  have listed₂ : alone.discovered = .ok ([] ++ quick :: []) := rfl
  have shown := isolation (by rfl) (by rfl) (by rfl) (by rfl) (fun _ _ => rfl) (fun _ _ => rfl)
    (by decide) listed₁ listed₂ (by decide) (by decide) off punctual₁ punctual₂ finished₁ finished₂
  exact ⟨off, punctual₁, punctual₂, finished₁, finished₂, shown.1⟩

end State

end Load

end Environments
