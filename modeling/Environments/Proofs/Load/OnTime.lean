import Environments.Proofs.Load.Punctual
import Environments.Proofs.Load.Timetable

/-!
# Tasks keep to the timetable

Under a punctual schedule a task is where its timetable says, whatever the other tasks do.
`Task.OnTime` says for every stage when a task can be there, and what has passed until then and
when.  Every event in the course of a task keeps it on time (`OnTime.advance`), and so does a wait
that does not go past what the task waits for (`OnTime.wait`). `settled_follow` draws the sum: in a
finished load every entry has ended as `Load.Settled` says.
-/

namespace Environments

namespace Task

variable {load : Load} {entry : Entry Provider} {number now : Nat}

/-- **Where a task stands at a time, by its timetable**, with all that has passed. -/
inductive OnTime (load : Load) (entry : Entry Provider) (number now : Nat) :
    Stage → List (Nat × Deed) → Prop
  | resting {index results rest history} : index ≤ load.goodAnswers entry →
      results = load.firstResults entry index → rest = entry.developers.drop index →
      now = load.answerTime entry index → history = load.firstExchanges entry number index →
      OnTime load entry number now (.resting index results rest) history
  | querying {index results developer rest after answer due history} :
      index ≤ load.goodAnswers entry → results = load.firstResults entry index →
      rest = entry.developers.drop (index + 1) →
      load.query? entry index = some (developer, ⟨after, answer⟩) →
      due = load.answerTime entry (index + 1) → load.discoveryLatency < load.cutoff →
      load.answerTime entry index ≤ now → now ≤ due →
      history = load.firstExchanges entry number index ++
        [(load.answerTime entry index, .called number developer load.config.options)] →
      OnTime load entry number now (.querying index results developer rest due answer) history
  | delivering {batch due answer history} : load.failure? entry = none → batch = load.batch entry →
      due = load.handOverTime entry + (load.delivery entry number).after →
      answer = (load.delivery entry number).answer → load.discoveryLatency < load.cutoff →
      load.handOverTime entry ≤ now → now ≤ due →
      history = load.firstExchanges entry number entry.developers.length ++
        [(load.handOverTime entry, .handed number (load.batch entry))] →
      OnTime load entry number now (.delivering batch due answer) history
  | ended {ending history} : load.Settled entry number ending.outcome history →
      OnTime load entry number now (.ended ending) history
  | joined {ending history} : load.Settled entry number ending.outcome history →
      OnTime load entry number now (.joined ending) history

theorem OnTime.start (h : now = load.discoveryLatency) :
    OnTime load entry number now (.resting 0 [] entry.developers) [] :=
  .resting (Nat.zero_le _) rfl rfl h rfl

/-- **A task stays on time while time passes that it has to wait.** -/
theorem OnTime.wait {stage : Stage} {history : List (Nat × Deed)} {later : Nat}
    (h : OnTime load entry number now stage history) (passes : now ≤ later)
    (waits : stage.isJoined = true ∨ ∃ due, stage.due? = some due ∧ later ≤ due) :
    OnTime load entry number later stage history := by
  cases h with
  | resting | ended => rcases waits with joined | ⟨due, waiting, _⟩ <;> contradiction
  | joined settled => exact .joined settled
  | querying good results rest query due running called _ passed =>
    rcases waits with joined | ⟨time, waiting, early⟩
    · cases joined
    · obtain rfl := Option.some.inj waiting
      exact .querying good results rest query due running (Nat.le_trans called passes) early passed
  | delivering whole batch due answer running handed _ passed =>
    rcases waits with joined | ⟨time, waiting, early⟩
    · cases joined
    · obtain rfl := Option.some.inj waiting
      exact .delivering whole batch due answer running (Nat.le_trans handed passes) early passed

theorem OnTime.call {index : Nat} {results : List IdentityResult} {developer : Developer}
    {rest : List Developer} {history : List (Nat × Deed)}
    (h : OnTime load entry number now (.resting index results (developer :: rest)) history)
    (running : load.discoveryLatency < load.cutoff) :
    OnTime load entry number now
      (.querying index results developer rest
        (now + (entry.provider.query index developer load.config.options).after)
        (entry.provider.query index developer load.config.options).answer)
      (history ++ [(now, .called number developer load.config.options)]) := by
  cases h with
  | resting good results left at_time passed =>
    have here : entry.developers[index]? = some developer := by
      rw [← List.head?_drop, ← left]
      rfl
    have query : load.query? entry index =
        some (developer, entry.provider.query index developer load.config.options) := by
      rw [Load.query?, here]
      rfl
    refine .querying good results ?_ query ?_ running (Nat.le_of_eq at_time.symm)
      (Nat.le_add_right _ _) (by rw [passed, at_time])
    · rw [← List.tail_drop, ← left]
      rfl
    · rw [Load.answerTime_succ query, at_time]

theorem OnTime.handOver {index : Nat} {results : List IdentityResult} {history : List (Nat × Deed)}
    (h : OnTime load entry number now (.resting index results []) history)
    (running : load.discoveryLatency < load.cutoff) :
    OnTime load entry number now
      (.delivering ⟨entry.descriptor, results, load.clock now⟩
        (now + (load.sink number ⟨entry.descriptor, results, load.clock now⟩).after)
        (load.sink number ⟨entry.descriptor, results, load.clock now⟩).answer)
      (history ++ [(now, .handed number ⟨entry.descriptor, results, load.clock now⟩)]) := by
  cases h with
  | resting good same left at_time passed =>
    have all : entry.developers.length ≤ index := List.drop_eq_nil_iff.mp left.symm
    have whole : load.failure? entry = none := Load.failure?_eq_none (Nat.le_trans all good)
    obtain rfl : index = entry.developers.length :=
      Nat.le_antisymm (Nat.le_trans good Load.goodAnswers_le) all
    have batch : (⟨entry.descriptor, results, load.clock now⟩ : Batch) = load.batch entry := by
      rw [Load.batch, same, at_time]
    rw [batch]
    exact .delivering whole rfl (by rw [at_time]; rfl) rfl running (Nat.le_of_eq at_time.symm)
      (Nat.le_add_right _ _) (by rw [passed, at_time]; rfl)

theorem OnTime.collect {index : Nat} {results : List IdentityResult} {developer : Developer}
    {rest : List Developer} {due : Nat} {answer : Answer (Except QueryError QueryResult)}
    {history : List (Nat × Deed)}
    (h : OnTime load entry number now (.querying index results developer rest due answer) history)
    (arrived : due ≤ now) (before : now ≤ load.cutoff) :
    OnTime load entry number now (Task.collect load number entry index results developer rest answer)
      (history ++ [(now, .answered number developer answer)]) := by
  cases h with
  | querying good same left query due' running _ early passed =>
    -- The answer is not taken late, since no time has passed while the task was ready.
    have at_time : now = load.answerTime entry (index + 1) := by omega
    have exchanged : history ++ [(now, .answered number developer answer)] =
        load.firstExchanges entry number (index + 1) := by
      rw [passed, at_time, Load.firstExchanges_succ query, List.append_assoc]
      rfl
    rw [exchanged]
    match answer with
    | .returned (.ok result) =>
      have answered : load.result? entry index = some ⟨developer, result⟩ := by
        simp [Load.result?, query]
      exact .resting (Load.lt_goodAnswers good answered) (by rw [same, Load.firstResults_succ answered])
        left at_time rfl
    | .returned (.error error) =>
      have failed : load.failureAt? entry index =
          some (.queryFailed index developer error.message) := by
        simp [Load.failureAt?, query]
      exact .ended (.of_failure good failed running (by omega))
    | .brokeDown message =>
      have failed : load.failureAt? entry index = some (.aborted (breakdownReport message)) := by
        simp [Load.failureAt?, query]
      exact .ended (.of_failure good failed running (by omega))

theorem exists_conclude_eq (load : Load) (number : Nat) (entry : Entry Provider) (batch : Batch)
    (answer : Answer (Except SinkError Unit)) :
    ∃ ending, Task.conclude load number entry batch answer =
        (.ended ending, [.ofDelivery number batch answer]) ∧
      ending.outcome = .ofDelivery batch.results.length answer := by
  rcases answer with (error | accepted) | message <;> exact ⟨_, rfl, rfl⟩

theorem OnTime.conclude {batch : Batch} {due : Nat} {answer : Answer (Except SinkError Unit)}
    {history : List (Nat × Deed)}
    (h : OnTime load entry number now (.delivering batch due answer) history)
    (arrived : due ≤ now) (before : now ≤ load.cutoff) :
    OnTime load entry number now (Task.conclude load number entry batch answer).1
      (history ++ (Task.conclude load number entry batch answer).2.map (now, ·)) := by
  cases h with
  | delivering whole same due' answer' running _ early passed =>
    have at_time : now = load.handOverTime entry + (load.delivery entry number).after := by omega
    have settled := Load.Settled.of_delivery number whole running (by omega)
    have length : batch.results.length = entry.developers.length := by
      rw [same]
      exact Load.length_firstResults (Nat.le_of_eq (Load.goodAnswers_of_none whole).symm)
    obtain ⟨ending, concluded, outcome⟩ := exists_conclude_eq load number entry batch answer
    rw [← answer', ← at_time, ← same, ← length, ← outcome] at settled
    rw [concluded, passed, length.symm, same, List.append_assoc]
    rw [same] at settled
    exact .ended settled

/-- **No event brings a task off its timetable**, if it starts nothing when the providers were
listed too late, and is cut off at the deadline only. -/
theorem OnTime.advance {cancelled : Bool} {first last : Stage} {deeds : List Deed}
    {history : List (Nat × Deed)} (h : OnTime load entry number now first history)
    (event : Advance load number entry now cancelled first deeds last)
    (running : cancelled = false → load.discoveryLatency < load.cutoff) (before : now ≤ load.cutoff)
    (cut : cancelled = true → now = load.cutoff) :
    OnTime load entry number now last (history ++ deeds.map (now, ·)) := by
  cases event with
  | cutResting =>
    cases h with
    | resting good same _ at_time passed =>
      rw [same, List.map_nil, List.append_nil, passed]
      refine .ended ?_
      rw [Ending.outcome, Load.length_firstResults good]
      exact .cutResting good (at_time.symm.trans (cut rfl))
  | cutQuerying =>
    cases h with
    | querying good same _ query due running called early passed =>
      rw [same, List.map_nil, List.append_nil, passed]
      refine .ended ?_
      rw [Ending.outcome, Load.length_firstResults good]
      exact .cutQuerying good query running (by omega) (by rw [← cut rfl, ← due]; exact early)
  | cutDelivering =>
    cases h with
    | delivering whole same due _ running handed early passed =>
      rw [same, List.map_nil, List.append_nil, passed]
      refine .ended ?_
      rw [Ending.outcome, Load.batch,
        Load.length_firstResults (Nat.le_of_eq (Load.goodAnswers_of_none whole).symm)]
      exact .cutDelivering whole running (by omega) (by rw [← cut rfl, ← due]; exact early)
  | call => exact h.call (running rfl)
  | handOver => exact h.handOver (running rfl)
  | collect arrived => exact h.collect arrived before
  | conclude arrived => exact h.conclude arrived before

theorem OnTime.advances {cancelled : Bool} {first last : Stage} {deeds : List Deed}
    {history : List (Nat × Deed)} (h : OnTime load entry number now first history)
    (events : Advances load number entry now cancelled first deeds last)
    (running : cancelled = false → load.discoveryLatency < load.cutoff) (before : now ≤ load.cutoff)
    (cut : cancelled = true → now = load.cutoff) :
    OnTime load entry number now last (history ++ deeds.map (now, ·)) := by
  induction events with
  | refl => simpa using h
  | tail _ event ih =>
    rw [List.map_append, ← List.append_assoc]
    exact ih.advance event running before cut

end Task

namespace Load.State

variable {load : Load} {s : State}

/-- Every task of a load is on time, and what is not part of a task has not happened. -/
def Timely (load : Load) (s : State) : Prop :=
  OfTasks (fun number entry stage history => Task.OnTime load entry number s.now stage history) s

theorem Timely.keeps {move : Move} {s' : State} (h : Timely load s) (sound : Sound load s)
    (clocked : Clocked load s) (prompt : s.isPrompt load move = true) (effect : Effect load s move s') :
    Timely load s' := by
  cases effect with
  | stay => exact h
  | fail | timeOut | cancel | close => exact ⟨h.task, h.absent⟩
  | @wait millis running =>
    refine ⟨fun number t found => ?_, h.absent⟩
    cases phase : s.phase with
    | discovering =>
      change s.tasks[number]? = some t at found
      rw [(sound.discovering phase).1] at found
      cases found
    | loading =>
      obtain ⟨_, _, _, waits⟩ := (isPrompt_wait_iff phase).mp prompt
      exact (h.task number t found).wait (Nat.le_add_right _ _) (waits t (List.mem_of_getElem? found))
    | finished => exact absurd phase running
  | @start entries phase listed =>
    have at_time : s.now = load.discoveryLatency :=
      Nat.le_antisymm (clocked.discovering phase).1 listed
    have started := h.start sound phase entries fun _ _ => Task.OnTime.start at_time
    obtain ⟨inFlight, same, _⟩ := start_eq load (sound.discovering phase).1 entries
    rw [same] at started ⊢
    exact ⟨started.task, started.absent⟩
  | @step number t phase found =>
    obtain ⟨_, before, late⟩ := clocked.loading phase
    have running : s.elapsed = false → load.discoveryLatency < load.cutoff := by
      intro early
      exact (isPrompt_step_iff.mp prompt).resolve_left (by simp [early])
    exact h.moved found (Task.advances_step t) fun on_time =>
      on_time.advances (Task.advances_step t) running before late
  | join phase found =>
    have recorded := h.recorded sound found fun on_time => by
      cases on_time with
      | ended settled => exact .joined settled
    rw [sound.recorded_eq found] at recorded ⊢
    exact ⟨recorded.task, recorded.absent⟩

/-- **Under every punctual schedule the tasks of a load are on time.** -/
theorem timely_follow {schedule : List Move} (punctual : load.Punctual schedule) :
    Timely load (load.after schedule) := by
  have initial : Timely load {} := ofTasks_initial
  exact clocked_induction initial
    (fun _ _ _ sound clocked h prompt effect => h.keeps sound clocked prompt effect) punctual

/-- **After a punctual schedule, what a task has ended with is settled by the timetable.** -/
theorem settled_follow {schedule : List Move} (punctual : load.Punctual schedule)
    {number : Nat} {entry : Entry Provider} {ending : Ending}
    (found : (load.after schedule).tasks[number]? = some ⟨entry, .joined ending⟩) :
    load.Settled entry number ending.outcome ((load.after schedule).history number) := by
  cases (timely_follow punctual).task number _ found with
  | joined settled => exact settled

end Load.State

end Environments
