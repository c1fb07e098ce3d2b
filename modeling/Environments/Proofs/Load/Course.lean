import Environments.Proofs.Load.Rows

/-!
# The course of one task

What passes between a task and the world depends on the task alone, whatever the others do:
`task_induction` takes an induction over all schedules of a load to the events in the course of one
of its tasks.

`Task.Course` lists the stages a task can be in, each with what has passed until then: complete
exchanges of queries and answers, all of them good, in the order of the accounts; then at most one
query whose answer is missing or not good, or else one batch with all the results.  `course_follow`
says that every task of a load is on this course after every schedule.
-/

namespace Environments

/-- The accounts of an entry begin with those of the results, each of which is what the provider
answers to that query, and `rest` is what follows. -/
structure Load.Asked (load : Load) (entry : Entry Provider) (results : List IdentityResult)
    (rest : List Developer) : Prop where
  developers : entry.developers = results.map (·.developer) ++ rest
  answer : ∀ (index : Nat) (r : IdentityResult), results[index]? = some r →
    (entry.provider.query index r.developer load.config.options).answer = .returned (.ok r.result)

/-- The batch of an entry: under its descriptor, with what the provider answers for each account.
-/
structure Load.BatchOf (load : Load) (entry : Entry Provider) (batch : Batch) : Prop where
  provider : batch.provider = entry.descriptor
  asked : load.Asked entry batch.results []

/-- How the part of a provider ends, with so many results in its batch, by what the sink answers.
-/
def Outcome.ofDelivery (identities : Nat) : Answer (Except SinkError Unit) → Outcome
  | .returned (.ok ()) => .delivered identities
  | .returned (.error error) => .deliveryFailed error.message
  | .brokeDown message => .aborted (breakdownReport message)

/-- What passes when the sink has answered. -/
def Deed.ofDelivery (number : Nat) (batch : Batch) : Answer (Except SinkError Unit) → Deed
  | .returned (.ok ()) => .accepted number batch
  | .returned (.error error) => .refused number batch error
  | .brokeDown message => .spoiled number batch message

namespace Load

variable {load : Load} {entry : Entry Provider} {results : List IdentityResult}

theorem Asked.start : load.Asked entry [] entry.developers :=
  ⟨rfl, nofun⟩

theorem Asked.snoc {developer : Developer} {rest : List Developer} {result : QueryResult}
    (h : load.Asked entry results (developer :: rest))
    (answer : (entry.provider.query results.length developer load.config.options).answer =
      .returned (.ok result)) :
    load.Asked entry (results ++ [⟨developer, result⟩]) rest := by
  refine ⟨by simp [h.developers], fun index r found => ?_⟩
  rcases Nat.lt_trichotomy index results.length with earlier | rfl | later
  · rw [List.getElem?_append_left earlier] at found
    exact h.answer index r found
  · rw [List.getElem?_concat_length] at found
    obtain rfl := Option.some.inj found
    exact answer
  · rw [List.getElem?_eq_none (by simp; omega)] at found
    cases found

theorem BatchOf.length {batch : Batch} (h : load.BatchOf entry batch) :
    batch.results.length = entry.developers.length := by
  rw [h.asked.developers, List.append_nil, List.length_map]

end Load

namespace Task

/-- Queries that were answered well, with their answers. -/
def exchanges (number : Nat) (options : String) (results : List IdentityResult) : List Deed :=
  results.flatMap fun r =>
    [.called number r.developer options, .answered number r.developer (.returned (.ok r.result))]

@[simp] theorem mem_exchanges {number : Nat} {options : String} {results : List IdentityResult}
    {deed : Deed} : deed ∈ exchanges number options results ↔ ∃ r ∈ results,
      deed = .called number r.developer options ∨
        deed = .answered number r.developer (.returned (.ok r.result)) := by
  simp [exchanges]

theorem exchanges_snoc (number : Nat) (options : String) (results : List IdentityResult)
    (r : IdentityResult) : exchanges number options (results ++ [r]) =
      exchanges number options results ++
        [.called number r.developer options, .answered number r.developer (.returned (.ok r.result))] := by
  simp [exchanges]

/-- The ways in which a task ends, each with all that has passed. -/
inductive Ends (load : Load) (number : Nat) (entry : Entry Provider) : Ending → List Deed → Prop
  | cutResting {results rest} : load.Asked entry results rest →
      Ends load number entry (.returned entry.descriptor (.cancelled results.length))
        (exchanges number load.config.options results)
  | cutQuerying {results developer rest} : load.Asked entry results (developer :: rest) →
      Ends load number entry (.returned entry.descriptor (.cancelled results.length))
        (exchanges number load.config.options results ++ [.called number developer load.config.options])
  | cutDelivering {batch} : load.BatchOf entry batch →
      Ends load number entry (.returned entry.descriptor (.cancelled batch.results.length))
        (exchanges number load.config.options batch.results ++ [.handed number batch])
  | failed {results developer rest error} : load.Asked entry results (developer :: rest) →
      (entry.provider.query results.length developer load.config.options).answer =
        .returned (.error error) →
      Ends load number entry
        (.returned entry.descriptor (.queryFailed results.length developer error.message))
        (exchanges number load.config.options results ++
          [.called number developer load.config.options,
            .answered number developer (.returned (.error error))])
  | brokeDown {results developer rest message} : load.Asked entry results (developer :: rest) →
      (entry.provider.query results.length developer load.config.options).answer =
        .brokeDown message →
      Ends load number entry (.brokeDown (load.taskId number) (breakdownReport message))
        (exchanges number load.config.options results ++
          [.called number developer load.config.options,
            .answered number developer (.brokeDown message)])
  | accepted {batch} : load.BatchOf entry batch →
      (load.sink number batch).answer = .returned (.ok ()) →
      Ends load number entry (.returned entry.descriptor (.delivered batch.results.length))
        (exchanges number load.config.options batch.results ++
          [.handed number batch, .accepted number batch])
  | refused {batch error} : load.BatchOf entry batch →
      (load.sink number batch).answer = .returned (.error error) →
      Ends load number entry (.returned entry.descriptor (.deliveryFailed error.message))
        (exchanges number load.config.options batch.results ++
          [.handed number batch, .refused number batch error])
  | spoiled {batch message} : load.BatchOf entry batch →
      (load.sink number batch).answer = .brokeDown message →
      Ends load number entry (.brokeDown (load.taskId number) (breakdownReport message))
        (exchanges number load.config.options batch.results ++
          [.handed number batch, .spoiled number batch message])

/-- The stages of a task, each with what has passed until then. -/
inductive Course (load : Load) (number : Nat) (entry : Entry Provider) : Stage → List Deed → Prop
  | resting {results rest} : load.Asked entry results rest →
      Course load number entry (.resting results.length results rest)
        (exchanges number load.config.options results)
  | querying {results developer rest due} : load.Asked entry results (developer :: rest) →
      Course load number entry
        (.querying results.length results developer rest due
          (entry.provider.query results.length developer load.config.options).answer)
        (exchanges number load.config.options results ++ [.called number developer load.config.options])
  | delivering {batch due} : load.BatchOf entry batch →
      Course load number entry (.delivering batch due (load.sink number batch).answer)
        (exchanges number load.config.options batch.results ++ [.handed number batch])
  | ended {ending deeds} : Ends load number entry ending deeds →
      Course load number entry (.ended ending) deeds
  | joined {ending deeds} : Ends load number entry ending deeds →
      Course load number entry (.joined ending) deeds

variable {load : Load} {number now : Nat} {entry : Entry Provider} {cancelled : Bool}

/-- **No event leads a task off its course.** -/
theorem Course.advance {first last : Stage} {deeds more : List Deed}
    (h : Course load number entry first deeds)
    (event : Advance load number entry now cancelled first more last) :
    Course load number entry last (deeds ++ more) := by
  cases event with
  | cutResting =>
    cases h with
    | resting asked =>
      rw [List.append_nil]
      exact .ended (.cutResting asked)
  | cutQuerying =>
    cases h with
    | querying asked =>
      rw [List.append_nil]
      exact .ended (.cutQuerying asked)
  | cutDelivering =>
    cases h with
    | delivering batch =>
      rw [List.append_nil]
      exact .ended (.cutDelivering batch)
  | call =>
    cases h with
    | resting asked => exact .querying asked
  | handOver =>
    cases h with
    | resting asked => exact .delivering ⟨rfl, asked⟩
  | @collect index results developer rest =>
    cases h with
    | querying asked =>
      rw [List.append_assoc]
      cases answer : (entry.provider.query results.length developer load.config.options).answer with
      | returned value =>
        cases value with
        | ok result =>
          have next : Course load number entry _ _ := .resting (asked.snoc answer)
          rwa [exchanges_snoc, List.length_append] at next
        | error error => exact .ended (.failed asked answer)
      | brokeDown message => exact .ended (.brokeDown asked answer)
  | @conclude batch =>
    cases h with
    | delivering whole =>
      rw [List.append_assoc]
      cases answer : (load.sink number batch).answer with
      | returned value =>
        cases value with
        | ok => exact .ended (.accepted whole answer)
        | error error => exact .ended (.refused whole answer)
      | brokeDown message => exact .ended (.spoiled whole answer)

theorem Course.ends {stage : Stage} {ending : Ending} {deeds : List Deed}
    (h : Course load number entry stage deeds) (left : stage.ending? = some ending) :
    Ends load number entry ending deeds := by
  cases h with
  | resting | querying | delivering => cases left
  | ended ends | joined ends =>
    obtain rfl := Option.some.inj left
    exact ends

end Task

namespace Load.State

variable {load : Load} {s : State}

theorem history_start (sound : Sound load s) (phase : s.phase = .discovering)
    (entries : List (Entry Provider)) (number : Nat) :
    (s.start load entries).history number = s.history number := by
  obtain ⟨inFlight, same, _⟩ := start_eq load (sound.discovering phase).1 entries
  rw [same]
  rfl

theorem history_recorded (sound : Sound load s) {number : Nat} {entry : Entry Provider}
    {ending : Ending} (found : s.tasks[number]? = some ⟨entry, .ended ending⟩) (other : Nat) :
    (s.recorded number entry ending).history other = s.history other := by
  rw [sound.recorded_eq found]
  rfl

/-- A property of every task of a load, by its entry, its stage and its history; there is no
history without a task. -/
structure OfTasks (P : Nat → Entry Provider → Stage → List (Nat × Deed) → Prop) (s : State) :
    Prop where
  task : ∀ (number : Nat) (t : Task), s.tasks[number]? = some t →
    P number t.entry t.stage (s.history number)
  absent : ∀ number, s.tasks[number]? = none → s.history number = []

variable {P : Nat → Entry Provider → Stage → List (Nat × Deed) → Prop}

theorem ofTasks_initial : OfTasks P {} := by
  refine ⟨fun number t found => ?_, fun number _ => ?_⟩
  · cases found
  · simp [history, Deed.task?]

theorem OfTasks.start (h : OfTasks P s) (sound : Sound load s) (phase : s.phase = .discovering)
    (entries : List (Entry Provider))
    (fresh : ∀ number entry, P number entry (.resting 0 [] entry.developers) []) :
    OfTasks P (s.start load entries) := by
  have nothing : ∀ number, (s.start load entries).history number = [] := fun number => by
    rw [history_start sound phase]
    exact h.absent number (by rw [(sound.discovering phase).1]; rfl)
  refine ⟨fun number t found => ?_, fun number _ => nothing number⟩
  obtain ⟨inFlight, same, _⟩ := start_eq load (sound.discovering phase).1 entries
  rw [nothing]
  rw [same] at found
  obtain ⟨entry, _, rfl⟩ := List.mem_map.mp (List.mem_of_getElem? found)
  exact fresh number entry

theorem OfTasks.moved (h : OfTasks P s) {number : Nat} {t : Task} {last : Stage} {deeds : List Deed}
    (found : s.tasks[number]? = some t)
    (event : Task.Advances load number t.entry s.now s.elapsed t.stage deeds last)
    (keeps : P number t.entry t.stage (s.history number) →
      P number t.entry last (s.history number ++ deeds.map (s.now, ·))) :
    OfTasks P (s.moved number t last deeds) := by
  refine ⟨fun other u at_other => ?_, fun other absent => ?_⟩
  · rcases getElem?_set_stage found at_other with ⟨rfl, rfl⟩ | ⟨ne, unchanged⟩
    · rw [history_moved event]
      exact keeps (h.task other t found)
    · rw [history_moved_of_ne event ne]
      exact h.task other u unchanged
  · have free : s.tasks[other]? = none := by
      change (s.tasks.set number _)[other]? = none at absent
      simpa using absent
    have ne : other ≠ number := by
      rintro rfl
      cases found.symm.trans free
    rw [history_moved_of_ne event ne]
    exact h.absent other free

theorem OfTasks.recorded (h : OfTasks P s) (sound : Sound load s) {number : Nat}
    {entry : Entry Provider} {ending : Ending}
    (found : s.tasks[number]? = some ⟨entry, .ended ending⟩)
    (join : P number entry (.ended ending) (s.history number) →
      P number entry (.joined ending) (s.history number)) :
    OfTasks P (s.recorded number entry ending) := by
  refine ⟨fun other u at_other => ?_, fun other absent => ?_⟩
  · rw [history_recorded sound found]
    rcases getElem?_set_stage found at_other with ⟨rfl, rfl⟩ | ⟨_, unchanged⟩
    · exact join (h.task other _ found)
    · exact h.task other u unchanged
  · rw [history_recorded sound found]
    refine h.absent other ?_
    change (s.tasks.set number _)[other]? = none at absent
    simpa using absent

/-- **Every task goes its own way.** What a new task has, and every event in the course of that
task keeps, holds of every task of a load under every schedule. -/
theorem task_induction (fresh : ∀ number entry, P number entry (.resting 0 [] entry.developers) [])
    (advance : ∀ number entry now cancelled first deeds last history, P number entry first history →
      Task.Advance load number entry now cancelled first deeds last →
      P number entry last (history ++ deeds.map (now, ·)))
    (join : ∀ number entry ending history, P number entry (.ended ending) history →
      P number entry (.joined ending) history)
    (schedule : List Move) : OfTasks P (load.after schedule) := by
  have advances : ∀ number entry now cancelled first deeds last history,
      Task.Advances load number entry now cancelled first deeds last → P number entry first history →
      P number entry last (history ++ deeds.map (now, ·)) := by
    intro number entry now cancelled first deeds last history events before
    -- A step may be two events: what the first leaves is what the second starts from.
    induction events with
    | refl => simpa using before
    | tail _ event ih =>
      rw [List.map_append, ← List.append_assoc]
      exact advance _ _ _ _ _ _ _ _ ih event
  refine sound_induction ofTasks_initial (fun s move s' sound h effect => ?_) schedule
  cases effect with
  | stay => exact h
  | wait | fail | timeOut | cancel | close => exact ⟨h.task, h.absent⟩
  | start phase => exact h.start sound phase _ fresh
  | step _ found =>
    exact h.moved found (Task.advances_step _) (advances _ _ _ _ _ _ _ _ (Task.advances_step _))
  | join _ found => exact h.recorded sound found (join _ _ _ _)

theorem courses_follow (load : Load) (schedule : List Move) :
    OfTasks (fun number entry stage history =>
      Task.Course load number entry stage (history.map Prod.snd)) (load.after schedule) := by
  refine task_induction (fun number entry => .resting .start)
    (fun number entry now cancelled first deeds last history h event => ?_)
    (fun number entry ending history h => .joined (h.ends rfl)) schedule
  rw [List.map_append, List.map_map]
  simpa [Function.comp_def] using h.advance event

theorem course_follow (load : Load) (schedule : List Move) {number : Nat} {t : Task}
    (found : (load.after schedule).tasks[number]? = some t) :
    Task.Course load number t.entry t.stage
      (((load.after schedule).history number).map Prod.snd) :=
  (courses_follow load schedule).task number t found

theorem mem_history {time number : Nat} {deed : Deed} (passed : (time, deed) ∈ s.deeds)
    (part : deed.task? = some number) : (time, deed) ∈ s.history number :=
  List.mem_filter.mpr ⟨passed, by simpa using part⟩

theorem exists_task_of_mem_deeds (load : Load) (schedule : List Move) {time number : Nat}
    {deed : Deed} (passed : (time, deed) ∈ (load.after schedule).deeds)
    (part : deed.task? = some number) :
    ∃ t, (load.after schedule).tasks[number]? = some t := by
  refine Option.ne_none_iff_exists'.mp fun absent => ?_
  have none := mem_history passed part
  rw [(courses_follow load schedule).absent number absent] at none
  cases none

end Load.State

/-! ### A small load -/

/-- An entry with one account, whose provider answers every query in the same way. -/
def Entry.steady (name : String) (reply : Reply (Except QueryError QueryResult)) : Entry Provider :=
  ⟨⟨⟨⟨name⟩, name, .empty⟩, fun _ _ _ => reply⟩, [⟨name, none⟩]⟩

namespace Load

/-- A load of these entries into a recording sink.  It starts at the epoch, its providers are
listed after two milliseconds, and its deadline is after ten. -/
def small (entries : List (Entry Provider)) (sink : RecordingSink) : Load where
  id := ⟨0⟩
  startedAt := .epoch
  config := { deadline := 10 }
  discoveryLatency := 2
  discovered := .ok entries
  sink := fun _ batch => (Sink.recording sink).reply batch

/-- A provider that breaks down. -/
def broken : Entry Provider := .steady "broken" ⟨0, .brokeDown "oops"⟩

/-- A provider that answers in three milliseconds. -/
def quick : Entry Provider := .steady "quick" ⟨3, .returned (.ok (.success []))⟩

/-- A provider that answers in twenty milliseconds. -/
def slow : Entry Provider := .steady "slow" ⟨20, .returned (.ok (.success []))⟩

/-- A load in which one provider breaks down, one delivers and one is cut off. -/
def mixed : Load := .small [broken, quick, slow] {}

/-- A schedule of this load from its start to its end. -/
def mixedMoves : List Move :=
  [.wait 2, .discover, .step 0, .step 2, .step 1, .join 0, .wait 3, .step 1, .step 1, .join 1, .wait 5,
    .expire, .step 2, .join 2, .finish]

end Load

end Environments
