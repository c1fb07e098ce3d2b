import Environments.Proofs.Load.Delivery
import Environments.Proofs.Session.Cutoff
import Environments.Proofs.Session.Runs
import Mathlib.Data.List.Induction

/-!
# Where a setup target comes from

Batches come into a sink by loads only, unless somebody hands one over from outside.  So a batch that
a target is selected from was put together in some earlier load: `brought_of_arrived` is the
invariant of all courses of operations that says so.  What passed in that load tells the rest.  The
systems of the batch are those that the provider of one entry has listed, and the row of the entry is
a delivered one: `offers_of_accepted`.

`target_has_origin` joins this to the checks of a selection.
-/

namespace Environments

/-- The provider of a discovered entry has answered the query for one of the accounts of the entry with
a list that has this system in it, and the report has this outcome for the provider. -/
structure Load.Offers (load : Load) (final : State) (provider : Descriptor) (system : ComputeSystem)
    (outcome : Outcome) : Prop where
  listed : ∃ entries number entry, load.discovered = .ok entries ∧ entries[number]? = some entry ∧
    entry.descriptor = provider ∧ ∃ time index developer systems,
      entry.developers[index]? = some developer ∧
      (entry.provider.query index developer load.config.options).answer =
        .returned (.ok (.success systems)) ∧
      (time, .answered number developer (.returned (.ok (.success systems)))) ∈ final.deeds ∧
      system ∈ systems
  row : ⟨provider, outcome⟩ ∈ (final.report load).providers

namespace Load.State

variable {load : Load} {schedule : List Move}

theorem exists_success_of_mem_systems {batch : Batch} {system : ComputeSystem}
    (member : system ∈ batch.systems) :
    ∃ r ∈ batch.results, ∃ systems, r.result = .success systems ∧ system ∈ systems := by
  obtain ⟨r, there, inside⟩ := List.mem_flatMap.mp member
  obtain ⟨developer, result⟩ := r
  cases result with
  | success systems => exact ⟨_, there, systems, rfl, inside⟩
  | failure => cases inside

theorem exists_time {number : Nat} {deed : Deed} {s : State}
    (passed : deed ∈ (s.history number).map Prod.snd) : ∃ time, (time, deed) ∈ s.deeds := by
  obtain ⟨⟨time, other⟩, there, rfl⟩ := List.mem_map.mp passed
  exact ⟨time, (List.mem_filter.mp there).1⟩

/-- **The systems of an accepted batch were offered in a delivered part of the load.** -/
theorem offers_of_accepted (finished : (load.after schedule).phase = .finished) {number : Nat}
    {batch : Batch}
    (passed : ((load.after schedule).history number).map Prod.snd =
      Task.exchanges number load.config.options batch.results ++
        [.handed number batch, .accepted number batch])
    {system : ComputeSystem} (member : system ∈ batch.systems) :
    ∃ identities, load.Offers (load.after schedule) batch.provider system (.delivered identities) := by
  have sound := sound_follow load schedule
  have accepted : .accepted number batch ∈ ((load.after schedule).history number).map Prod.snd := by
    rw [passed]
    simp
  obtain ⟨time, there⟩ := exists_time accepted
  obtain ⟨⟨entry, stage⟩, found⟩ := exists_task_of_mem_deeds load schedule there rfl
  have listed := sound.listed_of_task found
  obtain ⟨ending, rfl, row⟩ := sound.exists_row finished found
  have course : Task.Course load number entry (.joined ending) _ := course_follow load schedule found
  -- The batch is the one that was handed over for the entry, and the row tells of its delivery.
  have handed : batch ∈ (((load.after schedule).history number).map Prod.snd).filterMap Deed.batch? := by
    rw [passed]
    simp [Deed.batch?]
  obtain ⟨provider, _, results, _⟩ := course.delivery.whole batch handed
  have delivered : ending.outcome = .delivered entry.developers.length :=
    ((course.ends rfl).delivered_iff _).mpr ⟨rfl, batch, accepted⟩
  obtain ⟨r, answered, systems, success, inside⟩ := exists_success_of_mem_systems member
  have deed : .answered number r.developer (.returned (.ok (.success systems))) ∈
      ((load.after schedule).history number).map Prod.snd := by
    rw [passed, ← success]
    exact List.mem_append_left _ (Task.mem_exchanges.mpr ⟨r, answered, Or.inr rfl⟩)
  obtain ⟨taken, there⟩ := exists_time deed
  obtain ⟨index, place⟩ := List.getElem?_of_mem answered
  obtain ⟨asked, answer⟩ := results index r place
  rw [success] at answer
  rw [← provider, delivered] at row
  exact ⟨_, ⟨_, number, entry, listed, sound.getElem?_entries listed found, provider.symm, taken, index,
    r.developer, systems, asked, answer, there, inside⟩, row⟩

end Load.State

namespace Session

/-- An operation by which no batch comes into the sink from outside of a load. -/
def Operation.BringsNoBatch : Operation → Prop
  | .deliver _ => False
  | .replaceSink sink => sink.arrived = []
  | _ => True

/-- A load of a course of operations that starts from this session and has come to its end. -/
structure Makes (epoch : Time.Instant) (operations : List Operation) (s : Session) (config : Config)
    (schedule : List Load.Move) : Prop where
  session : ∃ before after, operations = before ++ .load config schedule :: after ∧
    s = performAll { epoch := epoch } before
  finished : ((s.load config).after schedule).phase = .finished

/-- A load of a course of operations has offered this system under this descriptor, and has reported
this outcome. -/
def Offered (epoch : Time.Instant) (operations : List Operation) (provider : Descriptor)
    (system : ComputeSystem) (outcome : Outcome) : Prop :=
  ∃ s config schedule, Makes epoch operations s config schedule ∧
    (s.load config).Offers ((s.load config).after schedule) provider system outcome

/-- A load of a course of operations has put this batch together from what was answered in it, and the
sink has accepted the batch. -/
def Brought (epoch : Time.Instant) (operations : List Operation) (batch : Batch) : Prop :=
  ∃ s config schedule, Makes epoch operations s config schedule ∧
    ∃ number, (((s.load config).after schedule).history number).map Prod.snd =
      Task.exchanges number config.options batch.results ++
        [.handed number batch, .accepted number batch]

/-! ### What arrives at a sink -/

theorem performAll_append (s : Session) (first later : List Operation) :
    s.performAll (first ++ later) = (s.performAll first).performAll later :=
  List.foldl_append

theorem Makes.append {epoch : Time.Instant} {operations : List Operation} {s : Session}
    {config : Config} {schedule : List Load.Move} (h : Makes epoch operations s config schedule)
    (later : List Operation) : Makes epoch (operations ++ later) s config schedule := by
  obtain ⟨before, after, rfl, same⟩ := h.session
  exact ⟨⟨before, after ++ later, by simp, same⟩, h.finished⟩

theorem Brought.append {epoch : Time.Instant} {operations : List Operation} {batch : Batch}
    (h : Brought epoch operations batch) (later : List Operation) :
    Brought epoch (operations ++ later) batch := by
  obtain ⟨s, config, schedule, makes, passed⟩ := h
  exact ⟨s, config, schedule, makes.append later, passed⟩

@[simp] theorem sink_withRoster? (s : Session) (roster : Option Roster) :
    (s.withRoster? roster).sink = s.sink := by
  cases roster <;> rfl

@[simp] theorem sink_withDirectory? (s : Session)
    (directory : Except DirectoryError (Directory Registered)) :
    (s.withDirectory? directory).sink = s.sink := by
  cases directory <;> rfl

@[simp] theorem arrived_rejectFrom (s : Session) (provider : ProviderId) :
    (s.changeSink (·.rejectFrom provider)).sink.arrived = s.sink.arrived := by
  unfold changeSink
  cases sink : s.sink with
  | recording recording => rfl
  | callback answer arrived =>
    rw [sink]

/-- **Only loads bring batches.** An operation leaves what has arrived as it is or clears it, unless it
is a load that comes to its end. -/
theorem arrived_perform (s : Session) {operation : Operation} (none : operation.BringsNoBatch) :
    (s.perform operation).sink.arrived = s.sink.arrived ∨ (s.perform operation).sink.arrived = [] ∨
    ∃ config schedule, operation = .load config schedule ∧
      ((s.load config).after schedule).phase = .finished ∧
      s.perform operation = s.afterLoad ((s.load config).after schedule) := by
  cases operation with
  | load config schedule =>
    by_cases finished : ((s.load config).after schedule).phase = .finished
    · exact Or.inr (Or.inr ⟨config, schedule, rfl, finished, if_pos finished⟩)
    · refine Or.inl ?_
      rw [perform, if_neg finished]
  | deliver => cases none
  | replaceSink => exact Or.inr (Or.inl none)
  | rejectFrom provider => exact Or.inl (arrived_rejectFrom s provider)
  | setResponse | setLatencyFor | setDefaultResponse | setDefaultLatency | cloneProvider
  | failDirectory | damageDirectory =>
    refine Or.inl ?_
    simp [perform]
  | register handle alarm developers =>
    refine Or.inl ?_
    simp only [perform]
    cases s.roster.copy? handle <;> simp
  | query handle developer options =>
    refine Or.inl ?_
    rw [perform, query?]
    cases s.roster.query? handle developer options <;> rfl
  | selectTarget | selectFromBatch =>
    refine Or.inl ?_
    simp only [perform]
    split <;> rfl
  | putBack =>
    refine Or.inl ?_
    rw [perform, putBack?]
    cases s.taken <;> rfl
  | restoreFlow =>
    refine Or.inl ?_
    rw [perform, restoreFlow?]
    cases s.savedFlow <;> rfl
  | addProvider | setDiscoveryLatency | takeTarget | clearTarget | addStep | runFlow | saveFlow
  | resetFlow => exact Or.inl rfl

/-- **Every batch that is in the sink has come there in a load of the course.** -/
theorem brought_of_arrived {epoch : Time.Instant} {operations : List Operation}
    (loaded : ∀ operation ∈ operations, operation.BringsNoBatch) {batch : Batch}
    (arrived : batch ∈ (performAll { epoch := epoch } operations).sink.arrived) :
    Brought epoch operations batch := by
  induction operations using List.reverseRecOn with
  | nil => cases arrived
  | append_singleton operations operation ih =>
    have earlier : batch ∈ (performAll { epoch := epoch } operations).sink.arrived →
        Brought epoch (operations ++ [operation]) batch := fun before =>
      (ih (fun other member => loaded other (List.mem_append_left _ member)) before).append _
    rw [performAll_append] at arrived
    change batch ∈ (perform _ operation).sink.arrived at arrived
    rcases arrived_perform (performAll { epoch := epoch } operations)
        (loaded operation (by simp)) with kept | cleared | ⟨config, schedule, rfl, finished, same⟩
    · rw [kept] at arrived
      exact earlier arrived
    · rw [cleared] at arrived
      cases arrived
    · obtain ⟨gained, sink, whole⟩ := arrived_afterLoad (performAll { epoch := epoch } operations)
        ((performAll { epoch := epoch } operations).load config) schedule
      rw [same, sink] at arrived
      rcases List.mem_append.mp arrived with before | new
      · exact earlier before
      · exact ⟨_, config, schedule, ⟨⟨operations, [], rfl, rfl⟩, finished⟩, whole batch new⟩

/-! ### What can be selected -/

/-- **Every setup target that is selected from a batch has its origin in an earlier load.** Take any
course of operations in which batches come to the sink by loads only.  If a selection from a batch
that has arrived succeeds, then a load of the course has discovered an entry under the descriptor of
the target, its provider has listed the system of the target for one of the accounts of the entry, and
the report of the load has a delivered row for it.  The target belongs to its provider and can be
configured.

A system that was offered only where the report has another outcome cannot be selected. -/
theorem target_has_origin (epoch : Time.Instant) {operations : List Operation}
    (loaded : ∀ operation ∈ operations, operation.BringsNoBatch) :
    let s := performAll { epoch := epoch } operations
    (∀ batch ∈ s.sink.arrived, ∀ (context : Context) (id : SystemId) (item : ReviewItem),
      (context.selectFromBatch batch id).1 = .ok item →
      (context.selectFromBatch batch id).2.target = some item ∧
      (∃ identities, Offered epoch operations item.provider item.system (.delivered identities)) ∧
      item.system.provider = item.provider.id ∧ item.system.configurable = true) ∧
    ∀ system, (∀ provider outcome, Offered epoch operations provider system outcome →
        outcome.isDelivered = false) →
      ∀ batch ∈ s.sink.arrived, ∀ (context : Context) (id : SystemId) (item : ReviewItem),
        (context.selectFromBatch batch id).1 = .ok item → item.system ≠ system := by
  intro s
  have origin : ∀ batch ∈ s.sink.arrived, ∀ (context : Context) (id : SystemId) (item : ReviewItem),
      (context.selectFromBatch batch id).1 = .ok item →
      ∃ identities, Offered epoch operations item.provider item.system (.delivered identities) := by
    intro batch arrived context id item ok
    rw [Context.selectFromBatch_fst] at ok
    obtain ⟨member, provider⟩ := Context.itemFromBatch_eq_ok ok
    obtain ⟨start, config, schedule, makes, number, passed⟩ := brought_of_arrived loaded arrived
    obtain ⟨identities, offers⟩ := Load.State.offers_of_accepted makes.finished passed member
    rw [← provider] at offers
    exact ⟨identities, start, config, schedule, makes, offers⟩
  refine ⟨fun batch arrived context id item ok => ?_, fun system none batch arrived context id item ok => ?_⟩
  · have offered := origin batch arrived context id item ok
    rw [Context.selectFromBatch_fst] at ok
    rw [Context.selectFromBatch_of_ok context ok]
    exact ⟨rfl, offered, item.belongs, item.configurable⟩
  · rintro rfl
    obtain ⟨identities, offered⟩ := origin batch arrived context id item ok
    cases none _ _ offered

/-- A system that can be configured. -/
def machine (name : String) : ComputeSystem :=
  ⟨⟨name⟩, name, none, ⟨"p"⟩, SystemOperations.applyConfiguration⟩

/-- A provider that lists one system after three milliseconds. -/
def stocked (name : String) : Script where
  descriptor := ⟨⟨"p"⟩, "P", .empty⟩
  defaultResponse := .listed [machine name]
  defaultLatency := 3

/-- A schedule in which the deadline cuts the provider off in its second query. -/
def scarceMoves : List Load.Move :=
  [.discover, .step 0, .wait 3, .step 0, .step 0, .wait 1, .expire, .step 0, .join 0, .finish]

/-- A schedule in which the provider is queried once and delivers. -/
def plentyMoves : List Load.Move :=
  [.discover, .step 0, .wait 3, .step 0, .step 0, .join 0, .finish]

/-- A course in which the deadline cuts a provider off after it has listed a system, and in which a
later load delivers another system. -/
def stocking : List Operation :=
  [.addProvider "p" (stocked "old"), .register "p" none [⟨"a", none⟩, ⟨"b", none⟩],
    .load { deadline := 4 } scarceMoves,
    .addProvider "p" (stocked "new"), .register "p" none [⟨"a", none⟩], .load {} plentyMoves]

/-- What was listed before the cut-off is nowhere delivered. -/
theorem not_delivered_old (provider : Descriptor) (outcome : Outcome)
    (offered : Offered .epoch stocking provider (machine "old") outcome) :
    outcome.isDelivered = false := by
  obtain ⟨s, config, schedule, ⟨⟨before, after, apart, rfl⟩, _⟩, offers⟩ := offered
  have here : stocking[before.length]? = some (.load config schedule) := by
    rw [apart, List.getElem?_append_right (Nat.le_refl _), Nat.sub_self]
    rfl
  have start : before = stocking.take before.length := by
    rw [apart, List.take_left]
  generalize before.length = place at here start
  subst start
  match place with
  | 0 | 1 | 3 | 4 => cases here
  | 2 =>
    -- The first load has a cancelled row and no other.
    cases here
    let load := (performAll { epoch := .epoch } (stocking.take 2)).load { deadline := 4 }
    have rows : ∀ row ∈ ((load.after scarceMoves).report load).providers,
        row.outcome.isDelivered = false := by decide +kernel
    exact rows _ offers.row
  | 5 =>
    -- In the second load the provider does not list the system.
    cases here
    obtain ⟨entries, number, entry, listed, there, _, _, index, developer, systems, _, answer, _,
      inside⟩ := offers.listed
    obtain rfl := Except.ok.inj (listed.symm.trans (by rfl))
    obtain rfl := List.mem_singleton.mp (List.mem_of_getElem? there)
    obtain rfl : systems = [machine "new"] := by
      cases answer
      rfl
    exact absurd (List.mem_singleton.mp inside) (by decide)
  | place + 6 => cases here

/-- The system that was delivered can be selected, and the one that was cut off cannot. -/
theorem target_has_origin_stocking :
    let s := performAll { epoch := .epoch } stocking
    (∀ operation ∈ stocking, operation.BringsNoBatch) ∧
    (∃ batch ∈ s.sink.arrived, ∃ item : ReviewItem,
      (s.context.selectFromBatch batch ⟨"new"⟩).1 = .ok item ∧ item.system = machine "new" ∧
      ∃ identities, Offered .epoch stocking item.provider item.system (.delivered identities)) ∧
    ∀ batch ∈ s.sink.arrived, ∀ (context : Context) (id : SystemId) (item : ReviewItem),
      (context.selectFromBatch batch id).1 = .ok item → item.system ≠ machine "old" := by
  intro s
  have loaded : ∀ operation ∈ stocking, operation.BringsNoBatch := by
    simp [stocking, Operation.BringsNoBatch]
  let batch : Batch := ⟨⟨⟨"p"⟩, "P", .empty⟩, [⟨⟨"a", none⟩, .success [machine "new"]⟩],
    ⟨0, 7000000, by decide⟩⟩
  have arrived : batch ∈ s.sink.arrived := by decide +kernel
  have selected : (s.context.selectFromBatch batch ⟨"new"⟩).1 =
      .ok ⟨machine "new", batch.provider, rfl, by decide⟩ := by rfl
  obtain ⟨origin, never⟩ := target_has_origin .epoch loaded
  obtain ⟨_, offered, _⟩ := origin _ arrived s.context ⟨"new"⟩ _ selected
  exact ⟨loaded, ⟨_, arrived, _, selected, rfl, offered⟩, never _ not_delivered_old⟩

end Session

end Environments
