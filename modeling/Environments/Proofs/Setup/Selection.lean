import Environments.Proofs.Session.Runs

/-!
# Selecting a target from a batch

A batch may list one identifier several times, under several accounts, with other providers and other
operations, and between failures.  `Batch.First` is the occurrence that counts, and `Decides` is what a
selection has to come to by it: nothing found, a stranger, a system that cannot be configured, or a
target, in this order of precedence.

`selection_is_exact` says that a selection comes to just this, and that it is all or nothing: the target
is the item that is given back, and where nothing is given back the context is as it was.
-/

namespace Environments

namespace Batch

/-- The lists of the successful results of a batch, in the order of the results. A failure has no
list. -/
def lists (b : Batch) : List (List ComputeSystem) :=
  b.results.filterMap fun r =>
    match r.result with
    | .success systems => some systems
    | .failure .. => none

/-- **The first system with an identifier**, in the lists of a batch put one after the other. -/
def First (b : Batch) (id : SystemId) (system : ComputeSystem) : Prop :=
  ∃ before after, b.lists.flatten = before ++ system :: after ∧ system.id = id ∧
    ∀ earlier ∈ before, earlier.id ≠ id

variable {batch : Batch} {id : SystemId} {system : ComputeSystem}

theorem First.id_eq (h : batch.First id system) : system.id = id := by
  obtain ⟨_, _, _, same, _⟩ := h
  exact same

theorem flatten_lists (b : Batch) : b.lists.flatten = b.systems := by
  unfold lists systems
  induction b.results with
  | nil => rfl
  | cons r results ih =>
    obtain ⟨developer, result⟩ := r
    cases result with
    | success systems => exact congrArg (systems ++ ·) ih
    | failure => exact ih

theorem first_iff_find? :
    batch.First id system ↔ (batch.systems.find? fun other => other.id = id) = some system := by
  rw [List.find?_eq_some_iff_append, First, flatten_lists]
  constructor
  · rintro ⟨before, after, apart, same, others⟩
    exact ⟨by simp [same], before, after, apart, fun other member => by simp [others other member]⟩
  · rintro ⟨same, before, after, apart, others⟩
    exact ⟨before, after, apart, by simpa using same, fun other member => by
      simpa using others other member⟩

end Batch

namespace Context

variable {batch : Batch} {id : SystemId} {reply : Except SetupError ReviewItem}

/-- **What a selection from a batch has to come to.** -/
inductive Decides (batch : Batch) (id : SystemId) : Except SetupError ReviewItem → Prop
  /-- No system has the identifier. -/
  | absent (others : ∀ system ∈ batch.lists.flatten, system.id ≠ id) :
    Decides batch id (.error (.systemNotFound id))
  /-- The first one says that it belongs to another provider. -/
  | stranger {system : ComputeSystem} (first : batch.First id system)
    (apart : system.provider ≠ batch.provider.id) :
    Decides batch id (.error (.providerMismatch system.id batch.provider.id system.provider))
  /-- The first one belongs to the provider, and no configuration can be applied to it. -/
  | unsupported {system : ComputeSystem} (first : batch.First id system)
    (belongs : system.provider = batch.provider.id)
    (fixed : system.operations.contains SystemOperations.applyConfiguration = false) :
    Decides batch id (.error (.applyConfigurationUnsupported id))
  /-- The first one passes both checks. -/
  | selected {system : ComputeSystem} (first : batch.First id system)
    (belongs : system.provider = batch.provider.id)
    (configurable : system.operations.contains SystemOperations.applyConfiguration = true) :
    Decides batch id (.ok ⟨system, batch.provider, belongs, configurable⟩)

theorem itemFromBatch_of_first {system : ComputeSystem} (first : batch.First id system) :
    itemFromBatch batch id = ReviewItem.of system batch.provider := by
  rw [itemFromBatch, Batch.first_iff_find?.mp first]

theorem itemFromBatch_of_absent (others : ∀ system ∈ batch.lists.flatten, system.id ≠ id) :
    itemFromBatch batch id = .error (.systemNotFound id) := by
  have none : (batch.systems.find? fun other => other.id = id) = none := by
    rw [Batch.flatten_lists] at others
    exact List.find?_eq_none.mpr fun other member => by simp [others other member]
  rw [itemFromBatch, none]

theorem Decides.itemFromBatch_eq (h : Decides batch id reply) : itemFromBatch batch id = reply := by
  cases h with
  | absent others => exact itemFromBatch_of_absent others
  | stranger first apart => rw [itemFromBatch_of_first first, ReviewItem.of, dif_neg apart]
  | @unsupported system first belongs fixed =>
    have fixed : ¬ system.configurable = true := by
      rw [ComputeSystem.configurable, fixed]
      exact Bool.false_ne_true
    rw [itemFromBatch_of_first first, ReviewItem.of, dif_pos belongs, dif_neg fixed, first.id_eq]
  | selected first belongs configurable =>
    rw [itemFromBatch_of_first first]
    exact ReviewItem.of_eq_ok.mpr ⟨rfl, rfl⟩

theorem exists_decides (batch : Batch) (id : SystemId) : ∃ reply, Decides batch id reply := by
  cases found : batch.systems.find? fun other => other.id = id with
  | none =>
    refine ⟨_, .absent fun system member => ?_⟩
    rw [Batch.flatten_lists] at member
    simpa using List.find?_eq_none.mp found system member
  | some system =>
    have first := Batch.first_iff_find?.mpr found
    by_cases belongs : system.provider = batch.provider.id
    · cases configurable : system.operations.contains SystemOperations.applyConfiguration with
      | true => exact ⟨_, .selected first belongs configurable⟩
      | false => exact ⟨_, .unsupported first belongs configurable⟩
    · exact ⟨_, .stranger first belongs⟩

theorem decides_iff : Decides batch id reply ↔ itemFromBatch batch id = reply := by
  refine ⟨Decides.itemFromBatch_eq, ?_⟩
  rintro rfl
  obtain ⟨reply, decided⟩ := exists_decides batch id
  rwa [decided.itemFromBatch_eq]

end Context

open Context (Decides)

/-- **A selection from a batch is exact, and all or nothing.** It comes to what is decided by the first
system with the identifier, and to nothing else.  A success makes the item that is given back the
target.  A failure leaves the context as it is, with its earlier target or without one.

Nothing but the first occurrence counts, neither the systems after it nor the context: a batch of the
same provider in which the same system is the first one gives the same reply in any context.  In a
session a selection changes the context and nothing else, the batches that arrived stay, and after a
failure the whole session is as it was. -/
theorem selection_is_exact (c : Context) (batch : Batch) (id : SystemId) :
    let selection := c.selectFromBatch batch id
    (∀ reply, Decides batch id reply ↔ selection.1 = reply) ∧
    (∀ item, selection.1 = .ok item → selection.2.target = some item) ∧
    (∀ error, selection.1 = .error error → selection.2 = c) ∧
    (∀ (c' : Context) (other : Batch) (system : ComputeSystem), other.provider = batch.provider →
      batch.First id system → other.First id system →
      (c'.selectFromBatch other id).1 = selection.1) ∧
    ∀ (s : Session) (place : Nat), s.context = c → s.sink.arrived[place]? = some batch →
      s.perform (.selectFromBatch place id) = s.setContext selection.2 ∧
      (s.perform (.selectFromBatch place id)).sink = s.sink ∧
      ∀ error, selection.1 = .error error → s.perform (.selectFromBatch place id) = s := by
  intro selection
  have reply : selection.1 = Context.itemFromBatch batch id := Context.selectFromBatch_fst c batch id
  have kept : ∀ error, selection.1 = .error error → selection.2 = c := fun error failed => by
    rw [reply] at failed
    exact congrArg Prod.snd (Context.selectFromBatch_of_error c failed)
  refine ⟨fun decision => ?_, fun item ok => ?_, kept, fun c' other system provider first first' => ?_,
    fun s place context arrived => ?_⟩
  · rw [reply]
    exact Context.decides_iff
  · rw [reply] at ok
    exact congrArg (·.2.target) (Context.selectFromBatch_of_ok c ok)
  · rw [Context.selectFromBatch_fst, Context.itemFromBatch_of_first first', reply,
      Context.itemFromBatch_of_first first, provider]
  · have performed : s.perform (.selectFromBatch place id) = s.setContext selection.2 := by
      simp only [Session.perform, arrived, context]
      rfl
    refine ⟨performed, by rw [performed]; rfl, fun error failed => ?_⟩
    rw [performed, kept error failed, ← context]
    rfl

/-- A system with the identifier `x` that can be configured and belongs to this provider. -/
def twin (provider : String) : ComputeSystem :=
  ⟨⟨"x"⟩, "X", none, ⟨provider⟩, SystemOperations.applyConfiguration⟩

/-- A batch of the provider `p` that lists a system of another provider first, between failures, and
then one of its own with the same identifier. -/
def twins : Batch where
  provider := ⟨⟨"p"⟩, "P", .empty⟩
  results := [⟨⟨"a", none⟩, .failure "down" none⟩, ⟨⟨"b", none⟩, .success [twin "q"]⟩,
    ⟨⟨"a", some "host"⟩, .failure "down" (some 5)⟩, ⟨⟨"c", none⟩, .success [twin "p"]⟩]
  loadedAt := .epoch

/-- The first of the two is refused, although the second would pass, and the earlier target stays. -/
theorem selection_is_exact_twins :
    let c : Context := ⟨some ⟨twin "p", twins.provider, rfl, by decide⟩⟩
    twins.First ⟨"x"⟩ (twin "q") ∧ twin "p" ∈ twins.systems ∧
      c.selectFromBatch twins ⟨"x"⟩ = (.error (.providerMismatch ⟨"x"⟩ ⟨"p"⟩ ⟨"q"⟩), c) := by
  intro c
  have first : twins.First ⟨"x"⟩ (twin "q") := ⟨[], [twin "p"], rfl, rfl, nofun⟩
  obtain ⟨exact_reply, _, kept, _⟩ := selection_is_exact c twins ⟨"x"⟩
  have refused := (exact_reply _).mp (.stranger first (by decide))
  exact ⟨first, by decide, Prod.ext refused (kept _ refused)⟩

end Environments
