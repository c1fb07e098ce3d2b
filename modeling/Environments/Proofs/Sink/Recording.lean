import Environments.Proofs.Load.Delivery
import Mathlib.Data.List.Induction

/-!
# What a recording sink has on record

A recording sink is used in two ways: it is told to reject the batches of a provider, and batches are
delivered to it.  `kept` are the batches that are on record after a course of uses, by the course alone,
and `records_useAll` says that the sink has these, and that what it answers depends on the rejections
there have been.  No use takes back what earlier ones have done: `lasts_useAll`.

The clones of a sink refer to one state with it.  `SharedSinks` are sinks with the states they refer to,
and `state?_performAll` says that the state of a sink has seen the uses of the sink and of all its
clones, and no others.
-/

namespace Environments

namespace RecordingSink

inductive Use
  | rejectFrom (provider : ProviderId)
  | deliver (batch : Batch)
  deriving DecidableEq

/-- The sink after a use. -/
def use (s : RecordingSink) : Use → RecordingSink
  | .rejectFrom provider => s.rejectFrom provider
  | .deliver batch => s.take batch

/-- The sink after several uses, one after the other. -/
def useAll (s : RecordingSink) (uses : List Use) : RecordingSink :=
  uses.foldl use s

/-- The batch that a use puts on record: one that is delivered, and whose provider was not rejected
earlier. -/
def Use.puts? (earlier : List Use) : Use → Option Batch
  | rejectFrom _ => none
  | deliver batch => if rejectFrom batch.provider.id ∈ earlier then none else some batch

/-- **The batches on record** after a course of uses, in the order in which they were delivered. -/
def kept (uses : List Use) : List Batch :=
  uses.zipIdx.filterMap fun place => place.1.puts? (uses.take place.2)

/-- **How a sink stands after a course of uses.** -/
structure Records (s : RecordingSink) (uses : List Use) : Prop where
  batches : s.batches = kept uses
  providerOrder : s.providerOrder = (kept uses).map (·.provider.id)
  refused : ∀ id, id ∈ s.refused ↔ .rejectFrom id ∈ uses
  /-- A batch of a rejected provider is answered with `closed` and changes nothing. -/
  closed : ∀ batch, .rejectFrom batch.provider.id ∈ uses →
    s.deliver batch = .error .closed ∧ s.use (.deliver batch) = s
  /-- Any other batch is taken as it is. -/
  taken : ∀ batch, .rejectFrom batch.provider.id ∉ uses →
    s.deliver batch = .ok (s.use (.deliver batch)) ∧
      s.use (.deliver batch) = { s with batches := s.batches ++ [batch] }

/-- **What does not change in a sink** by a course of uses. -/
structure Lasts (s : RecordingSink) (uses : List Use) (s' : RecordingSink) : Prop where
  batches : s.batches <+: s'.batches
  /-- A rejection is for ever. -/
  closed : ∀ batch, s.answer batch = .error .closed → s'.answer batch = .error .closed
  /-- The batches of providers that are not rejected in the course are answered as before. -/
  others : ∀ batch, .rejectFrom batch.provider.id ∉ uses → s'.answer batch = s.answer batch

/-! ### The course of uses -/

theorem useAll_append (s : RecordingSink) (first later : List Use) :
    s.useAll (first ++ later) = (s.useAll first).useAll later :=
  List.foldl_append

theorem kept_concat (uses : List Use) (u : Use) :
    kept (uses ++ [u]) = kept uses ++ (u.puts? uses).toList := by
  have earlier : (uses.zipIdx.filterMap fun place => place.1.puts? ((uses ++ [u]).take place.2)) =
      kept uses := by
    refine List.filterMap_congr fun place member => ?_
    have inside : place.2 ≤ uses.length := by
      have below := List.snd_lt_of_mem_zipIdx member
      omega
    rw [List.take_append_of_le_length inside]
  have last : ([u].zipIdx uses.length).filterMap
      (fun place => place.1.puts? ((uses ++ [u]).take place.2)) = (u.puts? uses).toList := by
    rw [List.zipIdx_singleton, Load.State.filterMap_cons_toList, List.take_left]
    exact List.append_nil _
  rw [kept, List.zipIdx_append, List.filterMap_append, earlier, Nat.zero_add, last]

theorem use_deliver (s : RecordingSink) (batch : Batch) : s.use (.deliver batch) =
    { s with batches := s.batches ++ if batch.provider.id ∈ s.refused then [] else [batch] } := by
  rw [use, take_eq, accepts]
  by_cases refused : batch.provider.id ∈ s.refused <;> simp [refused]

theorem mem_refused_use (s : RecordingSink) (u : Use) (id : ProviderId) :
    id ∈ (s.use u).refused ↔ id ∈ s.refused ∨ u = .rejectFrom id := by
  cases u with
  | rejectFrom provider =>
    simp only [use, rejectFrom, List.mem_cons, Use.rejectFrom.injEq]
    rw [or_comm, eq_comm]
  | deliver batch => simp [use_deliver]

theorem mem_refused_useAll (s : RecordingSink) (uses : List Use) (id : ProviderId) :
    id ∈ (s.useAll uses).refused ↔ id ∈ s.refused ∨ .rejectFrom id ∈ uses := by
  induction uses generalizing s with
  | nil => simp [useAll]
  | cons u uses ih =>
    have later : id ∈ (s.useAll (u :: uses)).refused ↔ id ∈ (s.use u).refused ∨ .rejectFrom id ∈ uses :=
      ih (s.use u)
    rw [later, mem_refused_use, List.mem_cons, or_assoc, eq_comm]

theorem batches_useAll (uses : List Use) : (useAll {} uses).batches = kept uses := by
  induction uses using List.reverseRecOn with
  | nil => rfl
  | append_singleton uses u ih =>
    have refused := mem_refused_useAll {} uses
    rw [useAll_append, kept_concat, ← ih]
    cases u with
    | rejectFrom provider => exact (List.append_nil _).symm
    | deliver batch =>
      -- What the sink refuses by now are the rejections among the earlier uses.
      show ((useAll {} uses).use (.deliver batch)).batches = _
      rw [use_deliver, Use.puts?]
      by_cases rejected : .rejectFrom batch.provider.id ∈ uses
      · rw [if_pos rejected, if_pos ((refused _).mpr (Or.inr rejected))]
        rfl
      · have accepted : batch.provider.id ∉ (useAll {} uses).refused := by
          simpa [refused] using rejected
        rw [if_neg rejected, if_neg accepted]
        rfl

theorem records_useAll (uses : List Use) : Records (useAll {} uses) uses := by
  have batches := batches_useAll uses
  have refused : ∀ id, id ∈ (useAll {} uses).refused ↔ .rejectFrom id ∈ uses := by
    intro id
    simp [mem_refused_useAll]
  refine ⟨batches, congrArg _ batches, refused, fun batch rejected => ?_, fun batch other => ?_⟩
  · have closed := (refused batch.provider.id).mpr rejected
    rw [deliver, answer, if_pos closed, use_deliver, if_pos closed, List.append_nil]
    exact ⟨rfl, rfl⟩
  · have taken : batch.provider.id ∉ (useAll {} uses).refused := mt (refused _).mp other
    rw [deliver, answer, if_neg taken, use_deliver, if_neg taken]
    exact ⟨rfl, rfl⟩

theorem lasts_useAll (s : RecordingSink) (uses : List Use) : Lasts s uses (s.useAll uses) := by
  have answers : ∀ s batch, answer s batch = .error .closed ↔ batch.provider.id ∈ s.refused := by
    intro s batch
    rw [answer]
    split <;> simp_all
  refine ⟨?_, fun batch closed => ?_, fun batch other => ?_⟩
  · induction uses generalizing s with
    | nil => exact List.prefix_refl _
    | cons u uses ih =>
      refine List.IsPrefix.trans ?_ (ih (s.use u))
      cases u with
      | rejectFrom provider => exact List.prefix_refl _
      | deliver batch =>
        rw [use_deliver]
        exact List.prefix_append _ _
  · rw [answers] at closed ⊢
    exact (mem_refused_useAll s uses _).mpr (Or.inl closed)
  · simp [answer, mem_refused_useAll, other]

end RecordingSink

/-! ### Clones -/

open RecordingSink (Use)

/-- **Recording sinks and their states.** Every sink refers to one of the states, which are numbered. -/
structure SharedSinks where
  states : List RecordingSink := []
  refs : List Nat := []

namespace SharedSinks

/-- What can be done with sinks, by their numbers. -/
inductive Operation
  | create
  | clone (sink : Nat)
  | use (sink : Nat) (use : Use)

/-- A new sink has a new state, and a clone has the state of the sink it is made from. -/
def perform (w : SharedSinks) : Operation → SharedSinks
  | .create => ⟨w.states ++ [{}], w.refs ++ [w.states.length]⟩
  | .clone sink => { w with refs := w.refs ++ w.refs[sink]?.toList }
  | .use sink u =>
    match w.refs[sink]? with
    | some ref => { w with states := w.states.modify ref (·.use u) }
    | none => w

def performAll (w : SharedSinks) (operations : List Operation) : SharedSinks :=
  operations.foldl perform w

/-- The state of a sink. -/
def state? (w : SharedSinks) (sink : Nat) : Option RecordingSink :=
  w.refs[sink]?.bind fun ref => w.states[ref]?

/-- What an operation uses a state for: a sink is used that refers to it. -/
def usesIn (w : SharedSinks) (ref : Nat) : Operation → List Use
  | .use sink u => if w.refs[sink]? = some ref then [u] else []
  | _ => []

/-- **The uses of a sink and its clones** in a course of operations: the uses of all that refer to one
state. -/
def uses (ref : Nat) : SharedSinks → List Operation → List Use
  | _, [] => []
  | w, operation :: later => w.usesIn ref operation ++ uses ref (w.perform operation) later

theorem performAll_append (w : SharedSinks) (first later : List Operation) :
    w.performAll (first ++ later) = (w.performAll first).performAll later :=
  List.foldl_append

theorem uses_append (ref : Nat) (w : SharedSinks) (first later : List Operation) :
    uses ref w (first ++ later) = uses ref w first ++ uses ref (w.performAll first) later := by
  induction first generalizing w with
  | nil => rfl
  | cons operation first ih =>
    rw [List.cons_append, uses, uses, ih, List.append_assoc]
    rfl

theorem refs_prefix_perform (w : SharedSinks) (operation : Operation) :
    w.refs <+: (w.perform operation).refs := by
  cases operation with
  | create | clone => exact List.prefix_append _ _
  | use sink u =>
    cases found : w.refs[sink]? <;> simp [perform, found]

/-- A sink refers to one state for ever. -/
theorem refs_prefix_performAll (w : SharedSinks) (operations : List Operation) :
    w.refs <+: (w.performAll operations).refs := by
  induction operations generalizing w with
  | nil => exact List.prefix_refl _
  | cons operation later ih => exact (refs_prefix_perform w operation).trans (ih _)

/-- The states that sinks refer to are there. -/
def Grounded (w : SharedSinks) : Prop :=
  ∀ ref ∈ w.refs, ref < w.states.length

theorem Grounded.perform {w : SharedSinks} (h : Grounded w) (operation : Operation) :
    Grounded (w.perform operation) := by
  intro ref member
  cases operation with
  | create =>
    simp only [SharedSinks.perform, List.length_append, List.length_singleton] at member ⊢
    rcases List.mem_append.mp member with before | new
    · exact Nat.lt_succ_of_lt (h ref before)
    · rw [List.mem_singleton.mp new]
      exact Nat.lt_succ_self _
  | clone sink =>
    rcases List.mem_append.mp member with before | new
    · exact h ref before
    · exact h ref (List.mem_of_getElem? (Option.mem_toList.mp new))
  | use sink u =>
    cases found : w.refs[sink]? with
    | none =>
      simp only [SharedSinks.perform, found] at member ⊢
      exact h ref member
    | some used =>
      simp only [SharedSinks.perform, found, List.length_modify] at member ⊢
      exact h ref member

theorem Grounded.performAll {w : SharedSinks} (h : Grounded w) (operations : List Operation) :
    Grounded (w.performAll operations) := by
  induction operations generalizing w with
  | nil => exact h
  | cons operation later ih => exact ih (h.perform operation)

/-- An operation uses a state for nothing but what `usesIn` says.  A state that is not there yet is as
a new one. -/
theorem Grounded.getD_perform {w : SharedSinks} (h : Grounded w) (operation : Operation) (ref : Nat) :
    (w.perform operation).states.getD ref {} =
      (w.states.getD ref {}).useAll (w.usesIn ref operation) := by
  simp only [List.getD_eq_getElem?_getD]
  cases operation with
  | create =>
    simp only [SharedSinks.perform, usesIn, RecordingSink.useAll, List.foldl_nil]
    rcases Nat.lt_trichotomy ref w.states.length with before | rfl | after
    · rw [List.getElem?_append_left before]
    · rw [List.getElem?_concat_length, List.getElem?_eq_none (Nat.le_refl _)]
      rfl
    · rw [List.getElem?_eq_none (by simp; omega), List.getElem?_eq_none (Nat.le_of_lt after)]
  | clone sink => rfl
  | use sink u =>
    cases found : w.refs[sink]? with
    | none => simp [SharedSinks.perform, usesIn, found, RecordingSink.useAll]
    | some used =>
      have there : used < w.states.length := h used (List.mem_of_getElem? found)
      simp only [SharedSinks.perform, usesIn, found, List.getElem?_modify, Option.some.injEq]
      by_cases same : used = ref
      · subst same
        rw [List.getElem?_eq_getElem there, if_pos rfl]
        simp [RecordingSink.useAll]
      · simp [same, RecordingSink.useAll]

theorem Grounded.getD_performAll {w : SharedSinks} (h : Grounded w) (operations : List Operation)
    (ref : Nat) : (w.performAll operations).states.getD ref {} =
      (w.states.getD ref {}).useAll (uses ref w operations) := by
  induction operations generalizing w with
  | nil => rfl
  | cons operation later ih =>
    rw [uses, RecordingSink.useAll_append, ← h.getD_perform]
    exact ih (h.perform operation)

/-- **The state of a sink has seen the uses of the sink and its clones**, in their order. -/
theorem state?_performAll {operations : List Operation} {sink ref : Nat}
    (refers : (performAll {} operations).refs[sink]? = some ref) :
    (performAll {} operations).state? sink =
      some (RecordingSink.useAll {} (uses ref {} operations)) := by
  have none : Grounded {} := nofun
  have there : ref < (performAll {} operations).states.length :=
    none.performAll operations ref (List.mem_of_getElem? refers)
  have seen := none.getD_performAll operations ref
  rw [List.getD_eq_getElem?_getD, List.getElem?_eq_getElem there] at seen
  rw [state?, refers, Option.bind_some, List.getElem?_eq_getElem there]
  exact congrArg some seen

theorem state?_clone {w : SharedSinks} {sink : Nat} (there : sink < w.refs.length)
    (later : List Operation) :
    ((w.perform (.clone sink)).performAll later).state? w.refs.length =
      ((w.perform (.clone sink)).performAll later).state? sink := by
  have lasts := refs_prefix_performAll (w.perform (.clone sink)) later
  have cloned : (w.perform (.clone sink)).refs = w.refs ++ [w.refs[sink]] := by
    rw [perform, List.getElem?_eq_getElem there]
    rfl
  rw [cloned] at lasts
  obtain ⟨others, refs⟩ := lasts
  have same : (w.refs ++ w.refs[sink] :: others)[w.refs.length]? =
      (w.refs ++ w.refs[sink] :: others)[sink]? := by
    rw [List.getElem?_append_left there, List.getElem?_append_right (Nat.le_refl _)]
    simp [there]
  rw [List.append_assoc] at refs
  rw [state?, state?, ← refs]
  exact congrArg (Option.bind · _) same

theorem perform_use_eq_self {w : SharedSinks} {sink : Nat} {s : RecordingSink} {u : Use}
    (found : w.state? sink = some s) (unchanged : s.use u = s) : w.perform (.use sink u) = w := by
  obtain ⟨ref, refers, there⟩ := Option.bind_eq_some_iff.mp found
  have same : w.states.modify ref (·.use u) = w.states := by
    refine List.ext_getElem? fun other => ?_
    by_cases here : ref = other
    · rw [← here, there, List.getElem?_modify_eq, there]
      exact congrArg some unchanged
    · exact List.getElem?_modify_ne _ _ here
  simp only [perform, refers, same]

/-- **What holds of a sink at hand after a course of operations.** -/
structure Faithful (operations : List Operation) (sink ref : Nat) (s : RecordingSink) : Prop where
  state : (performAll {} operations).state? sink = some s
  /-- It stands as the uses of it and its clones say. -/
  records : s.Records (uses ref {} operations)
  /-- A batch of a rejected provider changes neither this sink nor any other. -/
  closed : ∀ batch, .rejectFrom batch.provider.id ∈ uses ref {} operations →
    (performAll {} operations).perform (.use sink (.deliver batch)) = performAll {} operations
  /-- It lasts, whatever is done later. -/
  lasts : ∀ later, ∃ s', (performAll {} (operations ++ later)).state? sink = some s' ∧
    s.Lasts (uses ref (performAll {} operations) later) s'
  /-- A clone of it stands as it does, whatever is done with either. -/
  clones : ∀ later,
    let w := performAll {} operations
    ((w.perform (.clone sink)).performAll later).state? w.refs.length =
      ((w.perform (.clone sink)).performAll later).state? sink

theorem faithful_performAll {operations : List Operation} {sink ref : Nat}
    (refers : (performAll {} operations).refs[sink]? = some ref) :
    Faithful operations sink ref (RecordingSink.useAll {} (uses ref {} operations)) := by
  have state := state?_performAll refers
  have records := RecordingSink.records_useAll (uses ref {} operations)
  obtain ⟨there, same⟩ := List.getElem?_eq_some_iff.mp refers
  refine ⟨state, records, fun batch rejected => ?_, fun later => ?_, state?_clone there⟩
  · exact perform_use_eq_self state (records.closed batch rejected).2
  · have still : (performAll {} (operations ++ later)).refs[sink]? = some ref := by
      rw [performAll_append]
      rw [List.prefix_iff_getElem?.mp (refs_prefix_performAll _ later) sink there, same]
    refine ⟨_, state?_performAll still, ?_⟩
    rw [uses_append, RecordingSink.useAll_append]
    exact RecordingSink.lasts_useAll _ _

end SharedSinks

end Environments
