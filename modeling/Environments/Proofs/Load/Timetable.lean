import Environments.Proofs.Load.Course

/-!
# The timetable of an entry

What becomes of an entry can be read off its provider, its accounts, the sink and the deadline
alone, without running the load.  `Load.answerTime` adds up latencies: it is when so many answers
have come.  `Load.failure?` is the first query that is not answered well, and `Load.naturalEnd` is
when and how the entry ends if nothing cuts it off: by that query, or else by what the sink answers
to the batch.  `Load.naturalHistory` is all that passes until then.

`Load.Settled` adds the deadline: an entry ends naturally, if it does so by the deadline, or it is
cut off at the deadline between two queries, in a query or in the delivery.
-/

namespace Environments

namespace Load

section Definitions

variable (load : Load) (entry : Entry Provider)

/-- The query for the account at a place, with how the provider answers it. -/
def query? (index : Nat) : Option (Developer × Reply (Except QueryError QueryResult)) :=
  entry.developers[index]?.map fun developer =>
    (developer, entry.provider.query index developer load.config.options)

/-- What the query for the account at a place brings, if it is answered well. -/
def result? (index : Nat) : Option IdentityResult :=
  match load.query? entry index with
  | some (developer, ⟨_, .returned (.ok result)⟩) => some ⟨developer, result⟩
  | _ => none

/-- How the query for the account at a place ends the part of the provider, if it is not answered
well. -/
def failureAt? (index : Nat) : Option Outcome :=
  match load.query? entry index with
  | some (developer, ⟨_, .returned (.error error)⟩) => some (.queryFailed index developer error.message)
  | some (_, ⟨_, .brokeDown message⟩) => some (.aborted (breakdownReport message))
  | _ => none

/-- The first query that is not answered well: its place, and how the part of the provider ends.
-/
def failure? : Option (Nat × Outcome) :=
  ((List.range entry.developers.length).find? fun index => (load.failureAt? entry index).isSome).bind
    fun index => (load.failureAt? entry index).map (index, ·)

/-- The number of queries that are answered well before one is not. -/
def goodAnswers : Nat :=
  ((load.failure? entry).map (·.1)).getD entry.developers.length

/-- The time that the query for the account at a place takes. -/
def latency (index : Nat) : Nat :=
  ((load.query? entry index).map (·.2.after)).getD 0

/-- The time, from the start of the load, at which so many queries are answered: the providers are
listed, and one query follows the other. -/
def answerTime : Nat → Nat
  | 0 => load.discoveryLatency
  | count + 1 => answerTime count + load.latency entry count

/-- The results of the first queries. -/
def firstResults (count : Nat) : List IdentityResult :=
  (List.range count).filterMap (load.result? entry)

/-- The batch of an entry all of whose queries are answered well. -/
def batch : Batch :=
  ⟨entry.descriptor, load.firstResults entry entry.developers.length,
    load.clock (load.answerTime entry entry.developers.length)⟩

/-- What passes for the account at a place, and when. -/
def exchangeAt (number index : Nat) : List (Nat × Deed) :=
  match load.query? entry index with
  | some (developer, reply) =>
    [(load.answerTime entry index, .called number developer load.config.options),
      (load.answerTime entry (index + 1), .answered number developer reply.answer)]
  | none => []

/-- What passes for the first accounts, and when. -/
def firstExchanges (number count : Nat) : List (Nat × Deed) :=
  (List.range count).flatMap (load.exchangeAt entry number)

/-- How the sink answers the batch of the entry, and how long it takes. -/
def delivery (number : Nat) : Reply (Except SinkError Unit) :=
  load.sink number (load.batch entry)

/-- The time at which the batch of the entry is handed over. -/
def handOverTime : Nat :=
  load.answerTime entry entry.developers.length

/-- **The natural end of an entry**: when, from the start of the load, and how its part ends if
nothing cuts it off. -/
def naturalEnd (number : Nat) : Nat × Outcome :=
  match load.failure? entry with
  | some (index, outcome) => (load.answerTime entry (index + 1), outcome)
  | none =>
    let delivery := load.delivery entry number
    (load.handOverTime entry + delivery.after,
      .ofDelivery entry.developers.length delivery.answer)

/-- All that passes until the natural end of an entry, and when. -/
def naturalHistory (number : Nat) : List (Nat × Deed) :=
  match load.failure? entry with
  | some (index, _) => load.firstExchanges entry number (index + 1)
  | none =>
    let delivery := load.delivery entry number
    load.firstExchanges entry number entry.developers.length ++
      [(load.handOverTime entry, .handed number (load.batch entry)),
        (load.handOverTime entry + delivery.after,
          .ofDelivery number (load.batch entry) delivery.answer)]

/-- **How an entry can end, and all that has passed then.** It ends naturally before the deadline
or at it, or it is cut off at the deadline; where an end falls on the deadline, either can be. -/
inductive Settled (number : Nat) : Outcome → List (Nat × Deed) → Prop
  | natural : load.discoveryLatency < load.cutoff → (load.naturalEnd entry number).1 ≤ load.cutoff →
      Settled number (load.naturalEnd entry number).2 (load.naturalHistory entry number)
  | cutResting {index : Nat} : index ≤ load.goodAnswers entry →
      load.answerTime entry index = load.cutoff →
      Settled number (.cancelled index) (load.firstExchanges entry number index)
  | cutQuerying {index : Nat} {developer : Developer} {reply : Reply (Except QueryError QueryResult)} :
      index ≤ load.goodAnswers entry → load.query? entry index = some (developer, reply) →
      load.discoveryLatency < load.cutoff → load.answerTime entry index ≤ load.cutoff →
      load.cutoff ≤ load.answerTime entry (index + 1) →
      Settled number (.cancelled index)
        (load.firstExchanges entry number index ++
          [(load.answerTime entry index, .called number developer load.config.options)])
  | cutDelivering : load.failure? entry = none → load.discoveryLatency < load.cutoff →
      load.handOverTime entry ≤ load.cutoff →
      load.cutoff ≤ load.handOverTime entry + (load.delivery entry number).after →
      Settled number (.cancelled entry.developers.length)
        (load.firstExchanges entry number entry.developers.length ++
          [(load.handOverTime entry, .handed number (load.batch entry))])

end Definitions

variable {load : Load} {entry : Entry Provider} {index : Nat}

/-! ### One more query -/

theorem query?_isSome (load : Load) (inside : index < entry.developers.length) :
    ∃ developer reply, load.query? entry index = some (developer, reply) :=
  ⟨_, _, by rw [query?, List.getElem?_eq_getElem inside, Option.map_some]⟩

theorem lt_length_of_query? {developer : Developer} {reply : Reply (Except QueryError QueryResult)}
    (h : load.query? entry index = some (developer, reply)) : index < entry.developers.length := by
  obtain ⟨_, found, _⟩ := Option.map_eq_some_iff.mp h
  exact (List.getElem?_eq_some_iff.mp found).1

/-- A query is answered well, or it ends the part of the provider, and not both. -/
theorem result?_isSome_iff (load : Load) (inside : index < entry.developers.length) :
    (load.result? entry index).isSome ↔ load.failureAt? entry index = none := by
  obtain ⟨developer, ⟨after, answer⟩, found⟩ := query?_isSome load inside
  simp only [result?, failureAt?, found]
  rcases answer with (_ | _) | _ <;> simp

theorem answerTime_succ {developer : Developer} {reply : Reply (Except QueryError QueryResult)}
    (h : load.query? entry index = some (developer, reply)) :
    load.answerTime entry (index + 1) = load.answerTime entry index + reply.after := by
  simp [answerTime, latency, h]

theorem answerTime_mono {first last : Nat} (h : first ≤ last) :
    load.answerTime entry first ≤ load.answerTime entry last := by
  induction h with
  | refl => exact Nat.le_refl _
  | step _ ih => exact Nat.le_trans ih (Nat.le_add_right _ _)

theorem firstResults_succ {r : IdentityResult} (h : load.result? entry index = some r) :
    load.firstResults entry (index + 1) = load.firstResults entry index ++ [r] := by
  simp [firstResults, List.range_succ, h]

theorem firstExchanges_succ {number : Nat} {developer : Developer}
    {reply : Reply (Except QueryError QueryResult)}
    (h : load.query? entry index = some (developer, reply)) :
    load.firstExchanges entry number (index + 1) = load.firstExchanges entry number index ++
      [(load.answerTime entry index, .called number developer load.config.options),
        (load.answerTime entry (index + 1), .answered number developer reply.answer)] := by
  simp [firstExchanges, List.range_succ, exchangeAt, h]

/-! ### The first failure -/

theorem failure?_eq_some_iff {outcome : Outcome} :
    load.failure? entry = some (index, outcome) ↔
      load.failureAt? entry index = some outcome ∧
        ∀ earlier < index, load.failureAt? entry earlier = none := by
  have inside : ∀ {outcome}, load.failureAt? entry index = some outcome →
      index < entry.developers.length := by
    intro outcome failed
    unfold failureAt? at failed
    split at failed
    · exact lt_length_of_query? ‹_›
    · exact lt_length_of_query? ‹_›
    · cases failed
  constructor
  · intro h
    obtain ⟨place, first, same⟩ := Option.bind_eq_some_iff.mp h
    obtain ⟨found, failed, same⟩ := Option.map_eq_some_iff.mp same
    obtain ⟨rfl, rfl⟩ := Prod.mk.inj same
    obtain ⟨_, _, before⟩ := List.find?_range_eq_some.mp first
    exact ⟨failed, fun earlier less => by simpa using before earlier less⟩
  · rintro ⟨failed, before⟩
    have first : ((List.range entry.developers.length).find? fun index =>
        (load.failureAt? entry index).isSome) = some index := by
      refine List.find?_range_eq_some.mpr ⟨by rw [failed]; rfl, List.mem_range.mpr (inside failed), ?_⟩
      intro earlier less
      simp [before earlier less]
    rw [failure?, first, Option.bind_some, failed]
    rfl

theorem goodAnswers_of_failure {outcome : Outcome} (h : load.failure? entry = some (index, outcome)) :
    load.goodAnswers entry = index := by
  simp [goodAnswers, h]

theorem goodAnswers_of_none (h : load.failure? entry = none) :
    load.goodAnswers entry = entry.developers.length := by
  simp [goodAnswers, h]

theorem failureAt?_of_none (h : load.failure? entry = none)
    (inside : index < entry.developers.length) : load.failureAt? entry index = none := by
  induction index using Nat.strongRecOn with
  | ind index ih =>
    cases failed : load.failureAt? entry index with
    | none => rfl
    | some outcome =>
      have first := failure?_eq_some_iff.mpr
        ⟨failed, fun earlier less => ih earlier less (by omega)⟩
      cases h.symm.trans first

theorem goodAnswers_le : load.goodAnswers entry ≤ entry.developers.length := by
  cases h : load.failure? entry with
  | none => exact Nat.le_of_eq (goodAnswers_of_none h)
  | some first =>
    obtain ⟨index, outcome⟩ := first
    rw [goodAnswers_of_failure h]
    have failed := (failure?_eq_some_iff.mp h).1
    unfold failureAt? at failed
    split at failed
    · exact Nat.le_of_lt (lt_length_of_query? ‹_›)
    · exact Nat.le_of_lt (lt_length_of_query? ‹_›)
    · cases failed

theorem failureAt?_of_lt (h : index < load.goodAnswers entry) : load.failureAt? entry index = none := by
  cases first : load.failure? entry with
  | none => exact failureAt?_of_none first (by rwa [goodAnswers_of_none first] at h)
  | some failed =>
    obtain ⟨place, outcome⟩ := failed
    rw [goodAnswers_of_failure first] at h
    exact (failure?_eq_some_iff.mp first).2 index h

theorem lt_goodAnswers (h : index ≤ load.goodAnswers entry) {r : IdentityResult}
    (good : load.result? entry index = some r) : index < load.goodAnswers entry := by
  have inside : index < entry.developers.length := by
    unfold result? at good
    split at good
    · exact lt_length_of_query? ‹_›
    · cases good
  refine Nat.lt_of_le_of_ne h fun same => ?_
  have fine := (result?_isSome_iff load inside).mp (by rw [good]; rfl)
  cases first : load.failure? entry with
  | none =>
    rw [goodAnswers_of_none first] at same
    omega
  | some failed =>
    obtain ⟨place, outcome⟩ := failed
    rw [goodAnswers_of_failure first] at same
    subst same
    rw [(failure?_eq_some_iff.mp first).1] at fine
    cases fine

theorem failure?_of_failureAt? (h : index ≤ load.goodAnswers entry) {outcome : Outcome}
    (failed : load.failureAt? entry index = some outcome) :
    load.failure? entry = some (index, outcome) :=
  failure?_eq_some_iff.mpr
    ⟨failed, fun _ less => failureAt?_of_lt (Nat.lt_of_lt_of_le less h)⟩

theorem failure?_eq_none (h : entry.developers.length ≤ load.goodAnswers entry) :
    load.failure? entry = none := by
  cases first : load.failure? entry with
  | none => rfl
  | some failed =>
    obtain ⟨place, outcome⟩ := failed
    have failed := (failure?_eq_some_iff.mp first).1
    rw [goodAnswers_of_failure first] at h
    unfold failureAt? at failed
    split at failed
    · have := lt_length_of_query? ‹_›
      omega
    · have := lt_length_of_query? ‹_›
      omega
    · cases failed

theorem lt_length_of_failure? {outcome : Outcome} (h : load.failure? entry = some (index, outcome)) :
    index < entry.developers.length := by
  refine Nat.lt_of_not_le fun outside => ?_
  rw [← goodAnswers_of_failure h] at outside
  cases (failure?_eq_none outside).symm.trans h

theorem length_firstResults (h : index ≤ load.goodAnswers entry) :
    (load.firstResults entry index).length = index := by
  induction index with
  | zero => rfl
  | succ index ih =>
    have inside : index < entry.developers.length :=
      Nat.lt_of_lt_of_le h goodAnswers_le
    obtain ⟨r, good⟩ := Option.isSome_iff_exists.mp
      ((result?_isSome_iff load inside).mpr (failureAt?_of_lt h))
    rw [firstResults_succ good, List.length_append, ih (Nat.le_of_succ_le h)]
    rfl

/-! ### The natural end -/

theorem naturalEnd_of_failure (number : Nat) {outcome : Outcome}
    (h : load.failure? entry = some (index, outcome)) :
    load.naturalEnd entry number = (load.answerTime entry (index + 1), outcome) := by
  simp [naturalEnd, h]

theorem naturalEnd_of_none (number : Nat) (h : load.failure? entry = none) :
    load.naturalEnd entry number = (load.handOverTime entry + (load.delivery entry number).after,
      .ofDelivery entry.developers.length (load.delivery entry number).answer) := by
  simp [naturalEnd, h]

theorem answerTime_le_naturalEnd (number : Nat) (good : index ≤ load.goodAnswers entry) :
    load.answerTime entry index ≤ (load.naturalEnd entry number).1 := by
  cases first : load.failure? entry with
  | none =>
    rw [naturalEnd_of_none _ first]
    rw [goodAnswers_of_none first] at good
    exact Nat.le_trans (answerTime_mono good) (Nat.le_add_right _ _)
  | some failed =>
    obtain ⟨place, outcome⟩ := failed
    rw [naturalEnd_of_failure _ first]
    rw [goodAnswers_of_failure first] at good
    exact answerTime_mono (by omega)

theorem answerTime_succ_le_naturalEnd (number : Nat) (good : index ≤ load.goodAnswers entry)
    (inside : index < entry.developers.length) :
    load.answerTime entry (index + 1) ≤ (load.naturalEnd entry number).1 := by
  cases first : load.failure? entry with
  | none => exact answerTime_le_naturalEnd number (by rw [goodAnswers_of_none first]; exact inside)
  | some failed =>
    obtain ⟨place, outcome⟩ := failed
    rw [naturalEnd_of_failure _ first]
    rw [goodAnswers_of_failure first] at good
    exact answerTime_mono (by omega)

theorem Settled.of_failure {number : Nat} {outcome : Outcome} (good : index ≤ load.goodAnswers entry)
    (failed : load.failureAt? entry index = some outcome) (running : load.discoveryLatency < load.cutoff)
    (in_time : load.answerTime entry (index + 1) ≤ load.cutoff) :
    load.Settled entry number outcome (load.firstExchanges entry number (index + 1)) := by
  have first := failure?_of_failureAt? good failed
  have natural := naturalEnd_of_failure number first
  have settled : load.Settled entry number _ _ := .natural running (by rw [natural]; exact in_time)
  simpa [natural, naturalHistory, first] using settled

theorem Settled.of_delivery (number : Nat) (whole : load.failure? entry = none)
    (running : load.discoveryLatency < load.cutoff)
    (in_time : load.handOverTime entry + (load.delivery entry number).after ≤ load.cutoff) :
    load.Settled entry number
      (.ofDelivery entry.developers.length (load.delivery entry number).answer)
      (load.firstExchanges entry number entry.developers.length ++
        [(load.handOverTime entry, .handed number (load.batch entry)),
          (load.handOverTime entry + (load.delivery entry number).after,
            .ofDelivery number (load.batch entry) (load.delivery entry number).answer)]) := by
  have natural := naturalEnd_of_none number whole
  have settled : load.Settled entry number _ _ := .natural running (by rw [natural]; exact in_time)
  simpa [natural, naturalHistory, whole] using settled

end Load

end Environments
