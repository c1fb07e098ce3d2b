import Environments.Proofs.Load.EndOrder
import Environments.Proofs.Load.Isolation
import Environments.Proofs.Session.Cutoff

/-!
# The order of the rows and of the batches

What a sink gains from a load arrives in the order of the times at which the batches are accepted,
and the rows of the report stand in the order in which the entries have ended.  An entry that
delivers ends when its batch is accepted (`Settled.of_accepted`), so that both orders agree wherever
the times differ: `rows_in_order_of_end`.
-/

namespace Environments

/-- A batch that a sink accepts, from the task with a number, and when. -/
structure Arrival where
  time : Nat
  number : Nat
  batch : Batch

namespace Load

/-- The arrival that a deed is. -/
def arrival? : Nat × Deed → Option Arrival
  | (time, .accepted number batch) => some ⟨time, number, batch⟩
  | _ => none

theorem arrival?_eq_some {deed : Nat × Deed} {arrival : Arrival} (h : arrival? deed = some arrival) :
    deed = (arrival.time, .accepted arrival.number arrival.batch) := by
  obtain ⟨time, deed⟩ := deed
  cases deed with
  | accepted number batch =>
    obtain rfl := Option.some.inj h
    rfl
  | asked | called | answered | handed | refused | spoiled => cases h

/-- **An entry whose batch is accepted** is delivered, and ends with that. -/
theorem Settled.of_accepted {load : Load} {entry : Entry Provider} {number time : Nat}
    {outcome : Outcome} {history : List (Nat × Deed)}
    (h : load.Settled entry number outcome history) {batch : Batch}
    (accepted : (time, .accepted number batch) ∈ history) :
    outcome.isDelivered = true ∧ time = load.endTime entry number ∧ batch = load.batch entry := by
  have own := h.carried accepted rfl
  have early : ∀ {count : Nat},
      (time, .accepted number batch) ∉ load.firstExchanges entry number count := by
    intro count member
    cases carried?_firstExchanges load entry number count _ member
  cases h with
  | natural _ in_time =>
    unfold naturalHistory at accepted
    cases failed : load.failure? entry with
    | some first =>
      rw [failed] at accepted
      exact absurd accepted early
    | none =>
      rw [failed] at accepted
      rw [endTime, Nat.min_eq_left in_time, naturalEnd_of_none number failed]
      have last := (List.mem_append.mp accepted).resolve_left early
      generalize (load.delivery entry number).answer = answer at last
      rcases answer with (error | taken) | message <;> simp [Deed.ofDelivery] at last
      exact ⟨rfl, last.1, own⟩
  | cutResting => exact absurd accepted early
  | cutQuerying | cutDelivering =>
    cases List.mem_singleton.mp ((List.mem_append.mp accepted).resolve_left early)

namespace State

variable {load : Load} {s : State}

/-- What arrives at the sink in a load, in order. -/
def arrivals (s : State) : List Arrival := s.deeds.filterMap arrival?

theorem mem_deeds_of_arrivals {arrival : Arrival} (member : arrival ∈ s.arrivals) :
    (arrival.time, .accepted arrival.number arrival.batch) ∈ s.deeds := by
  obtain ⟨deed, passed, same⟩ := List.mem_filterMap.mp member
  rwa [arrival?_eq_some same] at passed

theorem arrivals_sorted (load : Load) (schedule : List Move) :
    (load.after schedule).arrivals.Pairwise fun a b => a.time ≤ b.time := by
  refine List.pairwise_filterMap.mpr ((deeds_sorted load schedule).imp ?_)
  intro a b le x here y there
  rw [arrival?_eq_some here, arrival?_eq_some there] at le
  exact le

theorem countP_accepted_le (load : Load) (schedule : List Move) (number : Nat) :
    (((load.after schedule).history number).map Prod.snd).countP (·.accepted?.isSome) ≤ 1 := by
  by_cases some : ∃ deed ∈ (load.after schedule).history number, deed.2.accepted?.isSome = true
  · obtain ⟨⟨time, deed⟩, passed, accepted⟩ := some
    obtain ⟨there, part⟩ := List.mem_filter.mp passed
    rw [decide_eq_true_eq] at part
    obtain ⟨t, found⟩ := exists_task_of_mem_deeds load schedule there part
    cases deed with
    | accepted other batch =>
      obtain rfl : other = number := Option.some.inj part
      rw [(course_follow load schedule found).of_accepted (List.mem_map_of_mem passed),
        List.countP_append]
      have none : (Task.exchanges other load.config.options batch.results).countP
          (·.accepted?.isSome) = 0 := by
        refine List.countP_eq_zero.mpr ?_
        intro deed member
        rcases Task.mem_exchanges.mp member with ⟨r, _, rfl | rfl⟩ <;> simp [Deed.accepted?]
      rw [none]
      rfl
    | asked | called | answered | handed | refused | spoiled => cases accepted
  · refine Nat.le_trans (Nat.le_of_eq (List.countP_eq_zero.mpr ?_)) (Nat.zero_le 1)
    intro deed member accepted
    obtain ⟨deed, passed, rfl⟩ := List.mem_map.mp member
    exact some ⟨deed, passed, accepted⟩

/-- Of what passes in a task at most once, no two pass in one task. -/
theorem tasks_distinct {kind : Deed → Bool}
    (once : ∀ number, ((s.history number).map Prod.snd).countP kind ≤ 1) :
    s.deeds.Pairwise fun a b => kind a.2 = true → kind b.2 = true →
      ∀ number, a.2.task? = some number → b.2.task? ≠ some number := by
  refine List.pairwise_iff_forall_sublist.mpr ?_
  intro a b both of_a of_b number a_part b_part
  -- Both would have passed in this task.
  have two := ((both.filter fun deed => decide (deed.2.task? = some number)).map Prod.snd).countP_le
    (p := kind)
  rw [List.filter_eq_self.mpr (by simp [a_part, b_part])] at two
  have one := Nat.le_trans two (once number)
  simp [of_a, of_b] at one

theorem arrivals_distinct (load : Load) (schedule : List Move) :
    ((load.after schedule).arrivals.map Arrival.number).Nodup := by
  refine List.pairwise_map.mpr (List.pairwise_filterMap.mpr ?_)
  refine (tasks_distinct (countP_accepted_le load schedule)).imp ?_
  intro a b apart x here y there same
  rw [arrival?_eq_some here, arrival?_eq_some there] at apart
  exact apart rfl rfl y.number (congrArg some same) rfl

/-! ### The parts of a finished load -/

/-- **What is known of the part of an entry**: which entry it is, how its task has ended, and that it
has ended at its time only.  If it was not cut off, this is the time of the last thing that passed,
the answer to a query or to the batch, and else it is the deadline. -/
structure Part.Of (load : Load) (schedule : List Move) (entries : List (Entry Provider))
    (part : Part) : Prop where
  entry : entries[part.number]? = some part.entry
  outcome : ∃ ending, (load.after schedule).tasks[part.number]? = some ⟨part.entry, .joined ending⟩ ∧
    ending.outcome = part.outcome
  endsAt : ∀ time, EndsAt load schedule part.number time ↔ time = part.time
  time : part.time = load.endTime part.entry part.number
  last : part.outcome.isCancelled = false →
    ∃ before deed, (load.after schedule).history part.number = before ++ [(part.time, deed)]
  cutoff : part.outcome.isCancelled = true → part.time = load.cutoff

theorem Ranked.of {parts : List Part} {entries : List (Entry Provider)}
    (listed : load.discovered = .ok entries) {schedule : List Move}
    (punctual : load.Punctual schedule) (h : Ranked load (load.after schedule) parts) {part : Part}
    (member : part ∈ parts) : part.Of load schedule entries := by
  obtain ⟨time, ending, found, same⟩ := h.joined part member
  have settled := settled_follow punctual found
  rw [same] at settled
  refine ⟨(sound_follow load schedule).getElem?_entries listed found, ⟨ending, found, same⟩, ?_, time,
    ?_, ?_⟩
  · intro moment
    rw [time]
    constructor
    · intro ends
      exact ends.eq_endTime punctual found
    · rintro rfl
      obtain ⟨moment, ends⟩ := exists_endsAt load schedule ⟨_, found, rfl⟩
      rwa [ends.eq_endTime punctual found] at ends
  · rw [time]
    exact settled.exists_last
  · rw [time]
    exact settled.endTime_eq_of_cancelled

/-- **A part that has its batch accepted** ends with that. -/
theorem Part.Of.of_arrival {part : Part} {schedule : List Move} {entries : List (Entry Provider)}
    (h : part.Of load schedule entries) (punctual : load.Punctual schedule) {arrival : Arrival}
    (member : arrival ∈ (load.after schedule).arrivals) (same : part.number = arrival.number) :
    part.time = arrival.time ∧ arrival.batch.provider = part.entry.descriptor := by
  obtain ⟨ending, found, _⟩ := h.outcome
  have passed := mem_deeds_of_arrivals member
  rw [← same] at passed
  obtain ⟨_, time, batch⟩ := (settled_follow punctual found).of_accepted (mem_history passed rfl)
  exact ⟨h.time.trans time.symm, by rw [batch]; rfl⟩

theorem Ranked.perm_range {parts : List Part} (h : Ranked load s parts) (sound : Sound load s)
    (finished : s.phase = .finished) :
    (parts.map Part.number).Perm (List.range s.tasks.length) := by
  refine (List.perm_ext_iff_of_nodup h.distinct List.nodup_range).mpr ?_
  intro number
  rw [List.mem_range]
  constructor
  · intro member
    obtain ⟨part, there, rfl⟩ := List.mem_map.mp member
    obtain ⟨_, _, found, _⟩ := h.joined part there
    exact (List.getElem?_eq_some_iff.mp found).1
  · intro inside
    have found := List.getElem?_eq_getElem inside
    obtain ⟨ending, joined, _⟩ := sound.exists_row finished found
    refine h.all number s.tasks[number].entry ending ?_
    rw [found, ← joined]

/-- **What arrives at the sink is the batches of the delivered parts.** -/
theorem Ranked.perm_arrivals {parts : List Part} {schedule : List Move}
    (punctual : load.Punctual schedule) (finished : (load.after schedule).phase = .finished)
    (h : Ranked load (load.after schedule) parts) :
    ((load.after schedule).arrivals.map Arrival.number).Perm
      ((parts.filter (·.outcome.isDelivered)).map Part.number) := by
  have distinct : ((parts.filter (·.outcome.isDelivered)).map Part.number).Nodup :=
    (List.filter_sublist.map Part.number).nodup h.distinct
  refine (List.perm_ext_iff_of_nodup (arrivals_distinct load schedule) distinct).mpr ?_
  intro number
  constructor
  · intro member
    obtain ⟨arrival, there, rfl⟩ := List.mem_map.mp member
    have passed := mem_deeds_of_arrivals there
    obtain ⟨t, found⟩ := exists_task_of_mem_deeds load schedule passed rfl
    obtain ⟨ending, joined, _⟩ := (sound_follow load schedule).exists_row finished found
    have found : (load.after schedule).tasks[arrival.number]? = some ⟨t.entry, .joined ending⟩ := by
      rw [found, ← joined]
    obtain ⟨part, listed, same⟩ := List.mem_map.mp (h.all _ _ _ found)
    obtain ⟨_, other, joined, outcome⟩ := h.joined part listed
    rw [same, found] at joined
    obtain ⟨_, rfl⟩ : t.entry = part.entry ∧ ending = other := by simpa using joined
    have delivered := ((settled_follow punctual found).of_accepted (mem_history passed rfl)).1
    rw [outcome] at delivered
    exact List.mem_map.mpr ⟨part, List.mem_filter.mpr ⟨listed, delivered⟩, same⟩
  · intro member
    obtain ⟨part, listed, rfl⟩ := List.mem_map.mp member
    obtain ⟨listed, delivered⟩ := List.mem_filter.mp listed
    obtain ⟨_, ending, joined, outcome⟩ := h.joined part listed
    obtain ⟨identities, told⟩ : ∃ identities, ending.outcome = .delivered identities := by
      rw [outcome]
      cases same : part.outcome with
      | delivered identities => exact ⟨identities, rfl⟩
      | queryFailed | deliveryFailed | cancelled | aborted =>
        rw [same] at delivered
        cases delivered
    obtain ⟨_, batch, accepted⟩ :=
      (((course_follow load schedule joined).ends rfl).delivered_iff identities).mp told
    obtain ⟨⟨time, deed⟩, passed, rfl⟩ := List.mem_map.mp accepted
    exact List.mem_map.mpr ⟨⟨time, part.number, batch⟩,
      List.mem_filterMap.mpr ⟨_, (List.mem_filter.mp passed).1, rfl⟩, rfl⟩

theorem lt_of_time_lt {α : Type} {time : α → Nat} {l : List α}
    (sorted : l.Pairwise fun a b => time a ≤ time b) {i j : Nat} {a b : α} (at_i : l[i]? = some a)
    (at_j : l[j]? = some b) (earlier : time a < time b) : i < j := by
  obtain ⟨i_inside, rfl⟩ := List.getElem?_eq_some_iff.mp at_i
  obtain ⟨j_inside, rfl⟩ := List.getElem?_eq_some_iff.mp at_j
  rcases Nat.lt_trichotomy i j with before | same | after
  · exact before
  · subst same
    exact absurd earlier (Nat.lt_irrefl _)
  · have := List.pairwise_iff_getElem.mp sorted j i j_inside i_inside after
    omega

/-- **When an entry ends does not depend on its place**, nor on the other entries, where the sink does
not go by the place. -/
theorem endTime_eq (discovered : Except DirectoryError (List (Entry Provider)))
    (sink : ∀ m n batch, load.sink m batch = load.sink n batch) (entry : Entry Provider) (m n : Nat) :
    Load.endTime { load with discovered } entry m = load.endTime entry n := by
  have alike : Load.Alike { load with discovered } load entry :=
    ⟨rfl, rfl, rfl, rfl, fun m n batch _ => sink m n batch⟩
  rw [endTime, endTime, alike.naturalEnd m n, alike.cutoff]

end State

end Load

namespace Session

theorem arrived_afterLoad_eq (s : Session) (final : Load.State) :
    (s.afterLoad final).sink.arrived = s.sink.arrived ++ final.arrivals.map Arrival.batch := by
  refine (arrived_foldl_receiveDeed _ _).trans ?_
  rw [List.filterMap_map, Load.State.arrivals, List.map_filterMap]
  refine congrArg (_ ++ ·) (List.filterMap_congr ?_)
  intro deed _
  obtain ⟨time, deed⟩ := deed
  cases deed <;> rfl

open Load.State in
/-- **The rows and the batches stand in the order of the ends.** In a finished load whose providers
were listed, the rows are those of the parts of the entries.  Of two entries that end at different
times the earlier one has the earlier row, and what has ended before the deadline stands before all
that the deadline has cut off.

The batches that a sink gains arrive in the order in which they are accepted, one for each delivered
part and at the time at which this part ends.  Hence two delivered entries that end at different times
have their rows and their batches in the same order.  Where an entry is listed plays no part: it ends
when it would end at any other place, and with any other entries beside it. -/
theorem rows_in_order_of_end {load : Load} {entries : List (Entry Provider)}
    (listed : load.discovered = .ok entries) (early : load.discoveryLatency ≤ load.cutoff)
    {schedule : List Load.Move} (punctual : load.Punctual schedule)
    (finished : (load.after schedule).phase = .finished) :
    let final := load.after schedule
    ∃ parts : List Part,
      (final.report load).providers = parts.map Part.row ∧
      (parts.map Part.number).Perm (List.range entries.length) ∧
      (∀ part ∈ parts, part.Of load schedule entries) ∧
      (∀ (i j : Nat) (a b : Part), parts[i]? = some a → parts[j]? = some b →
        a.time < b.time → i < j) ∧
      (∀ (i j : Nat) (a b : Part), parts[i]? = some a → parts[j]? = some b →
        a.time < load.cutoff → b.outcome.isCancelled = true → i < j) ∧
      (∀ s : Session, ∃ arrivals : List Arrival,
        (s.afterLoad final).sink.arrived = s.sink.arrived ++ arrivals.map Arrival.batch ∧
        (arrivals.map Arrival.number).Perm
          ((parts.filter (·.outcome.isDelivered)).map Part.number) ∧
        (∀ arrival ∈ arrivals,
          (arrival.time, .accepted arrival.number arrival.batch) ∈ final.deeds ∧
          ∀ part ∈ parts, part.number = arrival.number →
            part.time = arrival.time ∧ arrival.batch.provider = part.entry.descriptor) ∧
        (∀ (k l : Nat) (x y : Arrival), arrivals[k]? = some x → arrivals[l]? = some y →
          x.time < y.time → k < l) ∧
        ∀ (i j k l : Nat) (a b : Part) (x y : Arrival),
          parts[i]? = some a → parts[j]? = some b → arrivals[k]? = some x → arrivals[l]? = some y →
          a.number = x.number → b.number = y.number → a.time ≠ b.time → (i < j ↔ k < l)) ∧
      ∀ discovered, (∀ m n batch, load.sink m batch = load.sink n batch) → ∀ entry m n,
        Load.endTime { load with discovered } entry m = load.endTime entry n := by
  intro final
  obtain ⟨parts, ranked⟩ := exists_parts punctual
  have sound := sound_follow load schedule
  have fine := discoveryError_eq_none listed early punctual
  have numbers := ranked.perm_range sound finished
  have tasks := Except.ok.inj (listed.symm.trans (sound.listed (by rw [finished]; nofun) fine))
  rw [← List.length_map Task.entry, ← tasks] at numbers
  have parted : ∀ part ∈ parts, part.Of load schedule entries :=
    fun part member => ranked.of listed punctual member
  have rows : ∀ (i j : Nat) (a b : Part), parts[i]? = some a → parts[j]? = some b →
      a.time < b.time → i < j :=
    fun i j a b at_i at_j => lt_of_time_lt ranked.sorted at_i at_j
  have batches : ∀ (k l : Nat) (x y : Arrival), final.arrivals[k]? = some x →
      final.arrivals[l]? = some y → x.time < y.time → k < l :=
    fun k l x y at_k at_l => lt_of_time_lt (arrivals_sorted load schedule) at_k at_l
  refine ⟨parts, ranked.rows, numbers, parted, rows, ?_, ?_, endTime_eq⟩
  · intro i j a b at_i at_j before cut
    refine rows i j a b at_i at_j ?_
    rwa [(parted b (List.mem_of_getElem? at_j)).cutoff cut]
  intro s
  refine ⟨final.arrivals, arrived_afterLoad_eq s final, ranked.perm_arrivals punctual finished, ?_,
    batches, ?_⟩
  · intro arrival member
    refine ⟨mem_deeds_of_arrivals member, ?_⟩
    intro part there same
    exact (parted part there).of_arrival punctual member same
  · intro i j k l a b x y at_i at_j at_k at_l of_a of_b apart
    have time_a := ((parted a (List.mem_of_getElem? at_i)).of_arrival punctual
      (List.mem_of_getElem? at_k) of_a).1
    have time_b := ((parted b (List.mem_of_getElem? at_j)).of_arrival punctual
      (List.mem_of_getElem? at_l) of_b).1
    rcases Nat.lt_or_gt_of_ne apart with before | after
    · have := rows i j a b at_i at_j before
      have := batches k l x y at_k at_l (by omega)
      omega
    · have := rows j i b a at_j at_i after
      have := batches l k y x at_l at_k (by omega)
      omega

def later : Entry Provider := .steady "later" ⟨5, .returned (.ok (.success []))⟩

/-- A load of two providers that deliver, the slower one listed first. -/
def crossed : Load := .small [later, Load.quick] {}

def crossedMoves : List Load.Move :=
  [.wait 2, .discover, .step 0, .step 1, .wait 3, .step 1, .step 1, .join 1, .wait 2, .step 0, .step 0,
    .join 0, .finish]

open Load.State in
/-- The provider that is listed second has the first row, since it ends first. -/
theorem rows_in_order_of_end_crossed :
    crossed.Punctual crossedMoves ∧ (crossed.after crossedMoves).phase = .finished ∧
      ∃ parts : List Part,
        ((crossed.after crossedMoves).report crossed).providers = parts.map Part.row ∧
        (parts.map Part.number).Perm [0, 1] ∧
        ∀ (i j : Nat) (a b : Part), parts[i]? = some a → parts[j]? = some b →
          a.number = 1 → b.number = 0 → i < j := by
  have punctual : crossed.Punctual crossedMoves := by decide +kernel
  have finished : (crossed.after crossedMoves).phase = .finished := by decide
  have listed : crossed.discovered = .ok [later, Load.quick] := rfl
  obtain ⟨parts, rows, numbers, parted, sorted, _⟩ :=
    rows_in_order_of_end listed (by decide +kernel) punctual finished
  refine ⟨punctual, finished, parts, rows, numbers, ?_⟩
  intro i j a b at_i at_j second first
  have of_a := parted a (List.mem_of_getElem? at_i)
  have of_b := parted b (List.mem_of_getElem? at_j)
  have entry_a := of_a.entry
  have entry_b := of_b.entry
  rw [second] at entry_a
  rw [first] at entry_b
  have quick : a.entry = Load.quick := (Option.some.inj entry_a).symm
  have late : b.entry = later := (Option.some.inj entry_b).symm
  have five : crossed.endTime Load.quick 1 = 5 := by decide +kernel
  have seven : crossed.endTime later 0 = 7 := by decide +kernel
  refine sorted i j a b at_i at_j ?_
  rw [of_a.time, of_b.time, quick, late, second, first, five, seven]
  decide

end Session

end Environments
