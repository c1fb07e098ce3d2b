import Environments.Proofs.Load.Duration
import Environments.Proofs.Load.Queries

/-!
# More time loses nothing

`more_time_loses_nothing` compares the loads of one world under two deadlines: what the earlier
deadline lets pass, the later one lets pass as well, and it lets pass more or the same.

The reason is that a deadline does no more than part the natural history of an entry in two
(`Settled.exists_parted`).  What has passed has come by the deadline, and what has not would have come
at it or after it.  Where several things fall on one deadline it is open which of them pass, but all
of them are before a later one.
-/

namespace Environments

namespace Outcome

theorem isCancelled_ofDelivery (count : Nat) (answer : Answer (Except SinkError Unit)) :
    (ofDelivery count answer).isCancelled = false := by
  rcases answer with (error | accepted) | message <;> rfl

end Outcome

namespace Load

section Parted

variable {load : Load} {entry : Entry Provider} {number index : Nat}

/-! ### The natural history, parted after some queries -/

theorem time_of_exchangeAt {deed : Nat × Deed} (member : deed ∈ load.exchangeAt entry number index) :
    load.answerTime entry index ≤ deed.1 ∧ deed.1 ≤ load.answerTime entry (index + 1) := by
  have grows : load.answerTime entry index ≤ load.answerTime entry (index + 1) :=
    answerTime_mono (Nat.le_succ index)
  unfold exchangeAt at member
  split at member
  · rcases List.mem_cons.mp member with rfl | last
    · exact ⟨Nat.le_refl _, grows⟩
    · rw [List.mem_singleton.mp last]
      exact ⟨grows, Nat.le_refl _⟩
  · cases member

theorem time_of_firstExchanges {count : Nat} {deed : Nat × Deed}
    (member : deed ∈ load.firstExchanges entry number count) :
    deed.1 ≤ load.answerTime entry count := by
  obtain ⟨index, inside, here⟩ := List.mem_flatMap.mp member
  exact Nat.le_trans (time_of_exchangeAt here).2 (answerTime_mono (List.mem_range.mp inside))

theorem exists_firstExchanges_append (load : Load) (entry : Entry Provider) (number : Nat)
    {first count : Nat} (le : first ≤ count) :
    ∃ rest, load.firstExchanges entry number count = load.firstExchanges entry number first ++ rest ∧
      ∀ deed ∈ rest, load.answerTime entry first ≤ deed.1 := by
  induction le with
  | refl => exact ⟨[], (List.append_nil _).symm, by simp⟩
  | @step count le ih =>
    obtain ⟨rest, same, later⟩ := ih
    refine ⟨rest ++ load.exchangeAt entry number count, ?_, fun deed member => ?_⟩
    · rw [← List.append_assoc, ← same]
      simp [firstExchanges, List.range_succ]
    · rcases List.mem_append.mp member with before | last
      · exact later deed before
      · exact Nat.le_trans (answerTime_mono le) (time_of_exchangeAt last).1

theorem exists_naturalHistory_append (load : Load) (entry : Entry Provider) (number : Nat)
    {count : Nat} (le : count ≤ load.goodAnswers entry ∨
      ∃ index, count = index + 1 ∧ index ≤ load.goodAnswers entry ∧ index < entry.developers.length) :
    ∃ rest, load.naturalHistory entry number = load.firstExchanges entry number count ++ rest ∧
      ∀ deed ∈ rest, load.answerTime entry count ≤ deed.1 := by
  unfold naturalHistory
  cases failed : load.failure? entry with
  | some first =>
    obtain ⟨place, outcome⟩ := first
    rw [goodAnswers_of_failure failed] at le
    exact exists_firstExchanges_append load entry number (by omega)
  | none =>
    rw [goodAnswers_of_none failed] at le
    have le : count ≤ entry.developers.length := by omega
    obtain ⟨rest, same, later⟩ := exists_firstExchanges_append load entry number le
    refine ⟨_, by rw [same, List.append_assoc], fun deed member => ?_⟩
    rcases List.mem_append.mp member with before | last
    · exact later deed before
    · have handed : load.answerTime entry count ≤ load.handOverTime entry := answerTime_mono le
      rcases List.mem_cons.mp last with rfl | last
      · exact handed
      · rw [List.mem_singleton.mp last]
        exact Nat.le_trans handed (Nat.le_add_right _ _)

theorem length_firstExchanges (load : Load) (number : Nat) {count : Nat}
    (le : count ≤ entry.developers.length) :
    (load.firstExchanges entry number count).length = 2 * count := by
  induction count with
  | zero => rfl
  | succ count ih =>
    obtain ⟨developer, reply, query⟩ := query?_isSome load le
    rw [firstExchanges_succ query, List.length_append, ih (Nat.le_of_succ_le le)]
    simp
    omega

/-- Before the natural end there is more to come than so many good answers. -/
theorem naturalHistory_ne_firstExchanges (load : Load) (number : Nat)
    (good : index ≤ load.goodAnswers entry) :
    load.naturalHistory entry number ≠ load.firstExchanges entry number index := by
  intro same
  have short := congrArg List.length same
  rw [length_firstExchanges load number (Nat.le_trans good goodAnswers_le), naturalHistory] at short
  cases failed : load.failure? entry with
  | none =>
    rw [goodAnswers_of_none failed] at good
    simp [failed, length_firstExchanges] at short
    omega
  | some first =>
    obtain ⟨place, outcome⟩ := first
    rw [goodAnswers_of_failure failed] at good
    have inside : place < entry.developers.length := lt_length_of_failure? failed
    simp [failed, length_firstExchanges load number inside] at short
    omega

theorem time_of_naturalHistory {deed : Nat × Deed}
    (member : deed ∈ load.naturalHistory entry number) :
    deed.1 ≤ (load.naturalEnd entry number).1 := by
  unfold naturalHistory at member
  cases failed : load.failure? entry with
  | some first =>
    obtain ⟨place, outcome⟩ := first
    rw [failed] at member
    rw [naturalEnd_of_failure number failed]
    exact time_of_firstExchanges member
  | none =>
    rw [failed] at member
    rw [naturalEnd_of_none number failed]
    have handed : load.handOverTime entry ≤
      load.handOverTime entry + (load.delivery entry number).after := Nat.le_add_right _ _
    rcases List.mem_append.mp member with before | last
    · exact Nat.le_trans (time_of_firstExchanges before) handed
    · rcases List.mem_cons.mp last with rfl | last
      · exact handed
      · rw [List.mem_singleton.mp last]

theorem isCancelled_naturalEnd (load : Load) (entry : Entry Provider) (number : Nat) :
    (load.naturalEnd entry number).2.isCancelled = false := by
  cases failed : load.failure? entry with
  | none =>
    rw [naturalEnd_of_none number failed]
    exact Outcome.isCancelled_ofDelivery _ _
  | some first =>
    obtain ⟨place, outcome⟩ := first
    rw [naturalEnd_of_failure number failed]
    have here := (failure?_eq_some_iff.mp failed).1
    unfold failureAt? at here
    split at here
    · rw [← Option.some.inj here]
      rfl
    · rw [← Option.some.inj here]
      rfl
    · cases here

/-- **The natural history of an entry, parted by the deadline** into what has passed and what has not,
with what this makes of the entry. -/
structure Parted (load : Load) (entry : Entry Provider) (number : Nat) (outcome : Outcome)
    (passed missed : List (Nat × Deed)) : Prop where
  whole : load.naturalHistory entry number = passed ++ missed
  le_cutoff : ∀ deed ∈ passed, deed.1 ≤ load.cutoff
  cutoff_le : ∀ deed ∈ missed, load.cutoff ≤ deed.1
  ended : missed = [] → outcome = (load.naturalEnd entry number).2
  cancelled : missed ≠ [] → outcome.isCancelled = true

theorem Settled.exists_parted {outcome : Outcome} {history : List (Nat × Deed)}
    (h : load.Settled entry number outcome history) :
    ∃ missed, load.Parted entry number outcome history missed := by
  cases h with
  | natural running in_time =>
    refine ⟨[], (List.append_nil _).symm, fun deed member => ?_, by simp, fun _ => rfl, absurd rfl⟩
    exact Nat.le_trans (time_of_naturalHistory member) in_time
  | @cutResting index good at_time =>
    obtain ⟨rest, whole, later⟩ := exists_naturalHistory_append load entry number (Or.inl good)
    refine ⟨rest, whole, fun deed member => ?_, fun deed member => ?_, fun none => ?_, fun _ => rfl⟩
    · rw [← at_time]
      exact time_of_firstExchanges member
    · rw [← at_time]
      exact later deed member
    · rw [none, List.append_nil] at whole
      exact absurd whole (naturalHistory_ne_firstExchanges load number good)
  | @cutQuerying index developer reply good query running called due =>
    have inside := lt_length_of_query? query
    obtain ⟨rest, whole, later⟩ := exists_naturalHistory_append load entry number
      (Or.inr ⟨index, rfl, good, inside⟩)
    refine ⟨(load.answerTime entry (index + 1), .answered number developer reply.answer) :: rest, ?_,
      fun deed member => ?_, fun deed member => ?_, nofun, fun _ => rfl⟩
    · rw [whole, firstExchanges_succ query, List.append_assoc, List.append_assoc]
      rfl
    · rcases List.mem_append.mp member with before | last
      · exact Nat.le_trans (time_of_firstExchanges before) called
      · rw [List.mem_singleton.mp last]
        exact called
    · rcases List.mem_cons.mp member with rfl | last
      · exact due
      · exact Nat.le_trans due (later deed last)
  | cutDelivering whole running handed due =>
    refine ⟨[(load.handOverTime entry + (load.delivery entry number).after,
      .ofDelivery number (load.batch entry) (load.delivery entry number).answer)], ?_,
      fun deed member => ?_, fun deed member => ?_, nofun, fun _ => rfl⟩
    · rw [naturalHistory, whole, List.append_assoc]
      rfl
    · rcases List.mem_append.mp member with before | last
      · exact Nat.le_trans (time_of_firstExchanges before) handed
      · rw [List.mem_singleton.mp last]
        exact handed
    · rw [List.mem_singleton.mp member]
      exact due

theorem Parted.missed_eq_nil {outcome : Outcome} {passed missed : List (Nat × Deed)}
    (h : load.Parted entry number outcome passed missed) (uncut : outcome.isCancelled = false) :
    missed = [] := by
  by_contra some
  cases uncut.symm.trans (h.cancelled some)

end Parted

/-! ### Two deadlines -/

def withDeadline (load : Load) (deadline : Nat) : Load :=
  { load with config := load.config.withDeadline deadline }

theorem answerTime_withDeadline (load : Load) (deadline : Nat) (entry : Entry Provider) (count : Nat) :
    (load.withDeadline deadline).answerTime entry count = load.answerTime entry count := by
  induction count with
  | zero => rfl
  | succ count ih =>
    rw [answerTime, answerTime, ih]
    rfl

theorem naturalEnd_withDeadline (load : Load) (deadline : Nat) (entry : Entry Provider)
    (number : Nat) :
    (load.withDeadline deadline).naturalEnd entry number = load.naturalEnd entry number := by
  simp only [naturalEnd, handOverTime, delivery, batch, answerTime_withDeadline]
  rfl

theorem naturalHistory_withDeadline (load : Load) (deadline : Nat) (entry : Entry Provider)
    (number : Nat) :
    (load.withDeadline deadline).naturalHistory entry number = load.naturalHistory entry number := by
  have exchanges : ∀ count, (load.withDeadline deadline).firstExchanges entry number count =
      load.firstExchanges entry number count := by
    intro count
    refine congrArg (List.flatMap · _) (funext fun index => ?_)
    simp only [exchangeAt, answerTime_withDeadline]
    rfl
  simp only [naturalHistory, exchanges, handOverTime, delivery, batch, answerTime_withDeadline]
  rfl

theorem cutoff_withDeadline {load : Load} {deadline : Nat}
    (tellable : Config.isTellable (load.ticks + deadline) = true) :
    (load.withDeadline deadline).cutoff = deadline :=
  if_pos tellable

theorem isTellable_mono {sooner later : Nat} (le : sooner ≤ later)
    (tellable : Config.isTellable later = true) : Config.isTellable sooner = true := by
  simp only [Config.isTellable, decide_eq_true_eq] at tellable ⊢
  omega

section Later

variable {load : Load} {entry : Entry Provider} {number : Nat} {deadline₁ deadline₂ : Nat}
  {outcome₁ outcome₂ : Outcome} {passed₁ missed₁ passed₂ missed₂ : List (Nat × Deed)}

/-- **What has passed by one deadline has passed by a later one.** -/
theorem Parted.passed_prefix
    (h₁ : (load.withDeadline deadline₁).Parted entry number outcome₁ passed₁ missed₁)
    (h₂ : (load.withDeadline deadline₂).Parted entry number outcome₂ passed₂ missed₂)
    (later : (load.withDeadline deadline₁).cutoff < (load.withDeadline deadline₂).cutoff) :
    passed₁ <+: passed₂ := by
  have same : passed₁ ++ missed₁ = passed₂ ++ missed₂ := by
    rw [← h₁.whole, ← h₂.whole, naturalHistory_withDeadline, naturalHistory_withDeadline]
  rcases List.append_eq_append_iff.mp same with ⟨more, longer, _⟩ | ⟨more, longer, rest⟩
  · exact ⟨more, longer.symm⟩
  · cases more with
    | nil => exact ⟨[], by rw [List.append_nil, longer, List.append_nil]⟩
    | cons deed more =>
      -- It would have passed by the earlier deadline, and not before the later one.
      have before := h₁.le_cutoff deed (by simp [longer])
      have after := h₂.cutoff_le deed (by simp [rest])
      omega

/-- **What has ended by one deadline ends in the same way under a later one.** -/
theorem Parted.ended_alike
    (h₁ : (load.withDeadline deadline₁).Parted entry number outcome₁ passed₁ missed₁)
    (h₂ : (load.withDeadline deadline₂).Parted entry number outcome₂ passed₂ missed₂)
    (later : (load.withDeadline deadline₁).cutoff < (load.withDeadline deadline₂).cutoff)
    (uncut : outcome₁.isCancelled = false) : outcome₂ = outcome₁ ∧ passed₂ = passed₁ := by
  have none₁ := h₁.missed_eq_nil uncut
  obtain ⟨more, longer⟩ := h₁.passed_prefix h₂ later
  have whole : passed₁ = passed₁ ++ (more ++ missed₂) := by
    calc passed₁ = passed₁ ++ missed₁ := by rw [none₁, List.append_nil]
      _ = passed₂ ++ missed₂ := by
        rw [← h₁.whole, ← h₂.whole, naturalHistory_withDeadline, naturalHistory_withDeadline]
      _ = passed₁ ++ (more ++ missed₂) := by rw [← longer, List.append_assoc]
  obtain ⟨rfl, none₂⟩ := List.append_eq_nil_iff.mp (List.append_right_eq_self.mp whole.symm)
  refine ⟨?_, by rw [← longer, List.append_nil]⟩
  rw [h₁.ended none₁, h₂.ended none₂, naturalEnd_withDeadline, naturalEnd_withDeadline]

end Later

namespace State

/-! ### Two loads of one world -/

/-- The number of good answers that have passed. -/
def goodAnswersIn (history : List (Nat × Deed)) : Nat :=
  (Task.answers (history.map Prod.snd)).countP fun answer => answer.2.isResult

theorem goodAnswersIn_le {history later : List (Nat × Deed)} (h : history <+: later) :
    goodAnswersIn history ≤ goodAnswersIn later :=
  ((h.map Prod.snd).filterMap Deed.answer?).sublist.countP_le

/-- A cancelled row tells how many good answers had passed. -/
theorem goodAnswersIn_of_cancelled {load : Load} {schedule : List Move} {number completed : Nat}
    {entry : Entry Provider} {ending : Ending}
    (found : (load.after schedule).tasks[number]? = some ⟨entry, .joined ending⟩)
    (cancelled : ending.outcome = .cancelled completed) :
    goodAnswersIn ((load.after schedule).history number) = completed := by
  have reached := ((course_follow load schedule found).ends rfl).reached
  rw [cancelled] at reached
  obtain ⟨_, _, count, good⟩ := reached
  rw [goodAnswersIn, List.countP_eq_length.mpr good, count]

/-- **What becomes of an entry where there is more time.** -/
structure Outlasts (outcome₁ outcome₂ : Outcome) (history₁ history₂ : List (Nat × Deed)) : Prop where
  history : history₁ <+: history₂
  ended : outcome₁.isCancelled = false → outcome₂ = outcome₁ ∧ history₂ = history₁
  cancelled : ∀ completed₁, outcome₁ = .cancelled completed₁ →
    (outcome₂.isCancelled = false ∧ completed₁ ≤ goodAnswersIn history₂) ∨
    ∃ completed₂, outcome₂ = .cancelled completed₂ ∧ completed₁ ≤ completed₂

section Later

variable {load : Load} {deadline₁ deadline₂ : Nat} {schedule₁ schedule₂ : List Move}
  (later : (load.withDeadline deadline₁).cutoff < (load.withDeadline deadline₂).cutoff)
  (punctual₁ : (load.withDeadline deadline₁).Punctual schedule₁)
  (punctual₂ : (load.withDeadline deadline₂).Punctual schedule₂)

include later punctual₁ punctual₂

theorem outlasts_of_joined {number : Nat} {entry : Entry Provider} {ending₁ ending₂ : Ending}
    (found₁ : ((load.withDeadline deadline₁).after schedule₁).tasks[number]? =
      some ⟨entry, .joined ending₁⟩)
    (found₂ : ((load.withDeadline deadline₂).after schedule₂).tasks[number]? =
      some ⟨entry, .joined ending₂⟩) :
    Outlasts ending₁.outcome ending₂.outcome
      (((load.withDeadline deadline₁).after schedule₁).history number)
      (((load.withDeadline deadline₂).after schedule₂).history number) := by
  obtain ⟨missed₁, parted₁⟩ := (settled_follow punctual₁ found₁).exists_parted
  obtain ⟨missed₂, parted₂⟩ := (settled_follow punctual₂ found₂).exists_parted
  have history := parted₁.passed_prefix parted₂ later
  refine ⟨history, parted₁.ended_alike parted₂ later, ?_⟩
  intro completed₁ cancelled₁
  have count₁ := goodAnswersIn_of_cancelled found₁ cancelled₁
  have more := goodAnswersIn_le history
  cases cut₂ : ending₂.outcome.isCancelled with
  | false => exact Or.inl ⟨rfl, by omega⟩
  | true =>
    obtain ⟨completed₂, cancelled₂⟩ : ∃ completed₂, ending₂.outcome = .cancelled completed₂ := by
      unfold Outcome.isCancelled at cut₂
      split at cut₂
      · exact ⟨_, ‹_›⟩
      · cases cut₂
    have count₂ := goodAnswersIn_of_cancelled found₂ cancelled₂
    exact Or.inr ⟨completed₂, cancelled₂, by omega⟩

variable (finished₁ : ((load.withDeadline deadline₁).after schedule₁).phase = .finished)
  (finished₂ : ((load.withDeadline deadline₂).after schedule₂).phase = .finished)

include finished₁ finished₂

/-- **Providers that are listed by one deadline are listed by a later one**, and each entry has its
part in both loads. -/
theorem listed_of_later
    (fine₁ : ((load.withDeadline deadline₁).after schedule₁).discoveryError = none) :
    ((load.withDeadline deadline₂).after schedule₂).discoveryError = none ∧
      ∃ (entries : List (Entry Provider)) (outcomes₁ outcomes₂ : List Outcome),
        load.discovered = .ok entries ∧
        outcomes₁.length = entries.length ∧ outcomes₂.length = entries.length ∧
        ((load.withDeadline deadline₁).after schedule₁).rows.Perm
          (Report.rowsOf entries outcomes₁) ∧
        ((load.withDeadline deadline₂).after schedule₂).rows.Perm
          (Report.rowsOf entries outcomes₂) ∧
        ∀ (number : Nat) (entry : Entry Provider), entries[number]? = some entry →
          ∃ outcome₁ outcome₂, outcomes₁[number]? = some outcome₁ ∧
            outcomes₂[number]? = some outcome₂ ∧ Outlasts outcome₁ outcome₂
              (((load.withDeadline deadline₁).after schedule₁).history number)
              (((load.withDeadline deadline₂).after schedule₂).history number) := by
  have sound₁ := sound_follow (load.withDeadline deadline₁) schedule₁
  have sound₂ := sound_follow (load.withDeadline deadline₂) schedule₂
  have early₁ : load.discoveryLatency ≤ (load.withDeadline deadline₁).cutoff := by
    cases listed_follow punctual₁ with
    | pending phase => cases finished₁.symm.trans phase
    | found _ _ listed => exact Nat.le_trans listed (capped_follow punctual₁).le_cutoff
    | failed _ _ failed | timedOut _ _ failed => cases fine₁.symm.trans failed
  obtain ⟨entries, outcomes₁, listed, length₁, rows₁, ended₁⟩ := sound₁.exists_outcomes finished₁ fine₁
  have early₂ : load.discoveryLatency ≤ (load.withDeadline deadline₂).cutoff := by omega
  have listed₂ : (load.withDeadline deadline₂).discovered = .ok entries := listed
  have fine₂ := discoveryError_eq_none listed₂ early₂ punctual₂
  obtain ⟨found, outcomes₂, same, length₂, rows₂, ended₂⟩ := sound₂.exists_outcomes finished₂ fine₂
  obtain rfl : entries = found := Except.ok.inj (listed.symm.trans same)
  refine ⟨fine₂, entries, outcomes₁, outcomes₂, listed, length₁, length₂, rows₁, rows₂, ?_⟩
  intro number entry here
  obtain ⟨ending₁, told₁, found₁⟩ := ended₁ number entry here
  obtain ⟨ending₂, told₂, found₂⟩ := ended₂ number entry here
  exact ⟨_, _, told₁, told₂, outlasts_of_joined later punctual₁ punctual₂ found₁ found₂⟩

/-- **What has passed with a provider by one deadline has passed by a later one**, whatever the
listing of the providers came to. -/
theorem history_prefix (number : Nat) :
    ((load.withDeadline deadline₁).after schedule₁).history number <+:
      ((load.withDeadline deadline₂).after schedule₂).history number := by
  have sound₁ := sound_follow (load.withDeadline deadline₁) schedule₁
  cases found : ((load.withDeadline deadline₁).after schedule₁).tasks[number]? with
  | none =>
    rw [(courses_follow (load.withDeadline deadline₁) schedule₁).absent number found]
    exact List.nil_prefix
  | some t =>
    have fine₁ : ((load.withDeadline deadline₁).after schedule₁).discoveryError = none := by
      by_contra failed
      rw [(sound₁.unlisted failed).2] at found
      cases found
    obtain ⟨_, entries, _, _, listed, _, _, _, _, each⟩ :=
      listed_of_later later punctual₁ punctual₂ finished₁ finished₂ fine₁
    obtain ⟨_, _, _, _, outlasts⟩ := each number _ (sound₁.getElem?_entries listed found)
    exact outlasts.history

/-- **A load that is over before its deadline is over before a later one.** -/
theorem elapsed_eq_false
    (running₁ : ((load.withDeadline deadline₁).after schedule₁).elapsed = false) :
    ((load.withDeadline deadline₂).after schedule₂).elapsed = false := by
  have capped₁ := (capped_follow punctual₁).le_cutoff
  cases listed_follow punctual₁ with
  | pending phase => cases finished₁.symm.trans phase
  | timedOut _ _ _ _ elapsed => cases running₁.symm.trans elapsed
  | failed _ unlisted _ now =>
    -- The failure comes before the later deadline as well.
    cases listed_follow punctual₂ with
    | pending phase => cases finished₂.symm.trans phase
    | found running fine =>
      cases ((sound_follow _ schedule₂).listed running fine).symm.trans unlisted
    | failed _ _ _ _ inTime => exact inTime
    | timedOut _ late =>
      have : (load.withDeadline deadline₁).discoveryLatency =
        (load.withDeadline deadline₂).discoveryLatency := rfl
      omega
  | found _ fine₁ at_time =>
    obtain ⟨entries, outcomes₁, listed, _, _, ended₁⟩ :=
      (sound_follow _ schedule₁).exists_outcomes finished₁ fine₁
    have allEnded : (load.withDeadline deadline₂).lastEnd entries ≤
        ((load.withDeadline deadline₁).after schedule₁).now := by
      refine lastEnd_le at_time ?_
      intro number entry here
      obtain ⟨ending₁, _, found₁⟩ := ended₁ number entry here
      rw [naturalEnd_withDeadline, ← naturalEnd_withDeadline load deadline₁]
      exact naturalEnd_le_now punctual₁ running₁ found₁
    have listed₂ : (load.withDeadline deadline₂).discovered = .ok entries := listed
    have ahead := now_le_lastEnd listed₂ punctual₂
    cases running₂ : ((load.withDeadline deadline₂).after schedule₂).elapsed with
    | false => rfl
    | true =>
      have := (capped_follow punctual₂).of_elapsed running₂
      omega

end Later

/-- **More time loses nothing.** Two loads do not differ but in their deadlines, which the clock can
show, and the sink answers a batch of an entry alike in both, as it does if it goes by the provider.

What has passed with a provider by the earlier deadline, its calls in particular, has passed by the
later one, at the same times, and a batch that was accepted by the one was accepted by the other.
Providers that are listed by the earlier deadline are listed by the later one.  An entry that has
ended by the earlier one ends in the same way, and all that passes is the same.  An entry that was
cancelled with so many results has at least as many good answers under the later deadline, where it
ends otherwise or is cancelled too.  A load that is not cut off by the earlier deadline is not cut off
by the later one.  None of this depends on what falls on a deadline, nor on the order in which things
happen that are due at one time. -/
theorem more_time_loses_nothing (load : Load) {deadline₁ deadline₂ : Nat}
    (later : deadline₁ < deadline₂)
    (tellable : Config.isTellable (load.ticks + deadline₂) = true) {schedule₁ schedule₂ : List Move}
    (punctual₁ : (load.withDeadline deadline₁).Punctual schedule₁)
    (punctual₂ : (load.withDeadline deadline₂).Punctual schedule₂)
    (finished₁ : ((load.withDeadline deadline₁).after schedule₁).phase = .finished)
    (finished₂ : ((load.withDeadline deadline₂).after schedule₂).phase = .finished) :
    let first := (load.withDeadline deadline₁).after schedule₁
    let second := (load.withDeadline deadline₂).after schedule₂
    let report₁ := first.report (load.withDeadline deadline₁)
    let report₂ := second.report (load.withDeadline deadline₂)
    (∀ number, first.history number <+: second.history number ∧
      Task.queries ((first.history number).map Prod.snd) <+:
        Task.queries ((second.history number).map Prod.snd) ∧
      ∀ time batch, (time, .accepted number batch) ∈ first.deeds →
        (time, .accepted number batch) ∈ second.deeds) ∧
    (report₁.discoveryError = none → report₂.discoveryError = none ∧
      ∃ (entries : List (Entry Provider)) (outcomes₁ outcomes₂ : List Outcome),
        load.discovered = .ok entries ∧
        outcomes₁.length = entries.length ∧ outcomes₂.length = entries.length ∧
        report₁.providers.Perm (Report.rowsOf entries outcomes₁) ∧
        report₂.providers.Perm (Report.rowsOf entries outcomes₂) ∧
        ∀ (number : Nat) (entry : Entry Provider), entries[number]? = some entry →
          ∃ outcome₁ outcome₂, outcomes₁[number]? = some outcome₁ ∧
            outcomes₂[number]? = some outcome₂ ∧
            Outlasts outcome₁ outcome₂ (first.history number) (second.history number)) ∧
    (report₁.deadlineElapsed = false → report₂.deadlineElapsed = false) := by
  intro first second report₁ report₂
  have later : (load.withDeadline deadline₁).cutoff < (load.withDeadline deadline₂).cutoff := by
    rwa [cutoff_withDeadline tellable, cutoff_withDeadline (isTellable_mono (by omega) tellable)]
  refine ⟨?_, listed_of_later later punctual₁ punctual₂ finished₁ finished₂,
    elapsed_eq_false later punctual₁ punctual₂ finished₁ finished₂⟩
  intro number
  have passed := history_prefix later punctual₁ punctual₂ finished₁ finished₂ number
  refine ⟨passed, (passed.map Prod.snd).filterMap Deed.query?, ?_⟩
  intro time batch accepted
  exact (List.mem_filter.mp (passed.subset (mem_history accepted rfl))).1

/-- A schedule of the mixed load where its deadline comes with the answer of the quick provider. -/
def tiedMoves : List Move :=
  [.wait 2, .discover, .step 0, .step 1, .step 2, .join 0, .wait 3, .expire, .step 1, .step 2, .join 1,
    .join 2, .finish]

/-- The provider that answers just at the earlier deadline is cancelled there, and delivers under the
later one; the one that breaks down does so under both. -/
theorem more_time_loses_nothing_mixed :
    (mixed.withDeadline 5).Punctual tiedMoves ∧ (mixed.withDeadline 10).Punctual mixedMoves ∧
      ((mixed.withDeadline 5).after tiedMoves).phase = .finished ∧
      ((mixed.withDeadline 10).after mixedMoves).phase = .finished ∧
      ((mixed.withDeadline 5).after tiedMoves).rows.Perm
        [⟨broken.descriptor, .aborted (breakdownReport "oops")⟩, ⟨quick.descriptor, .cancelled 0⟩,
          ⟨slow.descriptor, .cancelled 0⟩] ∧
      ((mixed.withDeadline 10).after mixedMoves).rows.Perm
        [⟨broken.descriptor, .aborted (breakdownReport "oops")⟩, ⟨quick.descriptor, .delivered 1⟩,
          ⟨slow.descriptor, .cancelled 0⟩] ∧
      ∀ number, ((mixed.withDeadline 5).after tiedMoves).history number <+:
        ((mixed.withDeadline 10).after mixedMoves).history number := by
  have punctual₁ : (mixed.withDeadline 5).Punctual tiedMoves := by decide +kernel
  have punctual₂ : (mixed.withDeadline 10).Punctual mixedMoves := by decide +kernel
  have finished₁ : ((mixed.withDeadline 5).after tiedMoves).phase = .finished := by decide
  have finished₂ : ((mixed.withDeadline 10).after mixedMoves).phase = .finished := by decide
  obtain ⟨passed, _⟩ := more_time_loses_nothing mixed (by decide) (by decide +kernel)
    punctual₁ punctual₂ finished₁ finished₂
  exact ⟨punctual₁, punctual₂, finished₁, finished₂, by decide +kernel, by decide +kernel,
    fun number => (passed number).1⟩

end State

end Load

end Environments
