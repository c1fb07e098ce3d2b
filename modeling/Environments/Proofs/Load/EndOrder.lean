import Environments.Proofs.Load.ClosedForm
import Environments.Proofs.Load.Log
import Environments.Proofs.Load.MoreTime

/-!
# The order in which entries end

The rows of a report stand in the order in which the entries have ended: `exists_parts`.

When an entry ends does not depend on the others.  `Load.endTime` is its natural end or the deadline,
whichever is earlier, and `exists_endsAt` says that the task of the entry makes the step by which it
ends at that time.  No time passes between this step and the one by which the load takes note of it
(`endTime_eq_now`), so that each new row belongs to an entry that ends no earlier than those before.
Entries that end at one time may have their rows in any order.
-/

namespace Environments.Load

variable {load : Load} {entry : Entry Provider} {number : Nat}

/-- **The time at which an entry ends**: its natural end, or the deadline if this is earlier. -/
def endTime (load : Load) (entry : Entry Provider) (number : Nat) : Nat :=
  min (load.naturalEnd entry number).1 load.cutoff

theorem Settled.endTime_eq_of_cancelled {outcome : Outcome} {history : List (Nat × Deed)}
    (h : load.Settled entry number outcome history) (cut : outcome.isCancelled = true) :
    load.endTime entry number = load.cutoff := by
  rcases h.natural_or_cancelled with ⟨natural, _⟩ | ⟨completed, _, late, _⟩
  · rw [natural, isCancelled_naturalEnd] at cut
    cases cut
  · exact Nat.min_eq_right late

theorem exists_naturalHistory_eq_concat (load : Load) (entry : Entry Provider) (number : Nat) :
    ∃ before deed, load.naturalHistory entry number =
      before ++ [((load.naturalEnd entry number).1, deed)] := by
  unfold naturalHistory
  cases failed : load.failure? entry with
  | some first =>
    obtain ⟨index, outcome⟩ := first
    obtain ⟨developer, reply, query⟩ := query?_isSome load (lt_length_of_failure? failed)
    rw [naturalEnd_of_failure number failed]
    exact ⟨load.firstExchanges entry number index ++
        [(load.answerTime entry index, .called number developer load.config.options)],
      .answered number developer reply.answer, by simp [firstExchanges_succ query]⟩
  | none =>
    rw [naturalEnd_of_none number failed]
    exact ⟨load.firstExchanges entry number entry.developers.length ++
        [(load.handOverTime entry, .handed number (load.batch entry))],
      .ofDelivery number (load.batch entry) (load.delivery entry number).answer, by simp⟩

/-- **What ends by itself ends with the last thing that passes.** -/
theorem Settled.exists_last {outcome : Outcome} {history : List (Nat × Deed)}
    (h : load.Settled entry number outcome history) (uncut : outcome.isCancelled = false) :
    ∃ before deed, history = before ++ [(load.endTime entry number, deed)] := by
  cases h with
  | natural _ in_time =>
    rw [endTime, Nat.min_eq_left in_time]
    exact exists_naturalHistory_eq_concat load entry number
  | cutResting | cutQuerying | cutDelivering => cases uncut

end Environments.Load

namespace Environments.Task

variable {load : Load} {entry : Entry Provider} {number now : Nat}

theorem OnTime.settled {stage : Stage} {history : List (Nat × Deed)} {ending : Ending}
    (h : OnTime load entry number now stage history) (ended : stage.ending? = some ending) :
    load.Settled entry number ending.outcome history := by
  cases h with
  | resting | querying | delivering => cases ended
  | ended settled | joined settled =>
    obtain rfl := Option.some.inj ended
    exact settled

theorem Advances.eq_of_ended {cancelled : Bool} {first last : Stage} {deeds : List Deed}
    (h : Advances load number entry now cancelled first deeds last)
    (ended : first.ending?.isSome = true) : last = first := by
  induction h with
  | refl => rfl
  | tail _ event ih =>
    subst ih
    cases event <;> cases ended

end Environments.Task

namespace Environments.Load.State

variable {load : Load} {s : State}

/-! ### When a task ends -/

/-- The task with a number has ended. -/
def HasEnded (s : State) (number : Nat) : Prop :=
  ∃ t, s.tasks[number]? = some t ∧ t.stage.ending?.isSome = true

/-- **The task with a number ends at a time**: then it makes the step by which it ends. -/
def EndsAt (load : Load) (schedule : List Move) (number time : Nat) : Prop :=
  ∃ first later, schedule = first ++ .step number :: later ∧ (load.after first).now = time ∧
    ¬HasEnded (load.after first) number ∧ HasEnded (load.after (first ++ [.step number])) number

/-- **A task that has not ended before a move and has ended after it** has made a step. -/
theorem eq_step_of_hasEnded {move : Move} {s' : State} {number : Nat} (sound : Sound load s)
    (effect : Effect load s move s') (before : ¬HasEnded s number) (after : HasEnded s' number) :
    move = .step number ∧ s'.now = s.now ∧ ∃ t, s.tasks[number]? = some t := by
  obtain ⟨t, found, ended⟩ := after
  cases effect with
  | stay | wait | fail | timeOut | cancel | close => exact absurd ⟨t, found, ended⟩ before
  | @start entries phase =>
    obtain ⟨inFlight, same, _⟩ := start_eq load (sound.discovering phase).1 entries
    rw [same, List.getElem?_map] at found
    obtain ⟨entry, _, rfl⟩ := Option.map_eq_some_iff.mp found
    cases ended
  | @step other u _ there =>
    rcases getElem?_set_stage there found with ⟨rfl, _⟩ | ⟨_, unchanged⟩
    · exact ⟨rfl, rfl, u, there⟩
    · exact absurd ⟨t, unchanged, ended⟩ before
  | @join other entry ending _ there =>
    rw [sound.recorded_eq there] at found
    rcases getElem?_set_stage there found with ⟨rfl, _⟩ | ⟨_, unchanged⟩
    · exact absurd ⟨_, there, rfl⟩ before
    · exact absurd ⟨t, unchanged, ended⟩ before

/-- **No entry whose end is not on record has ended before now.** -/
theorem now_le_endTime {schedule : List Move} (punctual : load.Punctual schedule) {number : Nat}
    {t : Task} (found : (load.after schedule).tasks[number]? = some t)
    (open_ : t.stage.isJoined = false) :
    (load.after schedule).now ≤ load.endTime t.entry number := by
  suffices ∀ number t, (load.after schedule).tasks[number]? = some t → t.stage.isJoined = false →
      (load.after schedule).now ≤ load.endTime t.entry number from this number t found open_
  refine timely_induction (P := fun s => ∀ (number : Nat) (t : Task), s.tasks[number]? = some t →
    t.stage.isJoined = false → s.now ≤ load.endTime t.entry number) ?_ ?_ punctual
  · intro number t found
    cases found
  intro s move s' sound clocked timely h prompt effect number t found open_
  cases effect with
  | stay | fail | timeOut | cancel | close => exact h number t found open_
  | @wait millis running =>
    cases phase : s.phase with
    | discovering =>
      change s.tasks[number]? = some t at found
      rw [(sound.discovering phase).1] at found
      cases found
    | finished => exact absurd phase running
    | loading =>
      obtain ⟨_, before, _, waits⟩ := (isPrompt_wait_iff phase).mp prompt
      rcases waits t (List.mem_of_getElem? found) with joined | ⟨due, waiting, within⟩
      · cases open_.symm.trans joined
      · have due_le := (timely.task number t found).due_le waiting
        exact Nat.le_min.mpr ⟨Nat.le_trans within due_le, before⟩
  | @start entries phase listed =>
    obtain ⟨unlisted, before, _⟩ := clocked.discovering phase
    obtain ⟨inFlight, same, _⟩ := start_eq load (sound.discovering phase).1 entries
    rw [same]
    have first : load.discoveryLatency ≤ (load.naturalEnd t.entry number).1 :=
      answerTime_le_naturalEnd number (Nat.zero_le _)
    exact Nat.le_min.mpr ⟨Nat.le_trans unlisted first, before⟩
  | @step other u _ there =>
    rcases getElem?_set_stage there found with ⟨rfl, rfl⟩ | ⟨_, unchanged⟩
    · refine h number u there ?_
      have advances : Task.Advances load number u.entry s.now s.elapsed u.stage _ _ :=
        Task.advances_step u
      exact advances.isJoined_eq.symm.trans open_
    · exact h number t unchanged open_
  | @join other entry ending _ there =>
    rw [sound.recorded_eq there] at found ⊢
    rcases getElem?_set_stage there found with ⟨rfl, rfl⟩ | ⟨_, unchanged⟩
    · cases open_
    · exact h number t unchanged open_

theorem endTime_le_now {schedule : List Move} (punctual : load.Punctual schedule) {number : Nat}
    {t : Task} {ending : Ending} (found : (load.after schedule).tasks[number]? = some t)
    (ended : t.stage.ending? = some ending) :
    load.endTime t.entry number ≤ (load.after schedule).now := by
  have settled := ((timely_follow punctual).task number t found).settled ended
  cases cut : ending.outcome.isCancelled with
  | false =>
    obtain ⟨before, deed, passed⟩ := settled.exists_last cut
    have last : (load.endTime t.entry number, deed) ∈ (load.after schedule).history number := by
      rw [passed]
      exact List.mem_append_right _ (List.mem_singleton.mpr rfl)
    exact time_le_now load schedule _ (List.mem_filter.mp last).1
  | true =>
    have elapsed : (load.after schedule).elapsed = true := by
      by_contra running
      rw [Bool.not_eq_true] at running
      have uncut := noneCancelled_follow load schedule running t
        (List.mem_of_getElem? found) ending ended
      cases uncut.symm.trans cut
    rw [settled.endTime_eq_of_cancelled cut, (capped_follow punctual).of_elapsed elapsed]

/-- **No time passes between the end of a task and the note that the load takes of it.** -/
theorem endTime_eq_now {schedule : List Move} (punctual : load.Punctual schedule) {number : Nat}
    {entry : Entry Provider} {ending : Ending}
    (found : (load.after schedule).tasks[number]? = some ⟨entry, .ended ending⟩) :
    load.endTime entry number = (load.after schedule).now := by
  have upper := endTime_le_now punctual found rfl
  have lower := now_le_endTime punctual found rfl
  exact Nat.le_antisymm upper lower

theorem exists_endsAt (load : Load) (schedule : List Move) {number : Nat}
    (ended : HasEnded (load.after schedule) number) : ∃ time, EndsAt load schedule number time := by
  induction schedule using List.reverseRecOn with
  | nil =>
    obtain ⟨t, found, _⟩ := ended
    cases found
  | append_singleton first move ih =>
    by_cases before : HasEnded (load.after first) number
    · obtain ⟨time, earlier, later, rfl, moment⟩ := ih before
      exact ⟨time, earlier, later ++ [move], by simp, moment⟩
    · have effect : Effect load (load.after first) move (load.after (first ++ [move])) := by
        rw [after_append]
        exact effect_apply load _ move
      obtain ⟨rfl, _⟩ := eq_step_of_hasEnded (sound_follow load first) effect before ended
      exact ⟨_, first, [], rfl, rfl, before, ended⟩

/-- **The task of an entry ends at the end time of the entry**, and at no other. -/
theorem EndsAt.eq_endTime {schedule : List Move} (punctual : load.Punctual schedule)
    {number time : Nat} (h : EndsAt load schedule number time) {t : Task}
    (found : (load.after schedule).tasks[number]? = some t) : time = load.endTime t.entry number := by
  obtain ⟨first, later, rfl, rfl, before, after⟩ := h
  rw [List.append_cons] at punctual found
  have effect : Effect load (load.after first) (.step number)
      (load.after (first ++ [.step number])) := by
    rw [after_append]
    exact effect_apply load _ _
  obtain ⟨_, now, u, there⟩ := eq_step_of_hasEnded (sound_follow load first) effect before after
  obtain ⟨v, ended, left⟩ := after
  obtain ⟨ending, left⟩ := Option.isSome_iff_exists.mp left
  -- At all three times the task is that of the entry that is listed at its place.
  have sound := sound_follow load (first ++ [.step number] ++ later)
  have listed := sound.listed_of_task found
  have place := sound.getElem?_entries listed found
  have at_first := (sound_follow load first).getElem?_entries listed there
  have at_step := (sound_follow load (first ++ [.step number])).getElem?_entries listed ended
  have of_u : t.entry = u.entry := Option.some.inj (place.symm.trans at_first)
  have of_v : t.entry = v.entry := Option.some.inj (place.symm.trans at_step)
  have running : u.stage.isJoined = false := by
    cases stage : u.stage with
    | joined => exact absurd ⟨u, there, by rw [stage]; rfl⟩ before
    | resting | querying | delivering | ended => rfl
  have lower := now_le_endTime (punctual_of_append (punctual_of_append punctual)) there running
  have upper := endTime_le_now (punctual_of_append punctual) ended left
  rw [← of_u] at lower
  rw [← of_v, now] at upper
  exact Nat.le_antisymm lower upper

/-! ### The order of the rows -/

/-- The part of an entry in a load: how it has ended, and when. -/
structure Part where
  number : Nat
  entry : Entry Provider
  outcome : Outcome
  time : Nat

def Part.row (part : Part) : ProviderReport := ⟨part.entry.descriptor, part.outcome⟩

/-- **The rows so far are those of some parts**, in the order in which these have ended. -/
structure Ranked (load : Load) (s : State) (parts : List Part) : Prop where
  rows : s.rows = parts.map Part.row
  distinct : (parts.map Part.number).Nodup
  joined : ∀ part ∈ parts, part.time = load.endTime part.entry part.number ∧
    ∃ ending, s.tasks[part.number]? = some ⟨part.entry, .joined ending⟩ ∧
      ending.outcome = part.outcome
  all : ∀ (number : Nat) (entry : Entry Provider) (ending : Ending),
    s.tasks[number]? = some ⟨entry, .joined ending⟩ → number ∈ parts.map Part.number
  sorted : parts.Pairwise fun a b => a.time ≤ b.time

theorem Ranked.of_eq {s' : State} {parts : List Part} (h : Ranked load s parts)
    (rows : s'.rows = s.rows) (tasks : ∀ (number : Nat) (entry : Entry Provider) (ending : Ending),
      s'.tasks[number]? = some ⟨entry, .joined ending⟩ ↔
        s.tasks[number]? = some ⟨entry, .joined ending⟩) : Ranked load s' parts := by
  refine ⟨rows.trans h.rows, h.distinct, ?_, ?_, h.sorted⟩
  · intro part member
    obtain ⟨time, ending, found, outcome⟩ := h.joined part member
    exact ⟨time, ending, (tasks _ _ _).mpr found, outcome⟩
  · intro number entry ending found
    exact h.all number entry ending ((tasks _ _ _).mp found)

/-- A step puts no end on record. -/
theorem joined_moved_iff {number : Nat} {t : Task} {last : Stage} {deeds : List Deed}
    (found : s.tasks[number]? = some t)
    (event : Task.Advances load number t.entry s.now s.elapsed t.stage deeds last) (other : Nat)
    (entry : Entry Provider) (ending : Ending) :
    (s.moved number t last deeds).tasks[other]? = some ⟨entry, .joined ending⟩ ↔
      s.tasks[other]? = some ⟨entry, .joined ending⟩ := by
  have kept : t.stage.isJoined = true → last = t.stage := by
    intro joined
    refine event.eq_of_ended ?_
    cases stage : t.stage with
    | joined => rfl
    | resting | querying | delivering | ended => cases stage ▸ joined
  constructor
  · intro there
    rcases getElem?_set_stage found there with ⟨rfl, same⟩ | ⟨_, unchanged⟩
    · obtain ⟨rfl, rfl⟩ := Task.mk.inj same
      rw [found, kept (event.isJoined_eq.symm.trans rfl)]
    · exact unchanged
  · intro there
    by_cases same : number = other
    · subst same
      obtain rfl := Option.some.inj (found.symm.trans there)
      obtain ⟨inside, _⟩ := List.getElem?_eq_some_iff.mp found
      exact (List.getElem?_set_self inside).trans (by rw [kept rfl])
    · exact (List.getElem?_set_ne same).trans there

/-- The next row is that of an entry that ends no earlier than those before. -/
theorem Ranked.recorded {parts : List Part} (h : Ranked load s parts) (sound : Sound load s)
    {number : Nat} {entry : Entry Provider} {ending : Ending}
    (found : s.tasks[number]? = some ⟨entry, .ended ending⟩)
    (last : load.endTime entry number = s.now) (before : ∀ part ∈ parts, part.time ≤ s.now) :
    Ranked load (s.recorded number entry ending)
      (parts ++ [⟨number, entry, ending.outcome, s.now⟩]) := by
  rw [sound.recorded_eq found]
  have new : number ∉ parts.map Part.number := by
    intro member
    obtain ⟨part, there, rfl⟩ := List.mem_map.mp member
    obtain ⟨_, other, joined, _⟩ := h.joined part there
    cases joined.symm.trans found
  obtain ⟨inside, _⟩ := List.getElem?_eq_some_iff.mp found
  have place : (s.tasks.set number ⟨entry, .joined ending⟩)[number]? = some ⟨entry, .joined ending⟩ :=
    List.getElem?_set_self inside
  refine ⟨?_, ?_, ?_, ?_, ?_⟩
  · rw [List.map_append]
    exact congrArg (· ++ [_]) h.rows
  · rw [List.map_append, List.map_singleton, List.nodup_append]
    exact ⟨h.distinct, by simp, by simpa using new⟩
  · intro part member
    rcases List.mem_append.mp member with there | last'
    · obtain ⟨time, other, joined, outcome⟩ := h.joined part there
      have apart : number ≠ part.number := fun same => new (same ▸ List.mem_map_of_mem there)
      exact ⟨time, other, (List.getElem?_set_ne apart).trans joined, outcome⟩
    · obtain rfl := List.mem_singleton.mp last'
      exact ⟨last.symm, ending, place, rfl⟩
  · intro other entry' ending' there
    rw [List.map_append, List.mem_append]
    rcases getElem?_set_stage found there with ⟨rfl, _⟩ | ⟨_, unchanged⟩
    · exact Or.inr (List.mem_singleton.mpr rfl)
    · exact Or.inl (h.all other entry' ending' unchanged)
  · exact List.pairwise_append.mpr ⟨h.sorted, List.pairwise_singleton _ _, by simpa using before⟩

/-- The induction over the punctual schedules of a load, with all that is known of them: one more move
is made after a punctual schedule. -/
theorem concat_induction {P : List Move → Prop} (start : P [])
    (keeps : ∀ first move, load.Punctual first → P first →
      Effect load (load.after first) move (load.after (first ++ [move])) → P (first ++ [move]))
    {schedule : List Move} (punctual : load.Punctual schedule) : P schedule := by
  induction schedule using List.reverseRecOn with
  | nil => exact start
  | append_singleton first move ih =>
    have before := punctual_of_append punctual
    refine keeps first move before (ih before) ?_
    rw [after_append]
    exact effect_apply load _ move

/-- **Under every punctual schedule the rows stand in the order in which the entries have ended.** -/
theorem exists_parts {schedule : List Move} (punctual : load.Punctual schedule) :
    ∃ parts, Ranked load (load.after schedule) parts := by
  refine concat_induction (P := fun schedule => ∃ parts, Ranked load (load.after schedule) parts)
    ⟨[], rfl, .nil, by simp, nofun, .nil⟩ ?_ punctual
  intro first move before h effect
  obtain ⟨parts, ranked⟩ := h
  have sound := sound_follow load first
  generalize load.after (first ++ [move]) = s' at effect
  cases effect with
  | stay => exact ⟨parts, ranked⟩
  | wait | fail | timeOut | cancel | close =>
    exact ⟨parts, ranked.of_eq rfl fun _ _ _ => Iff.rfl⟩
  | @start entries phase =>
    obtain ⟨inFlight, same, _⟩ := start_eq load (sound.discovering phase).1 entries
    refine ⟨parts, ranked.of_eq (by rw [same]; rfl) fun number entry ending => ?_⟩
    rw [same, (sound.discovering phase).1, List.getElem?_map]
    constructor
    · intro found
      obtain ⟨_, _, fresh⟩ := Option.map_eq_some_iff.mp found
      cases fresh
    · nofun
  | step _ found =>
    exact ⟨parts, ranked.of_eq rfl (joined_moved_iff found (Task.advances_step _))⟩
  | join _ found =>
    refine ⟨_, ranked.recorded sound found (endTime_eq_now before found) ?_⟩
    intro part member
    obtain ⟨time, ending, joined, _⟩ := ranked.joined part member
    have ended := endTime_le_now before joined rfl
    exact Nat.le_trans (Nat.le_of_eq time) ended

theorem deeds_sorted (load : Load) (schedule : List Move) :
    (load.after schedule).deeds.Pairwise fun a b => a.1 ≤ b.1 := by
  induction schedule using List.reverseRecOn with
  | nil => exact List.pairwise_singleton _ _
  | append_singleton first move ih =>
    have sound := sound_follow load first
    have before := time_le_now load first
    rw [after_append]
    have effect : Effect load (load.after first) move ((load.after first).follow load [move]) :=
      effect_apply load _ move
    generalize (load.after first).follow load [move] = s' at effect
    cases effect with
    | stay | wait | fail | timeOut | cancel | close => exact ih
    | @start entries phase =>
      obtain ⟨inFlight, same, _⟩ := start_eq load (sound.discovering phase).1 entries
      rw [same]
      exact ih
    | join _ found =>
      rw [sound.recorded_eq found]
      exact ih
    | step =>
      refine List.pairwise_append.mpr ⟨ih, ?_, ?_⟩
      · exact List.pairwise_map.mpr (List.pairwise_of_forall fun _ _ => Nat.le_refl _)
      · intro old member new member'
        obtain ⟨_, _, rfl⟩ := List.mem_map.mp member'
        exact before old member

end Environments.Load.State
