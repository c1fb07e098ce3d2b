import Environments.Proofs.Load.OnTime
import Mathlib.Data.List.Count

/-!
# The closed form of a load

`closed_form`: what a punctual load reports of an entry is known beforehand, entry by entry.  Each
entry has a natural end, which its provider, its accounts and the sink fix by themselves.  It is
reported if it comes before the deadline.  If it would come later, the entry is cancelled, and the
number of its results is the number of good answers that came before the deadline; of those that
come at the deadline some may be counted.
-/

namespace Environments

namespace Load

variable {load : Load} {entry : Entry Provider} {number index : Nat}

/-- **An entry ends naturally, or it is cut off before that**, between the answers that came by the
deadline and those that did not. -/
theorem Settled.natural_or_cancelled {outcome : Outcome} {history : List (Nat × Deed)}
    (h : load.Settled entry number outcome history) :
    (outcome = (load.naturalEnd entry number).2 ∧ (load.naturalEnd entry number).1 ≤ load.cutoff) ∨
    ∃ completed, outcome = .cancelled completed ∧ load.cutoff ≤ (load.naturalEnd entry number).1 ∧
      completed ≤ load.goodAnswers entry ∧ load.answerTime entry completed ≤ load.cutoff ∧
      (completed < load.goodAnswers entry → load.cutoff ≤ load.answerTime entry (completed + 1)) := by
  cases h with
  | natural _ in_time => exact Or.inl ⟨rfl, in_time⟩
  | @cutResting index good at_time =>
    refine Or.inr ⟨index, rfl, ?_, good, Nat.le_of_eq at_time, fun _ => ?_⟩
    · rw [← at_time]
      exact answerTime_le_naturalEnd number good
    · rw [← at_time]
      exact answerTime_mono (Nat.le_succ index)
  | @cutQuerying index developer reply good query _ called due =>
    refine Or.inr ⟨index, rfl, ?_, good, called, fun _ => due⟩
    exact Nat.le_trans due (answerTime_succ_le_naturalEnd number good (lt_length_of_query? query))
  | cutDelivering whole _ handed due =>
    refine Or.inr ⟨_, rfl, ?_, Nat.le_of_eq (goodAnswers_of_none whole).symm, handed, fun more => ?_⟩
    · rw [naturalEnd_of_none number whole]
      exact due
    · rw [goodAnswers_of_none whole] at more
      exact absurd more (Nat.lt_irrefl _)

/-! ### Counting answers -/

/-- The number of good answers to an entry that come before the deadline. -/
def answersBefore (load : Load) (entry : Entry Provider) : Nat :=
  (List.range (load.goodAnswers entry)).countP fun index =>
    load.answerTime entry (index + 1) < load.cutoff

/-- The number of good answers to an entry that come before the deadline or at it. -/
def answersBy (load : Load) (entry : Entry Provider) : Nat :=
  (List.range (load.goodAnswers entry)).countP fun index =>
    load.answerTime entry (index + 1) ≤ load.cutoff

theorem countP_range_le {p : Nat → Bool} {bound : Nat} (count : Nat)
    (h : ∀ index < count, p index = true → index < bound) : (List.range count).countP p ≤ bound := by
  induction count with
  | zero => exact Nat.zero_le _
  | succ count ih =>
    rw [List.range_succ, List.countP_append, List.countP_singleton]
    split
    · have all : (List.range count).countP p ≤ (List.range count).length := List.countP_le_length
      have last := h count (Nat.lt_succ_self _) ‹_›
      rw [List.length_range] at all
      omega
    · exact ih fun index less => h index (Nat.lt_succ_of_lt less)

theorem le_countP_range {p : Nat → Bool} {bound count : Nat} (le : bound ≤ count)
    (h : ∀ index < bound, p index = true) : bound ≤ (List.range count).countP p := by
  have first : (List.range bound).countP p = (List.range bound).length :=
    List.countP_eq_length.mpr fun index member => h index (List.mem_range.mp member)
  rw [List.length_range] at first
  calc bound = (List.range bound).countP p := first.symm
    _ ≤ (List.range count).countP p := (List.range_sublist.mpr le).countP_le

theorem answersBefore_le
    (h : index < load.goodAnswers entry → load.cutoff ≤ load.answerTime entry (index + 1)) :
    load.answersBefore entry ≤ index := by
  refine countP_range_le _ fun other less early => ?_
  rw [decide_eq_true_eq] at early
  by_contra later
  have := h (by omega)
  have : load.answerTime entry (index + 1) ≤ load.answerTime entry (other + 1) :=
    answerTime_mono (by omega)
  omega

theorem le_answersBy (good : index ≤ load.goodAnswers entry)
    (h : load.answerTime entry index ≤ load.cutoff) : index ≤ load.answersBy entry := by
  refine le_countP_range good fun other less => ?_
  rw [decide_eq_true_eq]
  exact Nat.le_trans (answerTime_mono (by omega)) h

/-! ### The closed form -/

/-- What may be reported of an entry: its natural end where that comes before the deadline, and a
number of results where it does not; either where it comes at the deadline. -/
structure Closed (load : Load) (number : Nat) (entry : Entry Provider) (outcome : Outcome) : Prop where
  before : (load.naturalEnd entry number).1 < load.cutoff →
    outcome = (load.naturalEnd entry number).2
  after : load.cutoff < (load.naturalEnd entry number).1 → ∃ completed,
    outcome = .cancelled completed ∧ load.answersBefore entry ≤ completed ∧
      completed ≤ load.answersBy entry
  at_cutoff : (load.naturalEnd entry number).1 = load.cutoff →
    outcome = (load.naturalEnd entry number).2 ∨ ∃ completed,
      outcome = .cancelled completed ∧ load.answersBefore entry ≤ completed ∧
        completed ≤ load.answersBy entry

theorem Settled.closed {outcome : Outcome} {history : List (Nat × Deed)}
    (h : load.Settled entry number outcome history) : load.Closed number entry outcome := by
  rcases h.natural_or_cancelled with
    ⟨natural, in_time⟩ | ⟨completed, cancelled, late, good, called, next⟩
  · exact ⟨fun _ => natural, fun late => by omega, fun _ => Or.inl natural⟩
  · have bounds := (⟨completed, cancelled, answersBefore_le next, le_answersBy good called⟩ :
      ∃ completed, outcome = .cancelled completed ∧ load.answersBefore entry ≤ completed ∧
        completed ≤ load.answersBy entry)
    exact ⟨fun early => by omega, fun _ => bounds, fun _ => Or.inr bounds⟩

namespace State

/-- **The closed form of a load** whose providers are listed before the deadline, or before the
horizon if the clock cannot show the deadline.  Every punctual schedule goes on to a finished load,
and in the end each entry has its row, with an outcome that follows from its natural end and the
deadline alone. -/
theorem closed_form (load : Load) {entries : List (Entry Provider)}
    (listed : load.discovered = .ok entries) (early : load.discoveryLatency < load.cutoff)
    {schedule : List Move} (punctual : load.Punctual schedule) :
    load.cutoff = (if Config.isTellable (load.ticks + load.config.deadline) then load.config.deadline
      else Time.horizon) ∧
    (∃ later, load.Punctual (schedule ++ later) ∧
      (load.after (schedule ++ later)).phase = .finished) ∧
    ((load.after schedule).phase = .finished →
      ∃ outcomes : List Outcome, outcomes.length = entries.length ∧
        ((load.after schedule).report load).providers.Perm (Report.rowsOf entries outcomes) ∧
        ∀ number entry outcome, entries[number]? = some entry → outcomes[number]? = some outcome →
          load.Closed number entry outcome) := by
  refine ⟨Config.cutoff_eq (Nat.lt_of_le_of_lt (Nat.zero_le _) early),
    exists_punctual_finished punctual, fun finished => ?_⟩
  obtain ⟨found, outcomes, same, length, rows, ended⟩ :=
    (sound_follow load schedule).exists_outcomes finished
    (discoveryError_eq_none listed (Nat.le_of_lt early) punctual)
  obtain rfl := Except.ok.inj (listed.symm.trans same)
  refine ⟨outcomes, length, rows, fun number entry outcome here told => ?_⟩
  obtain ⟨ending, same, at_number⟩ := ended number entry here
  obtain rfl := Option.some.inj (told.symm.trans same)
  exact (settled_follow punctual at_number).closed

/-- What comes before the deadline is reported as it is, and what would come after it is cut off.
-/
theorem closed_form_mixed :
    mixed.discoveryLatency < mixed.cutoff ∧ mixed.Punctual mixedMoves ∧
      (mixed.after mixedMoves).phase = .finished ∧
      ((mixed.after mixedMoves).report mixed).providers.Perm
        [⟨broken.descriptor, .aborted (breakdownReport "oops")⟩, ⟨quick.descriptor, .delivered 1⟩,
          ⟨slow.descriptor, .cancelled 0⟩] := by
  have early : mixed.discoveryLatency < mixed.cutoff := by decide +kernel
  have punctual : mixed.Punctual mixedMoves := by decide +kernel
  have finished : (mixed.after mixedMoves).phase = .finished := by decide
  obtain ⟨_, _, closed⟩ := closed_form mixed rfl early punctual
  obtain ⟨outcomes, length, rows, each⟩ := closed finished
  match outcomes, length with
  | [a, b, c], _ =>
    have first : a = .aborted (breakdownReport "oops") :=
      (each 0 broken a rfl rfl).before (by decide +kernel)
    have second : b = .delivered 1 := (each 1 quick b rfl rfl).before (by decide +kernel)
    obtain ⟨completed, third, _, most⟩ := (each 2 slow c rfl rfl).after (by decide +kernel)
    obtain rfl : completed = 0 := Nat.le_zero.mp (Nat.le_trans most (by decide +kernel))
    subst first second third
    exact ⟨early, punctual, finished, rows⟩

end State

end Load

end Environments
