import Environments.Proofs.Load.Duration
import Environments.Proofs.Load.Isolation

/-!
# All punctual schedules lead to the same end

Several things that are due at one time may come in any order, and nothing that has no order of its
own depends on it.  `agree_of_punctual`: where nothing falls on the deadline and the sink answers at
once, any two punctual schedules of a load end it at the same time, with the same rows, and with the
same deeds at the same times, only that rows and deeds may stand in another order.

What passed in a load is put together from the parts of its tasks by `deeds_perm`, and each part is
settled by the timetable.
-/

namespace Environments.Load

/-- Neither the listing of the providers nor an answer to a query falls on the deadline. -/
structure OffDeadline (load : Load) : Prop where
  listing : load.discoveryLatency ≠ load.cutoff
  answers : ∀ entries, load.discovered = .ok entries → ∀ entry ∈ entries, load.OffCutoff entry

variable {load : Load}

theorem offDeadline_iff : load.OffDeadline ↔ load.discoveryLatency ≠ load.cutoff ∧
    ∀ entry ∈ load.discovered.toOption.getD [], load.OffCutoff entry := by
  constructor
  · rintro ⟨listing, answers⟩
    refine ⟨listing, ?_⟩
    cases listed : load.discovered with
    | ok entries => exact answers entries listed
    | error failure => nofun
  · rintro ⟨listing, answers⟩
    refine ⟨listing, fun entries listed => ?_⟩
    rwa [listed] at answers

instance (load : Load) : Decidable load.OffDeadline :=
  decidable_of_iff _ offDeadline_iff.symm

theorem OffCutoff.naturalEnd_ne {entry : Entry Provider} {number : Nat} (off : load.OffCutoff entry)
    (early : load.discoveryLatency < load.cutoff)
    (at_once : (load.delivery entry number).after = 0) :
    (load.naturalEnd entry number).1 ≠ load.cutoff := by
  cases failed : load.failure? entry with
  | none =>
    rw [naturalEnd_of_none number failed, at_once]
    exact off.answerTime_ne early (Nat.le_of_eq (goodAnswers_of_none failed).symm)
  | some first =>
    obtain ⟨index, outcome⟩ := first
    rw [naturalEnd_of_failure number failed]
    exact off index (lt_length_of_failure? failed) (Nat.le_of_eq (goodAnswers_of_failure failed).symm)

namespace State

/-! ### What passed in a load, task by task -/

theorem perm_flatMap_filter {α : Type} (key : α → Option Nat) (bound : Nat) (l : List α)
    (inside : ∀ a ∈ l, ∀ k, key a = some k → k < bound) :
    l.Perm (l.filter (key · = none) ++
      (List.range bound).flatMap fun k => l.filter (key · = some k)) := by
  induction bound generalizing l with
  | zero =>
    have all : l.filter (key · = none) = l := by
      refine List.filter_eq_self.mpr fun a member => ?_
      cases here : key a with
      | none => rfl
      | some k => exact absurd (inside a member k here) (Nat.not_lt_zero k)
    rw [all, List.range_zero, List.flatMap_nil, List.append_nil]
  | succ bound ih =>
    -- The last part is taken out, and the other parts are those of what is left.
    let rest := l.filter fun a => !decide (key a = some bound)
    have split : (rest ++ l.filter (key · = some bound)).Perm l :=
      List.perm_append_comm.trans (List.filter_append_perm _ l)
    have others : ∀ k, k ≠ some bound → rest.filter (key · = k) = l.filter (key · = k) := by
      intro k ne
      rw [List.filter_filter]
      refine List.filter_congr fun a _ => ?_
      by_cases same : key a = k
      · simp [same, ne]
      · simp [same]
    have below : ∀ a ∈ rest, ∀ k, key a = some k → k < bound := by
      intro a member k here
      obtain ⟨there, other⟩ := List.mem_filter.mp member
      have := inside a there k here
      rw [here] at other
      simp only [Option.some.injEq, Bool.not_eq_true', decide_eq_false_iff_not] at other
      omega
    have parts := ih rest below
    rw [others none nofun] at parts
    have same : (List.range bound).flatMap (fun k => rest.filter (key · = some k)) =
        (List.range bound).flatMap fun k => l.filter (key · = some k) := by
      refine List.flatMap_congr fun k member => others (some k) ?_
      have := List.mem_range.mp member
      simp only [ne_eq, Option.some.injEq]
      omega
    rw [same] at parts
    rw [List.range_succ, List.flatMap_append, List.flatMap_singleton, ← List.append_assoc]
    exact split.symm.trans (parts.append_right _)

/-- A load asks for the providers once, at its start. -/
theorem filter_asked (load : Load) (schedule : List Move) :
    (load.after schedule).deeds.filter (·.2.task? = none) = [(0, .asked)] := by
  refine sound_induction (P := fun s => s.deeds.filter (·.2.task? = none) = [(0, .asked)]) rfl ?_ schedule
  intro s move s' sound h effect
  cases effect with
  | stay | wait | fail | timeOut | cancel | close => exact h
  | @start entries phase =>
    obtain ⟨inFlight, same, _⟩ := start_eq load (sound.discovering phase).1 entries
    rw [same]
    exact h
  | join _ found =>
    rw [sound.recorded_eq found]
    exact h
  | @step number t =>
    have events : Task.Advances load number t.entry s.now s.elapsed t.stage _ _ := Task.advances_step t
    have none : ((t.step load s.now number s.elapsed).2.map (s.now, ·)).filter (·.2.task? = none) =
        [] := by
      refine List.filter_eq_nil_iff.mpr fun deed member => ?_
      obtain ⟨deed, passed, rfl⟩ := List.mem_map.mp member
      simp [events.task?_eq deed passed]
    rw [moved, List.filter_append, none, List.append_nil]
    exact h

/-- **What passed in a load is what passed in its tasks**, and that it asked for the providers. -/
theorem deeds_perm (load : Load) (schedule : List Move) :
    (load.after schedule).deeds.Perm ((0, .asked) ::
      (List.range (load.after schedule).tasks.length).flatMap (load.after schedule).history) := by
  have parts := perm_flatMap_filter (fun deed : Nat × Deed => deed.2.task?)
    (load.after schedule).tasks.length (load.after schedule).deeds ?_
  · rwa [filter_asked] at parts
  · intro deed passed number part
    obtain ⟨t, found⟩ := exists_task_of_mem_deeds load schedule passed part
    exact (List.getElem?_eq_some_iff.mp found).1

/-! ### Two schedules of one load -/

/-- Two loads have come to the same end, in which rows and deeds may have another order. -/
structure Agree (s s' : State) : Prop where
  now : s.now = s'.now
  elapsed : s.elapsed = s'.elapsed
  discoveryError : s.discoveryError = s'.discoveryError
  rows : s.rows.Perm s'.rows
  deeds : s.deeds.Perm s'.deeds

section

variable {schedule₁ schedule₂ : List Move} (punctual₁ : load.Punctual schedule₁)
  (punctual₂ : load.Punctual schedule₂) (finished₁ : (load.after schedule₁).phase = .finished)
  (finished₂ : (load.after schedule₂).phase = .finished)

theorem Agree.of_no_tasks {load : Load} {schedule₁ schedule₂ : List Move}
    (now : (load.after schedule₁).now = (load.after schedule₂).now)
    (elapsed : (load.after schedule₁).elapsed = (load.after schedule₂).elapsed)
    (discoveryError : (load.after schedule₁).discoveryError = (load.after schedule₂).discoveryError)
    (none₁ : (load.after schedule₁).tasks = []) (none₂ : (load.after schedule₂).tasks = []) :
    Agree (load.after schedule₁) (load.after schedule₂) := by
  have rows₁ := (sound_follow load schedule₁).rows
  have rows₂ := (sound_follow load schedule₂).rows
  have deeds₁ := deeds_perm load schedule₁
  have deeds₂ := deeds_perm load schedule₂
  rw [none₁] at rows₁ deeds₁
  rw [none₂] at rows₂ deeds₂
  exact ⟨now, elapsed, discoveryError, rows₁.trans rows₂.symm, deeds₁.trans deeds₂.symm⟩

include punctual₁ punctual₂ finished₁ finished₂

theorem agree_of_unlisted {error : DirectoryError} (unlisted : load.discovered = .error error)
    (early : load.discoveryLatency < load.cutoff) :
    Agree (load.after schedule₁) (load.after schedule₂) := by
  have failed : ∀ {schedule : List Move}, load.Punctual schedule →
      (load.after schedule).phase = .finished → (load.after schedule).discoveryError = some error.message := by
    intro schedule punctual finished
    cases listed_follow punctual with
    | pending phase => cases finished.symm.trans phase
    | found running fine =>
      cases ((sound_follow load schedule).listed running fine).symm.trans unlisted
    | failed _ found told =>
      obtain rfl := Except.error.inj (unlisted.symm.trans found)
      exact told
    | timedOut _ late => omega
  have over₁ := overAt_discoveryLatency unlisted early punctual₁ finished₁
  have over₂ := overAt_discoveryLatency unlisted early punctual₂ finished₂
  have failed₁ := failed punctual₁ finished₁
  have failed₂ := failed punctual₂ finished₂
  refine .of_no_tasks (over₁.now.trans over₂.now.symm)
    (over₁.deadlineElapsed.trans over₂.deadlineElapsed.symm) (failed₁.trans failed₂.symm) ?_ ?_
  · exact ((sound_follow load schedule₁).unlisted (by rw [failed₁]; nofun)).2
  · exact ((sound_follow load schedule₂).unlisted (by rw [failed₂]; nofun)).2

theorem agree_of_late (late : load.cutoff < load.discoveryLatency) :
    Agree (load.after schedule₁) (load.after schedule₂) := by
  have timedOut : ∀ {schedule : List Move}, load.Punctual schedule →
      (load.after schedule).phase = .finished →
      (load.after schedule).discoveryError = some "provider discovery cancelled by deadline" := by
    intro schedule punctual finished
    have capped := (capped_follow punctual).le_cutoff
    cases listed_follow punctual with
    | pending phase => cases finished.symm.trans phase
    | found _ _ listed => omega
    | failed _ _ _ now => omega
    | timedOut _ _ told => exact told
  have over₁ := overAt_cutoff_of_unlisted late punctual₁ finished₁
  have over₂ := overAt_cutoff_of_unlisted late punctual₂ finished₂
  exact .of_no_tasks (over₁.now.trans over₂.now.symm)
    (over₁.deadlineElapsed.trans over₂.deadlineElapsed.symm)
    ((timedOut punctual₁ finished₁).trans (timedOut punctual₂ finished₂).symm)
    (tasks_eq_nil late punctual₁) (tasks_eq_nil late punctual₂)

section Listed

variable {entries : List (Entry Provider)} (listed : load.discovered = .ok entries)
  (early : load.discoveryLatency < load.cutoff) (off : ∀ entry ∈ entries, load.OffCutoff entry)
  (at_once : ∀ number batch, (load.sink number batch).after = 0)

include listed early off at_once

theorem now_eq_and_elapsed_eq : (load.after schedule₁).now = (load.after schedule₂).now ∧
    (load.after schedule₁).elapsed = (load.after schedule₂).elapsed := by
  by_cases before : ∀ number entry, entries[number]? = some entry →
      (load.naturalEnd entry number).1 < load.cutoff
  · have over₁ := overAt_lastEnd listed early punctual₁ finished₁ before
    have over₂ := overAt_lastEnd listed early punctual₂ finished₂ before
    exact ⟨over₁.now.trans over₂.now.symm, over₁.deadlineElapsed.trans over₂.deadlineElapsed.symm⟩
  · simp only [not_forall, Nat.not_lt] at before
    obtain ⟨number, entry, here, late⟩ := before
    have ne : (load.naturalEnd entry number).1 ≠ load.cutoff :=
      (off entry (List.mem_of_getElem? here)).naturalEnd_ne early (at_once _ _)
    have late := Nat.lt_of_le_of_ne late ne.symm
    have over₁ := overAt_cutoff listed early punctual₁ finished₁ here late
    have over₂ := overAt_cutoff listed early punctual₂ finished₂ here late
    exact ⟨over₁.now.trans over₂.now.symm, over₁.deadlineElapsed.trans over₂.deadlineElapsed.symm⟩

/-- **Each entry fares alike under both schedules**: the timetable settles its outcome, and what
passes in its task, and when. -/
theorem agree_of_listed : Agree (load.after schedule₁) (load.after schedule₂) := by
  have sound₁ := sound_follow load schedule₁
  have sound₂ := sound_follow load schedule₂
  have fine₁ := discoveryError_eq_none listed (Nat.le_of_lt early) punctual₁
  have fine₂ := discoveryError_eq_none listed (Nat.le_of_lt early) punctual₂
  obtain ⟨entries₁, outcomes₁, same₁, length₁, rows₁, ended₁⟩ := sound₁.exists_outcomes finished₁ fine₁
  obtain ⟨entries₂, outcomes₂, same₂, length₂, rows₂, ended₂⟩ := sound₂.exists_outcomes finished₂ fine₂
  obtain rfl := Except.ok.inj (listed.symm.trans same₁)
  obtain rfl := Except.ok.inj (listed.symm.trans same₂)
  have alike : ∀ number < entries.length, outcomes₁[number]? = outcomes₂[number]? ∧
      (load.after schedule₁).history number = (load.after schedule₂).history number := by
    intro number inside
    have here := List.getElem?_eq_getElem inside
    obtain ⟨ending₁, told₁, found₁⟩ := ended₁ number _ here
    obtain ⟨ending₂, told₂, found₂⟩ := ended₂ number _ here
    obtain ⟨outcome, history⟩ := (settled_follow punctual₁ found₁).unique
      (settled_follow punctual₂ found₂) (off _ (List.getElem_mem inside)) (at_once _ _)
    exact ⟨by rw [told₁, told₂, outcome], history⟩
  have outcomes : outcomes₁ = outcomes₂ := by
    refine List.ext_getElem? fun number => ?_
    by_cases inside : number < entries.length
    · exact (alike number inside).1
    · rw [List.getElem?_eq_none (by omega), List.getElem?_eq_none (by omega)]
  have tasks : ∀ {schedule : List Move},
      load.discovered = .ok ((load.after schedule).tasks.map (·.entry)) →
      (load.after schedule).tasks.length = entries.length := by
    intro schedule found
    rw [Except.ok.inj (listed.symm.trans found), List.length_map]
  have tasks₁ := tasks (sound₁.listed (by rw [finished₁]; nofun) fine₁)
  have tasks₂ := tasks (sound₂.listed (by rw [finished₂]; nofun) fine₂)
  obtain ⟨now, elapsed⟩ :=
    now_eq_and_elapsed_eq punctual₁ punctual₂ finished₁ finished₂ listed early off at_once
  refine ⟨now, elapsed, fine₁.trans fine₂.symm, ?_, ?_⟩
  · rw [outcomes] at rows₁
    exact rows₁.trans rows₂.symm
  · have histories : (List.range entries.length).flatMap (load.after schedule₁).history =
        (List.range entries.length).flatMap (load.after schedule₂).history :=
      List.flatMap_congr fun number member => (alike number (List.mem_range.mp member)).2
    have deeds₁ := deeds_perm load schedule₁
    have deeds₂ := deeds_perm load schedule₂
    rw [tasks₁, histories] at deeds₁
    rw [tasks₂] at deeds₂
    exact deeds₁.trans deeds₂.symm

end Listed

/-- **All punctual schedules lead to the same end** where nothing falls on the deadline and the sink
answers at once. -/
theorem agree_of_punctual (off : load.OffDeadline)
    (at_once : ∀ number batch, (load.sink number batch).after = 0) :
    Agree (load.after schedule₁) (load.after schedule₂) := by
  rcases Nat.lt_trichotomy load.discoveryLatency load.cutoff with early | tie | late
  · cases found : load.discovered with
    | error error => exact agree_of_unlisted punctual₁ punctual₂ finished₁ finished₂ found early
    | ok entries =>
      exact agree_of_listed punctual₁ punctual₂ finished₁ finished₂ found early (off.answers _ found)
        at_once
  · exact absurd tie off.listing
  · exact agree_of_late punctual₁ punctual₂ finished₁ finished₂ late

end

end State

end Environments.Load
