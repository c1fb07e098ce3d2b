import Environments.Proofs.Load.Rows

/-!
# What the sign to cancel does

Once a load has given the sign to cancel, nothing passes between it and the world any more, whatever
moves follow: `stilled_follow`.  A task that had not ended by then has nothing left to do but to end
as cancelled, with the results it had collected, and in a finished load that is its row:
`Stilled.cancelled_row`.

Before the sign no task ends as cancelled, so that `elapsed_of_cancelled`: a report has a cancelled
row only if its deadline has elapsed.
-/

namespace Environments

/-- The number of results that a task has collected and not reported. -/
def Stage.collected : Stage → Nat
  | .resting _ results _ | .querying _ results .. => results.length
  | .delivering batch _ _ => batch.results.length
  | .ended _ | .joined _ => 0

namespace Task

variable {load : Load} {number now : Nat} {entry : Entry Provider}

/-- The stages that a task can be at from the sign to cancel on: where it was, or at the end to which
the sign brings it. -/
def Fades (t : Task) (stage : Stage) : Prop :=
  stage = t.stage ∨ stage.ending? = t.cutOff.ending?

/-- The sign to cancel ends a task that has not ended, and leaves other tasks as they are. -/
theorem ending?_cutOff (t : Task) : t.cutOff.ending? =
    some (t.stage.ending?.getD (.returned t.entry.descriptor (.cancelled t.stage.collected))) := by
  obtain ⟨entry, stage⟩ := t
  cases stage <;> rfl

theorem Fades.cutOff {t : Task} {stage : Stage} (h : t.Fades stage) :
    t.Fades (Task.cutOff ⟨t.entry, stage⟩) := by
  -- The sign is heard once: a task that it has brought to an end stays there.
  rcases h with rfl | left
  · exact Or.inr rfl
  · rw [ending?_cutOff] at left
    exact Or.inr (by rw [ending?_cutOff, ending?_cutOff, left]; rfl)

theorem Fades.join {t : Task} {ending : Ending} (h : t.Fades (.ended ending)) :
    t.Fades (.joined ending) := by
  rcases h with same | left
  · exact Or.inr (by rw [ending?_cutOff, ← same]; rfl)
  · exact Or.inr left

theorem Fades.ending_eq {t : Task} {ending : Ending} (h : t.Fades (.joined ending))
    (running : t.stage.ending? = none) :
    ending = .returned t.entry.descriptor (.cancelled t.stage.collected) := by
  rcases h with same | left
  · rw [← same] at running
    cases running
  · rw [ending?_cutOff, running] at left
    exact Option.some.inj left

/-- Only the sign to cancel ends a task as cancelled. -/
theorem Advance.isCancelled_eq_false {first last : Stage} {deeds : List Deed} {ending : Ending}
    (h : Advance load number entry now false first deeds last)
    (left : last.ending? = some ending) : ending.outcome.isCancelled = false := by
  cases h with
  | call | handOver => cases left
  | @collect index results developer rest due answer =>
    rcases answer with (error | result) | message
    · obtain rfl := Option.some.inj left
      rfl
    · cases left
    · obtain rfl := Option.some.inj left
      rfl
  | @conclude batch due answer =>
    rcases answer with (error | accepted) | message <;> obtain rfl := Option.some.inj left <;> rfl

theorem Advances.isCancelled_eq_false {first last : Stage} {deeds : List Deed} {ending : Ending}
    (h : Advances load number entry now false first deeds last)
    (before : ∀ ending, first.ending? = some ending → ending.outcome.isCancelled = false)
    (left : last.ending? = some ending) : ending.outcome.isCancelled = false := by
  cases h with
  | refl => exact before ending left
  | tail _ last => exact last.isCancelled_eq_false left

end Task

namespace Load.State

variable {load : Load} {s : State}

/-! ### After the sign to cancel -/

/-- **How a load goes on from the sign to cancel**: nothing passes any more, and the tasks fade. -/
structure Stilled (s s' : State) : Prop where
  phase : s'.phase ≠ .discovering
  elapsed : s'.elapsed = true
  deeds : s'.deeds = s.deeds
  tasks : ∀ (number : Nat) (t : Task), s.tasks[number]? = some t →
    ∃ stage, s'.tasks[number]? = some ⟨t.entry, stage⟩ ∧ t.Fades stage

theorem phase_ne_discovering_of_elapsed (schedule : List Move)
    (elapsed : (load.after schedule).elapsed = true) : (load.after schedule).phase ≠ .discovering := by
  refine sound_induction (P := fun s => s.elapsed = true → s.phase ≠ .discovering) nofun
    (fun s move s' sound h effect => ?_) schedule elapsed
  cases effect with
  | stay | wait => exact h
  | @start entries phase =>
    obtain ⟨inFlight, same, _⟩ := start_eq load (sound.discovering phase).1 entries
    rw [same]
    exact fun _ => nofun
  | fail | timeOut | close => exact fun _ => nofun
  | cancel phase | step phase =>
    intro _ discovering
    cases phase.symm.trans discovering
  | join phase found =>
    rw [sound.recorded_eq found]
    intro _ discovering
    cases phase.symm.trans discovering

theorem stilled_refl (phase : s.phase ≠ .discovering) (elapsed : s.elapsed = true) : Stilled s s :=
  ⟨phase, elapsed, rfl, fun _ t found => ⟨t.stage, found, Or.inl rfl⟩⟩

theorem fades_set {first : State} {tasks : List Task} {number : Nat} {u : Task} {last : Stage}
    (found : tasks[number]? = some u)
    (h : ∀ (number : Nat) (t : Task), first.tasks[number]? = some t →
      ∃ stage, tasks[number]? = some ⟨t.entry, stage⟩ ∧ t.Fades stage)
    (fades : ∀ t : Task, t.entry = u.entry → t.Fades u.stage → t.Fades last) (other : Nat) (t : Task)
    (before : first.tasks[other]? = some t) :
    ∃ stage, (tasks.set number { u with stage := last })[other]? = some ⟨t.entry, stage⟩ ∧
      t.Fades stage := by
  obtain ⟨stage, there, fading⟩ := h other t before
  by_cases same : number = other
  · subst same
    obtain rfl := Option.some.inj (there.symm.trans found)
    obtain ⟨inside, _⟩ := List.getElem?_eq_some_iff.mp found
    exact ⟨last, List.getElem?_set_self inside, fades t rfl fading⟩
  · exact ⟨stage, (List.getElem?_set_ne same).trans there, fading⟩

theorem Stilled.keeps {first : State} {move : Move} {s' : State} (h : Stilled first s)
    (sound : Sound load s) (effect : Effect load s move s') : Stilled first s' := by
  cases effect with
  | stay => exact h
  | wait => exact ⟨h.phase, h.elapsed, h.deeds, h.tasks⟩
  | close => exact ⟨nofun, h.elapsed, h.deeds, h.tasks⟩
  | start phase | fail phase | timeOut phase => exact absurd phase h.phase
  | cancel _ running => cases h.elapsed.symm.trans running
  | @step number t phase found =>
    -- A task that follows the sign to cancel is cut off, and nothing passes on the way.
    have cut : t.step load s.now number s.elapsed = (t.cutOff, []) := by
      rw [h.elapsed]
      rfl
    rw [cut]
    refine ⟨h.phase, h.elapsed, (List.append_nil _).trans h.deeds, ?_⟩
    exact fades_set found h.tasks fun u entry fading => by
      have cutOff := fading.cutOff
      rwa [entry] at cutOff
  | @join number entry ending phase found =>
    rw [sound.recorded_eq found]
    exact ⟨h.phase, h.elapsed, h.deeds, fades_set found h.tasks fun _ _ fading => fading.join⟩

/-- **From the sign to cancel on a load is still**, whatever moves follow. -/
theorem stilled_follow (first later : List Move) (elapsed : (load.after first).elapsed = true) :
    Stilled (load.after first) (load.after (first ++ later)) := by
  have start := stilled_refl (phase_ne_discovering_of_elapsed first elapsed) elapsed
  rw [after_append]
  exact (follow_keeps load (P := fun s => Sound load s ∧ Stilled (load.after first) s)
    (fun s move s' h effect => ⟨h.1.keeps effect, h.2.keeps h.1 effect⟩) later
    ⟨sound_follow load first, start⟩).2

/-- **What had not ended at the sign to cancel has a cancelled row in the end**, with the results that
were collected until then. -/
theorem Stilled.cancelled_row {first : State} (h : Stilled first s) (sound : Sound load s)
    (finished : s.phase = .finished) {number : Nat} {t : Task}
    (found : first.tasks[number]? = some t) (running : t.stage.ending? = none) :
    s.tasks[number]? = some
        ⟨t.entry, .joined (.returned t.entry.descriptor (.cancelled t.stage.collected))⟩ ∧
      ⟨t.entry.descriptor, .cancelled t.stage.collected⟩ ∈ s.rows := by
  obtain ⟨stage, there, fading⟩ := h.tasks number t found
  obtain ⟨ending, rfl, row⟩ := sound.exists_row finished there
  obtain rfl := fading.ending_eq running
  exact ⟨there, row⟩

/-! ### Before the sign to cancel -/

def NoneCancelled (s : State) : Prop :=
  s.elapsed = false → ∀ t ∈ s.tasks, ∀ ending, t.stage.ending? = some ending →
    ending.outcome.isCancelled = false

theorem NoneCancelled.keeps {move : Move} {s' : State} (h : NoneCancelled s) (sound : Sound load s)
    (effect : Effect load s move s') : NoneCancelled s' := by
  cases effect with
  | stay | wait | fail | close => exact h
  | timeOut | cancel => exact nofun
  | @start entries phase =>
    obtain ⟨inFlight, same, _⟩ := start_eq load (sound.discovering phase).1 entries
    rw [same]
    intro _ t member ending left
    obtain ⟨entry, _, rfl⟩ := List.mem_map.mp member
    cases left
  | @step number t phase found =>
    intro running u member ending left
    rcases List.mem_or_eq_of_mem_set member with before | rfl
    · exact h running u before ending left
    · have advances : Task.Advances load number t.entry s.now s.elapsed _ _ _ := Task.advances_step t
      rw [show s.elapsed = false from running] at advances left
      exact advances.isCancelled_eq_false (h running t (List.mem_of_getElem? found)) left
  | @join number entry ending phase found =>
    rw [sound.recorded_eq found]
    intro running u member other left
    rcases List.mem_or_eq_of_mem_set member with before | rfl
    · exact h running u before other left
    · exact h running _ (List.mem_of_getElem? found) other left

theorem noneCancelled_follow (load : Load) (schedule : List Move) :
    NoneCancelled (load.after schedule) :=
  sound_induction (fun _ _ member => nomatch member)
    (fun _ _ _ sound h effect => h.keeps sound effect) schedule

/-- **A report has a cancelled row only if its deadline has elapsed.** -/
theorem elapsed_of_cancelled (schedule : List Move) {row : ProviderReport}
    (member : row ∈ (load.after schedule).rows) (cancelled : row.outcome.isCancelled = true) :
    (load.after schedule).elapsed = true := by
  obtain ⟨t, there, told⟩ := List.mem_filterMap.mp
    ((sound_follow load schedule).rows.mem_iff.mp member)
  obtain ⟨entry, stage⟩ := t
  cases stage with
  | joined ending =>
    obtain rfl := Option.some.inj told
    cases running : (load.after schedule).elapsed with
    | true => rfl
    | false =>
      cases (noneCancelled_follow load schedule running _ there ending rfl).symm.trans cancelled
  | resting | querying | delivering | ended => cases told

end Load.State

end Environments
