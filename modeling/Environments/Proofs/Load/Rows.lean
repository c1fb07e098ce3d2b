import Environments.Proofs.Load.Moves

/-!
# The rows of a report and the tasks they come from

`Sound` is what holds of a load after every schedule: its tasks are those of the discovered
entries, what a task leaves behind is signed by that task, and the rows of the report are the rows
of the tasks whose end is on record, in some order.  A breakdown carries no descriptor, only the
identity of its task; `Sound.record_eq` says that the descriptor kept under that identity is always
there and always the right one.

`Sound.exists_outcomes` draws the sum for a finished load: one row for each entry, under its own
descriptor.
-/

namespace Environments

namespace Report

/-- The rows of entries with these outcomes, each under the descriptor of its entry. -/
def rowsOf (entries : List (Entry Provider)) (outcomes : List Outcome) : List ProviderReport :=
  List.zipWith (fun entry outcome => ⟨entry.descriptor, outcome⟩) entries outcomes

theorem map_provider_rowsOf {entries : List (Entry Provider)} {outcomes : List Outcome}
    (length : outcomes.length = entries.length) :
    (rowsOf entries outcomes).map (·.provider) = entries.map (·.descriptor) := by
  induction entries generalizing outcomes with
  | nil => rfl
  | cons entry entries ih =>
    cases outcomes with
    | nil => cases length
    | cons outcome outcomes => exact congrArg (entry.descriptor :: ·) (ih (Nat.succ.inj length))

end Report

/-- An ending signed by the task with a number: with the descriptor of its entry if the task
returned, and with its identity if the task broke down. -/
def Ending.SignedBy (load : Load) (number : Nat) (entry : Entry Provider) : Ending → Prop
  | returned descriptor _ => descriptor = entry.descriptor
  | brokeDown task _ => task = load.taskId number

namespace Task

/-- The row of a task whose end is on record. -/
def row? (t : Task) : Option ProviderReport :=
  match t.stage with
  | .joined ending => some ⟨t.entry.descriptor, ending.outcome⟩
  | _ => none

theorem Advance.signedBy {load : Load} {number now : Nat} {entry : Entry Provider} {cancelled : Bool}
    {first last : Stage} {deeds : List Deed} {ending : Ending}
    (h : Advance load number entry now cancelled first deeds last) (left : last.ending? = some ending) :
    ending.SignedBy load number entry := by
  cases h with
  | cutResting | cutQuerying | cutDelivering =>
    obtain rfl := Option.some.inj left
    rfl
  | call | handOver => cases left
  | @collect index results developer rest due answer =>
    rcases answer with (error | result) | message
    · obtain rfl := Option.some.inj left
      rfl
    · cases left
    · obtain rfl := Option.some.inj left
      rfl
  | @conclude batch due answer =>
    rcases answer with (error | accepted) | message <;> obtain rfl := Option.some.inj left <;> rfl

theorem Advances.signedBy {load : Load} {number now : Nat} {entry : Entry Provider} {cancelled : Bool}
    {first last : Stage} {deeds : List Deed} {ending : Ending}
    (h : Advances load number entry now cancelled first deeds last)
    (before : ∀ ending, first.ending? = some ending → ending.SignedBy load number entry)
    (left : last.ending? = some ending) : ending.SignedBy load number entry := by
  cases h with
  | refl => exact before ending left
  | tail _ last => exact last.signedBy left

theorem Advance.row?_eq_none {load : Load} {number now : Nat} {entry : Entry Provider}
    {cancelled : Bool} {first last : Stage} {deeds : List Deed}
    (h : Advance load number entry now cancelled first deeds last) :
    row? ⟨entry, first⟩ = none ∧ row? ⟨entry, last⟩ = none := by
  cases h with
  | cutResting | cutQuerying | cutDelivering | call | handOver => exact ⟨rfl, rfl⟩
  | @collect index results developer rest due answer =>
    rcases answer with (_ | _) | _ <;> exact ⟨rfl, rfl⟩
  | @conclude batch due answer => rcases answer with (_ | _) | _ <;> exact ⟨rfl, rfl⟩

theorem Advances.row?_eq {load : Load} {number now : Nat} {entry : Entry Provider} {cancelled : Bool}
    {first last : Stage} {deeds : List Deed}
    (h : Advances load number entry now cancelled first deeds last) :
    row? ⟨entry, first⟩ = row? ⟨entry, last⟩ := by
  induction h with
  | refl => rfl
  | tail _ last ih => rw [ih, last.row?_eq_none.1, last.row?_eq_none.2]

end Task

namespace Load.State

theorem exists_append_cons {α : Type} {l : List α} {n : Nat} {a : α} (h : l[n]? = some a) :
    ∃ before after, l = before ++ a :: after ∧ ∀ b, l.set n b = before ++ b :: after := by
  obtain ⟨inside, rfl⟩ := List.getElem?_eq_some_iff.mp h
  refine ⟨l.take n, l.drop (n + 1), ?_, fun b => ?_⟩
  · rw [List.getElem_cons_drop, List.take_append_drop]
  · rw [List.set_eq_take_append_cons_drop, if_pos inside]

/-- **What holds of a load after every schedule.** -/
structure Sound (load : Load) (s : State) : Prop where
  discovering : s.phase = .discovering → s.tasks = [] ∧ s.discoveryError = none
  listed : s.phase ≠ .discovering → s.discoveryError = none →
    load.discovered = .ok (s.tasks.map (·.entry))
  unlisted : s.discoveryError ≠ none → s.phase = .finished ∧ s.tasks = []
  finished : s.phase = .finished → s.outstanding = 0
  attributed : Attributed load s
  signed : ∀ (number : Nat) (t : Task) (ending : Ending), s.tasks[number]? = some t →
    t.stage.ending? = some ending → ending.SignedBy load number t.entry
  rows : s.rows.Perm (s.tasks.filterMap Task.row?)
  unattributed : s.unattributed = []

variable {load : Load} {s : State}

/-- **A breakdown is put on record under the descriptor of the provider whose task broke down.** -/
theorem Sound.record_eq (h : Sound load s) {number : Nat} {entry : Entry Provider} {ending : Ending}
    (found : s.tasks[number]? = some ⟨entry, .ended ending⟩) :
    s.record ending = s.put ⟨entry.descriptor, ending.outcome⟩ := by
  have signed := h.signed number _ ending found rfl
  have kept := h.attributed number _ found
  cases ending with
  | returned descriptor outcome =>
    obtain rfl : descriptor = entry.descriptor := signed
    rfl
  | brokeDown task report =>
    obtain rfl : task = load.taskId number := signed
    simp only [record, kept]
    rfl

theorem Sound.recorded_eq (h : Sound load s) {number : Nat} {entry : Entry Provider} {ending : Ending}
    (found : s.tasks[number]? = some ⟨entry, .ended ending⟩) : s.recorded number entry ending =
      { s.put ⟨entry.descriptor, ending.outcome⟩ with
        tasks := s.tasks.set number ⟨entry, .joined ending⟩ } := by
  rw [State.recorded, h.record_eq found]

theorem sound_initial : Sound load {} where
  discovering _ := ⟨rfl, rfl⟩
  listed h := absurd rfl h
  unlisted h := absurd rfl h
  finished h := nomatch h
  attributed _ _ found := by cases found
  signed _ _ _ found := by cases found
  rows := .nil
  unattributed := rfl

theorem Sound.start (h : Sound load s) (phase : s.phase = .discovering)
    {entries : List (Entry Provider)} (found : load.discovered = .ok entries) :
    Sound load (s.start load entries) := by
  obtain ⟨inFlight, same, kept⟩ := start_eq load (h.discovering phase).1 entries
  have fresh : (entries.map fun entry => ({ entry := entry } : Task)).filterMap Task.row? = [] := by
    rw [List.filterMap_map]
    exact List.filterMap_eq_nil_iff.mpr fun _ _ => rfl
  have none := h.rows
  rw [(h.discovering phase).1, List.filterMap_nil, List.perm_nil] at none
  rw [same] at kept ⊢
  refine ⟨nofun, fun _ _ => ?_, fun failed => ?_, nofun, kept, ?_, ?_, h.unattributed⟩
  · rw [found, List.map_map]
    exact congrArg Except.ok (List.map_id' entries).symm
  · exact absurd (h.discovering phase).2 failed
  · intro number t ending at_number left
    obtain ⟨entry, _, rfl⟩ := List.mem_map.mp (List.mem_of_getElem? at_number)
    cases left
  · change s.rows.Perm _
    rw [none, fresh]

theorem Sound.unlistedAs (h : Sound load s) (phase : s.phase = .discovering) {s' : State}
    (error : s'.discoveryError ≠ none) (finished : s'.phase = .finished) (tasks : s'.tasks = s.tasks)
    (rows : s'.rows = s.rows) (unattributed : s'.unattributed = s.unattributed) :
    Sound load s' := by
  have none : s'.tasks = [] := tasks.trans (h.discovering phase).1
  refine ⟨fun running => ?_, fun _ listed => absurd listed error, fun _ => ⟨finished, none⟩,
    fun _ => ?_, fun number t found => ?_, fun number t ending found => ?_, ?_,
    unattributed.trans h.unattributed⟩
  · rw [finished] at running
    cases running
  · rw [outstanding, none]
    rfl
  · rw [none] at found
    cases found
  · rw [none] at found
    cases found
  · rw [rows, tasks]
    exact h.rows

theorem map_entry_set {tasks : List Task} {number : Nat} {t : Task} (stage : Stage)
    (found : tasks[number]? = some t) :
    (tasks.set number { t with stage := stage }).map (·.entry) = tasks.map (·.entry) := by
  obtain ⟨before, after, apart, set⟩ := exists_append_cons found
  rw [set, apart]
  simp

theorem getElem?_set_stage {tasks : List Task} {number other : Nat} {t u : Task} {stage : Stage}
    (found : tasks[number]? = some t)
    (at_other : (tasks.set number { t with stage := stage })[other]? = some u) :
    (other = number ∧ u = { t with stage := stage }) ∨ (other ≠ number ∧ tasks[other]? = some u) := by
  by_cases same : number = other
  · subst same
    obtain ⟨inside, _⟩ := List.getElem?_eq_some_iff.mp found
    rw [List.getElem?_set_self inside] at at_other
    exact Or.inl ⟨rfl, (Option.some.inj at_other).symm⟩
  · rw [List.getElem?_set_ne same] at at_other
    exact Or.inr ⟨Ne.symm same, at_other⟩

theorem Attributed.set_stage {s' : State} (h : Attributed load s) {number : Nat} {t : Task}
    {stage : Stage} (found : s.tasks[number]? = some t)
    (tasks : s'.tasks = s.tasks.set number { t with stage := stage })
    (inFlight : s'.inFlight = s.inFlight) : Attributed load s' := by
  intro other u at_other
  rw [tasks] at at_other
  rw [inFlight]
  rcases getElem?_set_stage found at_other with ⟨rfl, rfl⟩ | ⟨_, unchanged⟩
  · exact h other t found
  · exact h other u unchanged

theorem Sound.moved (h : Sound load s) (phase : s.phase = .loading) {number : Nat} {t : Task}
    {stage : Stage} {deeds : List Deed} (found : s.tasks[number]? = some t)
    (advances : Task.Advances load number t.entry s.now s.elapsed t.stage deeds stage) :
    Sound load (s.moved number t stage deeds) where
  discovering running := by
    cases phase.symm.trans running
  listed running fine := by
    rw [h.listed running fine]
    exact congrArg Except.ok (map_entry_set stage found).symm
  unlisted failed := by
    rw [(h.unlisted failed).2] at found
    cases found
  finished phase' := by
    cases phase.symm.trans phase'
  attributed := h.attributed.set_stage found rfl rfl
  signed other u ending at_other left := by
    rcases getElem?_set_stage found at_other with ⟨rfl, rfl⟩ | ⟨_, unchanged⟩
    · exact advances.signedBy (fun ending => h.signed other t ending found) left
    · exact h.signed other u ending unchanged left
  rows := by
    obtain ⟨before, after, apart, set⟩ := exists_append_cons found
    change s.rows.Perm ((s.tasks.set number { t with stage := stage }).filterMap Task.row?)
    have rows := h.rows
    rw [apart] at rows
    rw [set]
    simp only [List.filterMap_append, List.filterMap_cons] at rows ⊢
    rwa [← advances.row?_eq]
  unattributed := h.unattributed

theorem Sound.recorded (h : Sound load s) (phase : s.phase = .loading) {number : Nat}
    {entry : Entry Provider} {ending : Ending}
    (found : s.tasks[number]? = some ⟨entry, .ended ending⟩) :
    Sound load (s.recorded number entry ending) := by
  rw [h.recorded_eq found]
  refine ⟨fun running => ?_, fun running fine => ?_, fun failed => ?_, fun phase' => ?_,
    h.attributed.set_stage found rfl rfl, fun other u left at_other signed => ?_, ?_, h.unattributed⟩
  · cases phase.symm.trans running
  · rw [h.listed running fine]
    exact congrArg Except.ok (map_entry_set (.joined ending) found).symm
  · rw [(h.unlisted failed).2] at found
    cases found
  · cases phase.symm.trans phase'
  · rcases getElem?_set_stage found at_other with ⟨rfl, rfl⟩ | ⟨_, unchanged⟩
    · exact h.signed other ⟨entry, .ended ending⟩ left found signed
    · exact h.signed other u left unchanged signed
  · obtain ⟨before, after, apart, set⟩ := exists_append_cons found
    -- The new row is the last one in the report, and has its place among the tasks.
    change (s.rows ++ [_]).Perm ((s.tasks.set number ⟨entry, .joined ending⟩).filterMap Task.row?)
    have rows := h.rows
    rw [apart] at rows
    rw [set]
    simp only [List.filterMap_append, List.filterMap_cons, Task.row?] at rows ⊢
    exact (List.perm_append_singleton _ _).trans ((rows.cons _).trans List.perm_middle.symm)

theorem Sound.keeps {move : Move} {s' : State} (h : Sound load s) (effect : Effect load s move s') :
    Sound load s' := by
  cases effect with
  | stay => exact h
  | wait =>
    exact ⟨h.discovering, h.listed, h.unlisted, h.finished, h.attributed, h.signed, h.rows,
      h.unattributed⟩
  | start phase _ found => exact h.start phase found
  | fail phase => exact h.unlistedAs phase nofun rfl rfl rfl rfl
  | timeOut phase => exact h.unlistedAs phase nofun rfl rfl rfl rfl
  | cancel =>
    exact ⟨h.discovering, h.listed, h.unlisted, h.finished, h.attributed, h.signed, h.rows,
      h.unattributed⟩
  | step phase found => exact h.moved phase found (Task.advances_step _)
  | join phase found => exact h.recorded phase found
  | close phase none =>
    refine ⟨nofun, fun _ => h.listed (by rw [phase]; nofun), fun failed => ?_, fun _ => none,
      h.attributed, h.signed, h.rows, h.unattributed⟩
    exact ⟨rfl, (h.unlisted failed).2⟩

/-- **A load is sound after every schedule.** -/
theorem sound_follow (load : Load) (schedule : List Move) : Sound load (load.after schedule) :=
  follow_induction load sound_initial (fun _ _ _ h => h.keeps) schedule

/-- **The induction over all schedules**, with a load that is known to be sound. -/
theorem sound_induction {P : State → Prop} (start : P {})
    (keeps : ∀ s move s', Sound load s → P s → Effect load s move s' → P s')
    (schedule : List Move) : P (load.after schedule) := by
  suffices Sound load (load.after schedule) ∧ P (load.after schedule) from this.2
  exact follow_induction load (P := fun s => Sound load s ∧ P s) ⟨sound_initial, start⟩
    (fun s move s' h effect => ⟨h.1.keeps effect, keeps s move s' h.1 h.2 effect⟩) schedule

theorem Sound.listed_of_task (h : Sound load s) {number : Nat} {t : Task}
    (found : s.tasks[number]? = some t) : load.discovered = .ok (s.tasks.map (·.entry)) := by
  have some_task : s.tasks ≠ [] := by
    intro none
    rw [none] at found
    cases found
  have running : s.phase ≠ .discovering := fun phase => some_task (h.discovering phase).1
  have fine : s.discoveryError = none :=
    Classical.byContradiction fun failed => some_task (h.unlisted failed).2
  exact h.listed running fine

theorem Sound.getElem?_entries (h : Sound load s) {entries : List (Entry Provider)}
    (listed : load.discovered = .ok entries) {number : Nat} {t : Task}
    (found : s.tasks[number]? = some t) : entries[number]? = some t.entry := by
  have same := Except.ok.inj ((h.listed_of_task found).symm.trans listed)
  rw [← same, List.getElem?_map, found]
  rfl

theorem Sound.exists_row (h : Sound load s) (finished : s.phase = .finished) {number : Nat} {t : Task}
    (found : s.tasks[number]? = some t) :
    ∃ ending, t.stage = .joined ending ∧ ⟨t.entry.descriptor, ending.outcome⟩ ∈ s.rows := by
  have member := List.mem_of_getElem? found
  have joined := List.countP_eq_zero.mp (h.finished finished) t member
  obtain ⟨entry, stage⟩ := t
  cases stage with
  | joined ending =>
    exact ⟨ending, rfl, h.rows.mem_iff.mpr (List.mem_filterMap.mpr ⟨_, member, rfl⟩)⟩
  | resting | querying | delivering | ended => exact absurd rfl joined

theorem exists_endings (tasks : List Task) (h : (tasks.countP fun t => !t.stage.isJoined) = 0) :
    ∃ endings : List Ending, endings.length = tasks.length ∧
      tasks = List.zipWith (fun entry ending => ⟨entry, .joined ending⟩)
        (tasks.map (·.entry)) endings := by
  induction tasks with
  | nil => exact ⟨[], rfl, rfl⟩
  | cons t tasks ih =>
    rw [List.countP_cons] at h
    obtain ⟨endings, length, same⟩ := ih (by omega)
    obtain ⟨entry, stage⟩ := t
    cases stage with
    | joined ending => exact ⟨ending :: endings, by simp [length], by simp [← same]⟩
    | resting | querying | delivering | ended => simp [Stage.isJoined] at h

theorem filterMap_row?_zipWith (entries : List (Entry Provider)) (endings : List Ending) :
    (List.zipWith (fun entry ending => (⟨entry, .joined ending⟩ : Task)) entries endings).filterMap
        Task.row? = Report.rowsOf entries (endings.map Ending.outcome) := by
  induction entries generalizing endings with
  | nil => rfl
  | cons entry entries ih =>
    cases endings with
    | nil => rfl
    | cons ending endings =>
      rw [List.zipWith_cons_cons, List.filterMap_cons, ih]
      rfl

/-- **What a finished load that could list its providers has to show**: an outcome for each entry,
which is the one that the task of the entry has ended with, and a row for each of them. -/
theorem Sound.exists_outcomes (h : Sound load s) (finished : s.phase = .finished)
    (fine : s.discoveryError = none) :
    ∃ (entries : List (Entry Provider)) (outcomes : List Outcome), load.discovered = .ok entries ∧
      outcomes.length = entries.length ∧ s.rows.Perm (Report.rowsOf entries outcomes) ∧
      ∀ (number : Nat) (entry : Entry Provider), entries[number]? = some entry →
        ∃ ending, outcomes[number]? = some ending.outcome ∧
          s.tasks[number]? = some ⟨entry, .joined ending⟩ := by
  obtain ⟨endings, length, same⟩ := exists_endings s.tasks (h.finished finished)
  refine ⟨s.tasks.map (·.entry), endings.map Ending.outcome, h.listed (by rw [finished]; nofun) fine,
    by simpa using length, ?_, fun number entry found => ?_⟩
  · have rows := h.rows
    rwa [same, filterMap_row?_zipWith] at rows
  · obtain ⟨inside, _⟩ := List.getElem?_eq_some_iff.mp found
    rw [List.length_map] at inside
    have left : endings[number]? = some endings[number] := List.getElem?_eq_getElem (by omega)
    refine ⟨endings[number], by simp [left], ?_⟩
    rw [same, List.getElem?_zipWith, found, left]

/-! ### The row of one provider -/

variable {entry : Entry Provider} {before after : List (Entry Provider)}

/-- The only row with an identifier, in a list in some other order, is the first one with it. -/
theorem find?_of_perm {α : Type} {p : α → Bool} {l l' : List α} {a : α} (perm : l.Perm l')
    (one : l'.filter p = [a]) : l.find? p = some a := by
  have same : (l.filter p).Perm [a] := by
    rw [← one]
    exact perm.filter p
  rw [← List.head?_filter, List.perm_singleton.mp same]
  rfl

theorem filter_rowsOf_eq_nil {entries : List (Entry Provider)} (outcomes : List Outcome)
    {id : ProviderId} (others : ∀ other ∈ entries, other.id ≠ id) :
    (Report.rowsOf entries outcomes).filter (·.provider.id = id) = [] := by
  rw [List.filter_eq_nil_iff, Report.rowsOf, ← List.map_uncurry_zip_eq_zipWith]
  intro row member
  obtain ⟨pair, zipped, rfl⟩ := List.mem_map.mp member
  rw [decide_eq_true_eq]
  exact others pair.1 (List.of_mem_zip zipped).1

theorem filter_rowsOf_eq_singleton {outcomes : List Outcome} {outcome : Outcome}
    (others : ∀ other ∈ before ++ after, other.id ≠ entry.id)
    (told : outcomes[before.length]? = some outcome) :
    (Report.rowsOf (before ++ entry :: after) outcomes).filter (·.provider.id = entry.id) =
      [⟨entry.descriptor, outcome⟩] := by
  obtain ⟨inside, rfl⟩ := List.getElem?_eq_some_iff.mp told
  have apart : outcomes = outcomes.take before.length ++
      outcomes[before.length] :: outcomes.drop (before.length + 1) := by
    rw [List.getElem_cons_drop, List.take_append_drop]
  have first : before.length = (outcomes.take before.length).length := by
    rw [List.length_take]
    omega
  have rows : Report.rowsOf (before ++ entry :: after) outcomes =
      Report.rowsOf before (outcomes.take before.length) ++ ⟨entry.descriptor, outcomes[before.length]⟩ ::
        Report.rowsOf after (outcomes.drop (before.length + 1)) := by
    conv => lhs; rw [apart]
    rw [Report.rowsOf, List.zipWith_append first, List.zipWith_cons_cons]
    rfl
  rw [rows, List.filter_append,
    filter_rowsOf_eq_nil _ fun other member => others other (List.mem_append_left _ member),
    List.filter_cons_of_pos (by simp [Entry.id]),
    filter_rowsOf_eq_nil _ fun other member => others other (List.mem_append_right _ member)]
  rfl

/-- **The row of a provider with one entry** tells what the task of the entry has ended with. -/
theorem Sound.exists_outcomeFor? (h : Sound load s) (finished : s.phase = .finished)
    (fine : s.discoveryError = none) (listed : load.discovered = .ok (before ++ entry :: after))
    (others : ∀ other ∈ before ++ after, other.id ≠ entry.id) :
    ∃ ending, (s.report load).outcomeFor? entry.id = some ending.outcome ∧
      s.tasks[before.length]? = some ⟨entry, .joined ending⟩ := by
  obtain ⟨entries, outcomes, same, _, rows, ended⟩ := h.exists_outcomes finished fine
  obtain rfl := Except.ok.inj (listed.symm.trans same)
  obtain ⟨ending, told, found⟩ := ended before.length entry (by simp)
  refine ⟨ending, ?_, found⟩
  rw [Report.outcomeFor?]
  rw [show (s.report load).providers.find? _ = _ from
    find?_of_perm rows (filter_rowsOf_eq_singleton others told)]
  rfl

end Load.State

end Environments
