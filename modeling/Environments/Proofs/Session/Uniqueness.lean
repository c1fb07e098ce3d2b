import Environments.Proofs.Directory.Registration
import Environments.Proofs.Session.Arrivals

/-!
# One row and one batch for each provider

Where the providers of a load have different identifiers, no identifier has two rows in the report, so
that `outcomeFor?` tells of the only one, and none has two batches handed to the sink or accepted by it:
a task hands over one batch at most, under the descriptor of its own entry (`batches_distinct`).

The providers of a directory have different identifiers, by `Directory.tells_performAll`.
`registered_once` joins the two: what a directory holds after any course of registrations and failures,
and what a load from it reports and delivers.
-/

namespace Environments

theorem Report.outcomeFor?_eq_some_iff {r : Report} (ids : (r.providers.map (·.provider.id)).Nodup)
    {id : ProviderId} {outcome : Outcome} :
    r.outcomeFor? id = some outcome ↔
      ∃ provider, provider.id = id ∧ ⟨provider, outcome⟩ ∈ r.providers := by
  rw [outcomeFor?, Option.map_eq_some_iff]
  constructor
  · rintro ⟨⟨provider, outcome⟩, found, rfl⟩
    exact ⟨provider, by simpa using List.find?_some found, List.mem_of_find?_eq_some found⟩
  · rintro ⟨provider, rfl, member⟩
    cases found : r.providers.find? fun row => row.provider.id = provider.id with
    | none => exact absurd (decide_eq_true rfl) (List.find?_eq_none.mp found _ member)
    | some row =>
      have same : row.provider.id = provider.id := by simpa using List.find?_some found
      have only := List.inj_on_of_nodup_map ids (List.mem_of_find?_eq_some found) member same
      exact ⟨row, rfl, by rw [only]⟩

namespace Load.State

variable {load : Load} {s : State}

theorem Sound.nodup_ids (h : Sound load s)
    (apart : ∀ entries, load.discovered = .ok entries → (entries.map Entry.id).Nodup) :
    (s.tasks.map (·.entry.id)).Nodup := by
  cases tasks : s.tasks with
  | nil => exact .nil
  | cons t rest =>
    have found : s.tasks[0]? = some t := by rw [tasks]; rfl
    have ids := apart _ (h.listed_of_task found)
    rwa [List.map_map, tasks] at ids

theorem Sound.nodup_rows (h : Sound load s) (ids : (s.tasks.map (·.entry.id)).Nodup) :
    ((s.report load).providers.map (·.provider.id)).Nodup := by
  refine (h.rows.map (·.provider.id)).nodup_iff.mpr ?_
  refine List.pairwise_map.mpr (List.pairwise_filterMap.mpr ((List.pairwise_map.mp ids).imp ?_))
  intro t u other row_t at_t row_u at_u
  have own : ∀ {t : Task} {row : ProviderReport}, t.row? = some row →
      row.provider = t.entry.descriptor := by
    rintro ⟨entry, stage⟩ row same
    cases stage with
    | joined ending =>
      obtain rfl := Option.some.inj same
      rfl
    | resting | querying | delivering | ended => cases same
  rwa [own at_t, own at_u]

/-- **No provider has two batches** among those that can be read off the deeds, if a task has one at
most, and under the descriptor of its entry. -/
theorem batches_distinct (ids : (s.tasks.map (·.entry.id)).Nodup) {read : Deed → Option Batch}
    (once : ∀ number, ((s.history number).map Prod.snd).countP (fun deed => (read deed).isSome) ≤ 1)
    (own : ∀ time deed batch, (time, deed) ∈ s.deeds → read deed = some batch →
      ∃ number t, deed.task? = some number ∧ s.tasks[number]? = some t ∧
        batch.provider = t.entry.descriptor) :
    ((s.deeds.filterMap fun deed => read deed.2).map (·.provider.id)).Nodup := by
  refine List.pairwise_map.mpr (List.pairwise_filterMap.mpr ?_)
  refine (tasks_distinct once).imp_of_mem ?_
  intro a b a_passed b_passed apart x here y there same
  obtain ⟨number, t, part, found, provider⟩ := own _ _ _ a_passed here
  obtain ⟨other, u, other_part, other_found, other_provider⟩ := own _ _ _ b_passed there
  -- One identifier is that of one task, and from this task there is one batch only.
  rw [provider, other_provider] at same
  have inside : number < (s.tasks.map (·.entry.id)).length := by
    rw [List.length_map]
    exact (List.getElem?_eq_some_iff.mp found).1
  have one : number = other := by
    refine (List.getElem?_inj inside ids).mp ?_
    rw [List.getElem?_map, List.getElem?_map, found, other_found]
    exact congrArg some same
  refine apart ?_ ?_ number part (one ▸ other_part)
  · rw [here]
    rfl
  · rw [there]
    rfl

theorem provider_of_handed (load : Load) (schedule : List Move) {number : Nat} {t : Task}
    (found : (load.after schedule).tasks[number]? = some t) {batch : Batch}
    (handed : .handed number batch ∈ ((load.after schedule).history number).map Prod.snd) :
    batch.provider = t.entry.descriptor :=
  ((course_follow load schedule found).delivery.whole batch (List.mem_filterMap.mpr ⟨_, handed, rfl⟩)).1

theorem nodup_handed (load : Load) (schedule : List Move)
    (ids : ((load.after schedule).tasks.map (·.entry.id)).Nodup) :
    ((load.after schedule).handed.map (·.provider.id)).Nodup := by
  refine batches_distinct ids (fun number => ?_) ?_
  · rw [← List.length_filterMap_eq_countP]
    cases found : (load.after schedule).tasks[number]? with
    | none =>
      rw [(courses_follow load schedule).absent number found]
      exact Nat.zero_le 1
    | some t => exact (course_follow load schedule found).delivery.once
  · intro time deed batch passed same
    cases deed with
    | handed number batch =>
      obtain rfl := Option.some.inj same
      obtain ⟨t, found⟩ := exists_task_of_mem_deeds load schedule passed rfl
      exact ⟨number, t, rfl, found,
        provider_of_handed load schedule found (List.mem_map_of_mem (mem_history passed rfl))⟩
    | asked | called | answered | accepted | refused | spoiled => cases same

theorem nodup_accepted (load : Load) (schedule : List Move)
    (ids : ((load.after schedule).tasks.map (·.entry.id)).Nodup) :
    (((load.after schedule).deeds.filterMap (·.2.accepted?)).map (·.provider.id)).Nodup := by
  refine batches_distinct ids (countP_accepted_le load schedule) ?_
  intro time deed batch passed same
  cases deed with
  | accepted number batch =>
    obtain rfl := Option.some.inj same
    obtain ⟨t, found⟩ := exists_task_of_mem_deeds load schedule passed rfl
    refine ⟨number, t, rfl, found, provider_of_handed load schedule found ?_⟩
    -- What is accepted has been handed over before.
    rw [(course_follow load schedule found).of_accepted (List.mem_map_of_mem (mem_history passed rfl))]
    simp
  | asked | called | answered | handed | refused | spoiled => cases same

end Load.State

/-- Where the entries of a directory have different identifiers, so have the providers of a load that are
those of the directory. -/
theorem Directory.nodup_discovered {π : Type} [Described π] {see : π → Provider}
    (same : ∀ p, Described.descriptor (see p) = Described.descriptor p) {d : Directory π}
    (ids : (d.entries.map Entry.id).Nodup) {discovered : Except DirectoryError (List (Entry Provider))}
    (lists : discovered = d.providers.map (·.map (Entry.map see))) (entries : List (Entry Provider))
    (listed : discovered = .ok entries) : (entries.map Entry.id).Nodup := by
  have id_map : Entry.id ∘ Entry.map see = (Entry.id : Entry π → ProviderId) :=
    funext fun e => congrArg Descriptor.id (same e.provider)
  rw [seen_eq (lists.symm.trans listed), List.map_map, id_map]
  exact ids

/-- **A provider is registered once, reported once, and delivers once.** After any registrations and
failures a directory has one entry for each identifier that was registered, in the order of the first
registrations and each as it was last registered, and lists them unless it was told to fail; then it
fails as it was last told to.  One more registration changes nothing but its own entry.

A damaged directory refuses everything, with a failure of the discovery, and keeps what it had.

In a load from the directory, damaged or not and under any schedule, no identifier has two rows, so that
the outcome for an identifier is that of its only row; and none has two batches handed to the sink, or
accepted by the sink of any session. -/
theorem registered_once {π : Type} [Described π] (operations : List (Directory.Operation π)) :
    let d : Directory π := .performAll {} operations
    let registrations := operations.filterMap Directory.Operation.entry?
    let failures := operations.filterMap Directory.Operation.failure?
    Directory.Tells registrations failures d ∧
    d.providers = failures.getLast?.elim (.ok d.entries) .error ∧
    (∀ e : Entry π, ∃ d', d.register e = .ok d' ∧ e.Enters d.entries d'.entries ∧
      d'.failure = d.failure) ∧
    (∀ failure, d.failWith failure = .ok { d with failure := some failure }) ∧
    (∀ damaged : Directory π, damaged.damaged = true →
      (∀ operation, damaged.attempt operation =
        .error (.discovery "poisoned lock: another task failed inside")) ∧
      damaged.providers = .error (.discovery "poisoned lock: another task failed inside") ∧
      ∀ later, damaged.performAll later = damaged) ∧
    ∀ see : π → Provider, (∀ p, Described.descriptor (see p) = Described.descriptor p) →
      ∀ (damaged : Bool) (load : Load),
        load.discovered = (Directory.providers { d with damaged }).map (·.map (Entry.map see)) →
      ∀ schedule,
        let final := load.after schedule
        let rows := (final.report load).providers
        (rows.map (·.provider.id)).Nodup ∧
        (∀ id outcome, (final.report load).outcomeFor? id = some outcome ↔
          ∃ provider, provider.id = id ∧ ⟨provider, outcome⟩ ∈ rows) ∧
        (final.handed.map (·.provider.id)).Nodup ∧
        ∀ s : Session, ∃ gained, (s.afterLoad final).sink.arrived = s.sink.arrived ++ gained ∧
          (gained.map (·.provider.id)).Nodup := by
  intro d registrations failures
  obtain ⟨sane, tells⟩ := Directory.tells_performAll operations
  change d.damaged = false at sane
  change Directory.Tells registrations failures d at tells
  refine ⟨tells, ?_, fun e => ?_, fun failure => ?_, fun damaged broken => ?_, ?_⟩
  · rw [Directory.providers_of_sane sane, tells.failure]
  · refine ⟨{ d with entries := e.putInto d.entries }, ?_, e.enters_putInto tells.ids, rfl⟩
    rw [Directory.register, Directory.unlessDamaged, sane, if_neg Bool.false_ne_true]
  · rw [Directory.failWith, Directory.unlessDamaged, sane, if_neg Bool.false_ne_true]
  · obtain ⟨refused, unlisted⟩ := Directory.refused_of_damaged broken
    exact ⟨refused, unlisted, Directory.performAll_of_damaged broken⟩
  intro see same damaged load lists schedule final rows
  have sound := Load.State.sound_follow load schedule
  have ids := sound.nodup_ids (Directory.nodup_discovered same (d := { d with damaged }) tells.ids lists)
  have distinct := sound.nodup_rows ids
  refine ⟨distinct, fun id outcome => Report.outcomeFor?_eq_some_iff distinct,
    Load.State.nodup_handed load schedule ids, fun s => ⟨_, Session.arrived_foldl_receiveDeed _ _, ?_⟩⟩
  rw [List.filterMap_map]
  exact Load.State.nodup_accepted load schedule ids

/-- Registrations of three providers, of which the first is registered anew. -/
def anew : List (Directory.Operation Provider) :=
  [.register { Load.broken with developers := [] }, .register Load.quick, .register Load.slow,
    .register Load.broken]

/-- The provider that is registered anew keeps its place, and a load from the directory has one row for
the one that delivers. A damaged directory does not even fail as it was told to. -/
theorem registered_once_anew :
    let d : Directory Provider := .performAll {} anew
    let final := Load.mixed.after Load.mixedMoves
    Directory.Tells (anew.filterMap Directory.Operation.entry?) [] d ∧
      d.entries = [Load.broken, Load.quick, Load.slow] ∧
      Load.mixed.discovered = d.providers.map (·.map (Entry.map id)) ∧
      (∃ provider, provider.id = ⟨"quick"⟩ ∧
        ⟨provider, .delivered 1⟩ ∈ (final.report Load.mixed).providers) ∧
      ((final.report Load.mixed).providers.map (·.provider.id)).Nodup ∧
      Directory.attempt { d with failure := some (.discovery "no"), damaged := true }
          (.register Load.slow) =
        .error (.discovery "poisoned lock: another task failed inside") := by
  intro d final
  have entries : d.entries = [Load.broken, Load.quick, Load.slow] := rfl
  have lists : Load.mixed.discovered = d.providers.map (·.map (Entry.map id)) := rfl
  obtain ⟨tells, _, _, _, damaged, loads⟩ := registered_once anew
  obtain ⟨distinct, outcome, _⟩ := loads id (fun _ => rfl) false Load.mixed lists Load.mixedMoves
  have told : (final.report Load.mixed).outcomeFor? ⟨"quick"⟩ = some (.delivered 1) := by
    decide +kernel
  refine ⟨tells, entries, lists, (outcome _ _).mp told, distinct, ?_⟩
  exact (damaged { d with failure := some (.discovery "no"), damaged := true } rfl).1 _

end Environments
