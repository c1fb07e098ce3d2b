import Environments.Proofs.Directory.Registration
import Environments.Proofs.Load.Queries
import Environments.Proofs.Session.Runs
import Mathlib.Data.List.Basic

/-!
# What a load adds to the journals

Copies of one provider share a journal, and a directory holds one entry for each identifier.  The
two go together: `Tidy` says that copies with one journal have one descriptor, so that the entries
of a directory have journals of their own, and every session is tidy, by `tidy_of_reachable`.

Hence `queried_one_by_one`: what a load adds to the journal of a registered provider is what that
provider's task has asked, and this is the accounts of its entry, one by one and in order, up to the
place that the row of the provider tells.
-/

namespace Environments

/-- The providers that a load meets are those of a directory. -/
def Load.Lists (load : Load) (directory : Directory Registered) : Prop :=
  load.discovered = directory.providers.map (·.map (Entry.map Registered.toProvider))

namespace Session

variable {s : Session}

/-- The copies that there are, at hand or registered. -/
def copies (s : Session) : List Copy :=
  s.roster.copies.map (·.2) ++ s.directory.entries.map (·.provider.copy)

/-- **Every journal belongs to one provider**, and every provider has one entry in the directory. -/
structure Tidy (s : Session) : Prop where
  ids : (s.directory.entries.map Entry.id).Nodup
  journal_lt : ∀ copy ∈ s.copies, copy.journal < s.roster.journals.length
  descriptor_eq : ∀ a ∈ s.copies, ∀ b ∈ s.copies, a.journal = b.journal →
    a.script.descriptor = b.script.descriptor

/-! ### Sessions are tidy -/

/-- Copies that were there, with other scripts or under other handles, leave a session tidy. -/
theorem Tidy.of_copies {s' : Session} (h : Tidy s) (ids : (s'.directory.entries.map Entry.id).Nodup)
    (journals : s'.roster.journals.length = s.roster.journals.length)
    (copies : ∀ copy ∈ s'.copies, ∃ old ∈ s.copies, copy.journal = old.journal ∧
      copy.script.descriptor = old.script.descriptor) : Tidy s' := by
  refine ⟨ids, fun copy member => ?_, fun a a_member b b_member same => ?_⟩
  · obtain ⟨old, there, journal, _⟩ := copies copy member
    rw [journal, journals]
    exact h.journal_lt old there
  · obtain ⟨old_a, a_there, a_journal, a_descriptor⟩ := copies a a_member
    obtain ⟨old_b, b_there, b_journal, b_descriptor⟩ := copies b b_member
    rw [a_descriptor, b_descriptor]
    exact h.descriptor_eq old_a a_there old_b b_there (a_journal.symm.trans (same.trans b_journal))

theorem Tidy.of_eq {s' : Session} (h : Tidy s) (copies : s'.roster.copies = s.roster.copies)
    (journals : s'.roster.journals.length = s.roster.journals.length)
    (entries : s'.directory.entries = s.directory.entries) : Tidy s' := by
  refine h.of_copies (by rw [entries]; exact h.ids) journals fun copy member => ?_
  refine ⟨copy, ?_, rfl, rfl⟩
  rwa [Session.copies, copies, entries] at member

theorem Tidy.add (h : Tidy s) (handle : String) (script : Script) :
    Tidy { s with roster := s.roster.add handle script } := by
  have new : ∀ copy, copy ∈ ({ s with roster := s.roster.add handle script } : Session).copies →
      copy = ⟨script, s.roster.journals.length⟩ ∨ copy ∈ s.copies := by
    intro copy member
    simpa [Session.copies, Roster.add, Roster.put] using member
  have length : (s.roster.add handle script).journals.length = s.roster.journals.length + 1 := by
    simp [Roster.add]
  refine ⟨h.ids, fun copy member => ?_, fun a a_member b b_member same => ?_⟩
  · rw [length]
    rcases new copy member with rfl | there
    · exact Nat.lt_succ_self _
    · exact Nat.lt_succ_of_lt (h.journal_lt copy there)
  · -- The journal of the new provider is the first one after those that there were.
    rcases new a a_member with rfl | a_there <;> rcases new b b_member with rfl | b_there
    · rfl
    · exact absurd (h.journal_lt b b_there) (Nat.not_lt_of_le (Nat.le_of_eq same))
    · exact absurd (h.journal_lt a a_there) (Nat.not_lt_of_le (Nat.le_of_eq same.symm))
    · exact h.descriptor_eq a a_there b b_there same

theorem mem_of_copy? {roster : Roster} {handle : String} {copy : Copy}
    (found : roster.copy? handle = some copy) : copy ∈ roster.copies.map (·.2) := by
  obtain ⟨before, after, apart, _⟩ := List.lookup_eq_some_iff.mp found
  rw [apart]
  simp

theorem Tidy.put (h : Tidy s) {handle newHandle : String} {copy : Copy} {script : Script}
    (found : s.roster.copy? handle = some copy)
    (descriptor : script.descriptor = copy.script.descriptor) :
    Tidy { s with roster := s.roster.put newHandle { copy with script := script } } := by
  refine h.of_copies h.ids rfl fun other member => ?_
  rcases List.mem_append.mp member with at_hand | registered
  · rcases List.mem_cons.mp at_hand with rfl | there
    · exact ⟨copy, List.mem_append_left _ (mem_of_copy? found), rfl, descriptor⟩
    · exact ⟨other, List.mem_append_left _ there, rfl, rfl⟩
  · exact ⟨other, List.mem_append_right _ registered, rfl, rfl⟩

theorem Tidy.edit (h : Tidy s) (handle : String) {change : Script → Script}
    (descriptor : ∀ script, (change script).descriptor = script.descriptor) :
    Tidy (s.withRoster? (s.roster.edit? handle change)) := by
  rw [Roster.edit?]
  cases found : s.roster.copy? handle with
  | none => exact h
  | some copy => exact h.put found (descriptor copy.script)

theorem Tidy.clone (h : Tidy s) (handle newHandle : String) :
    Tidy (s.withRoster? (s.roster.clone? handle newHandle)) := by
  rw [Roster.clone?]
  cases found : s.roster.copy? handle with
  | none => exact h
  | some copy => exact h.put found rfl

theorem Tidy.query (h : Tidy s) (handle : String) (developer : Option Developer) (options : String) :
    Tidy (((s.query? handle developer options).map (·.2)).getD s) := by
  rw [Session.query?, Roster.query?]
  cases s.roster.copy? handle with
  | none => exact h
  | some copy => exact h.of_eq rfl (by simp [Roster.record]) rfl

theorem Tidy.register (h : Tidy s) {handle : String} {copy : Copy}
    (found : s.roster.copy? handle = some copy) (alarm : Option Alarm) (developers : List Developer) :
    Tidy (s.withDirectory? (s.directory.register ⟨⟨copy, alarm⟩, developers⟩)) := by
  rw [Directory.register, Directory.unlessDamaged]
  split
  · exact h
  · refine h.of_copies (Entry.nodup_putInto _ h.ids) rfl fun other member => ?_
    rcases List.mem_append.mp member with at_hand | registered
    · exact ⟨other, List.mem_append_left _ at_hand, rfl, rfl⟩
    · obtain ⟨entry, there, rfl⟩ := List.mem_map.mp registered
      rcases (Entry.enters_putInto _ h.ids).mem_iff.mp there with rfl | ⟨before, _⟩
      · exact ⟨copy, List.mem_append_left _ (mem_of_copy? found), rfl, rfl⟩
      · exact ⟨_, List.mem_append_right _ (List.mem_map_of_mem before), rfl, rfl⟩

theorem Tidy.withDirectory? (h : Tidy s) {directory : Directory Registered}
    (entries : directory.entries = s.directory.entries) :
    Tidy (s.withDirectory? (s.directory.unlessDamaged (.ok directory))) := by
  rw [Directory.unlessDamaged]
  split
  · exact h
  · exact h.of_eq rfl rfl entries

/-! ### What a load records -/

theorem recordDeed_copies (entries : List (Entry Registered)) (roster : Roster) (deed : Deed) :
    (recordDeed entries roster deed).copies = roster.copies ∧
      (recordDeed entries roster deed).journals.length = roster.journals.length := by
  unfold recordDeed
  split
  · split
    · split
      · exact ⟨rfl, rfl⟩
      · exact ⟨rfl, List.length_modify ..⟩
    · exact ⟨rfl, rfl⟩
  · exact ⟨rfl, rfl⟩

theorem foldl_recordDeed_copies (entries : List (Entry Registered)) (roster : Roster)
    (deeds : List Deed) : (deeds.foldl (recordDeed entries) roster).copies = roster.copies ∧
      (deeds.foldl (recordDeed entries) roster).journals.length = roster.journals.length := by
  induction deeds generalizing roster with
  | nil => exact ⟨rfl, rfl⟩
  | cons deed deeds ih =>
    obtain ⟨copies, journals⟩ := ih (recordDeed entries roster deed)
    obtain ⟨same_copies, same_journals⟩ := recordDeed_copies entries roster deed
    exact ⟨copies.trans same_copies, journals.trans same_journals⟩

theorem Tidy.afterLoad (h : Tidy s) (final : Load.State) : Tidy (s.afterLoad final) := by
  obtain ⟨copies, journals⟩ := foldl_recordDeed_copies s.directory.entries s.roster
    (final.deeds.map (·.2))
  exact h.of_eq copies journals rfl

theorem Tidy.perform (h : Tidy s) (operation : Operation) : Tidy (s.perform operation) := by
  have alike : ∀ {s' : Session}, s'.roster = s.roster → s'.directory = s.directory → Tidy s' :=
    fun roster directory => h.of_eq (by rw [roster]) (by rw [roster]) (by rw [directory])
  cases operation with
  | addProvider handle script => exact h.add handle script
  | setResponse handle | setLatencyFor handle | setDefaultResponse handle | setDefaultLatency handle =>
    exact h.edit handle fun _ => rfl
  | cloneProvider handle newHandle => exact h.clone handle newHandle
  | query handle developer options => exact h.query handle developer options
  | register handle alarm developers =>
    simp only [Session.perform]
    cases found : s.roster.copy? handle with
    | none => exact h
    | some copy => exact h.register found alarm developers
  | failDirectory | damageDirectory => exact h.withDirectory? rfl
  | load config schedule =>
    simp only [Session.perform]
    split
    · exact h.afterLoad _
    · exact h
  | rejectFrom | deliver =>
    simp only [Session.perform, changeSink]
    split <;> exact alike rfl rfl
  | selectTarget | selectFromBatch =>
    simp only [Session.perform]
    split <;> exact alike rfl rfl
  | putBack =>
    simp only [Session.perform, putBack?]
    cases s.taken <;> exact alike rfl rfl
  | restoreFlow =>
    simp only [Session.perform, restoreFlow?]
    cases s.savedFlow <;> exact alike rfl rfl
  | setDiscoveryLatency | replaceSink | takeTarget | clearTarget | addStep | runFlow | saveFlow
  | resetFlow => exact alike rfl rfl

theorem tidy_of_reachable (reachable : s.Reachable) : Tidy s :=
  reachable_induction (fun _ => ⟨.nil, nofun, nofun⟩) (fun _ operation h => h.perform operation)
    reachable

/-! ### The journal of one provider -/

/-- What a deed of a load adds to a journal. -/
def recorded? (entries : List (Entry Registered)) (journal : Nat) : Deed → Option (Option Developer)
  | .called task developer _ =>
    match entries[task]? with
    | some entry =>
      if entry.provider.copy.journal = journal ∧ entry.provider.alarmFor? developer = none then
        some (some developer)
      else none
    | none => none
  | _ => none

theorem callsOf_record {roster : Roster} {copy : Copy} (known : copy.journal < roster.journals.length)
    (journal : Nat) (developer : Option Developer) :
    (roster.record journal developer).callsOf copy =
      roster.callsOf copy ++ if journal = copy.journal then [developer] else [] := by
  rw [Roster.callsOf, Roster.callsOf, Roster.record, List.getD_eq_getElem?_getD,
    List.getD_eq_getElem?_getD, List.getElem?_modify, List.getElem?_eq_getElem known]
  by_cases same : journal = copy.journal <;> simp [same]

theorem callsOf_recordDeed (entries : List (Entry Registered)) {roster : Roster} {copy : Copy}
    (known : copy.journal < roster.journals.length) (deed : Deed) :
    (recordDeed entries roster deed).callsOf copy =
      roster.callsOf copy ++ (recorded? entries copy.journal deed).toList := by
  cases deed with
  | called task developer options =>
    cases found : entries[task]? with
    | none => simp [recordDeed, recorded?, found]
    | some entry =>
      cases alarm : entry.provider.alarmFor? developer with
      | some message => simp [recordDeed, recorded?, found, alarm]
      | none =>
        simp only [recordDeed, recorded?, found, alarm, Option.isSome_none, Bool.false_eq_true,
          if_false, callsOf_record known]
        by_cases same : entry.provider.copy.journal = copy.journal <;> simp [same]
  | asked | answered | handed | accepted | refused | spoiled => exact (List.append_nil _).symm

/-- **What a load adds to a journal** is what its deeds add, one after the other. -/
theorem callsOf_foldl_recordDeed (entries : List (Entry Registered)) {roster : Roster} {copy : Copy}
    (known : copy.journal < roster.journals.length) (deeds : List Deed) :
    (deeds.foldl (recordDeed entries) roster).callsOf copy =
      roster.callsOf copy ++ deeds.filterMap (recorded? entries copy.journal) := by
  induction deeds generalizing roster with
  | nil => exact (List.append_nil _).symm
  | cons deed deeds ih =>
    have still : copy.journal < (recordDeed entries roster deed).journals.length := by
      rwa [(recordDeed_copies entries roster deed).2]
    rw [List.foldl_cons, ih still, callsOf_recordDeed entries known, List.append_assoc]
    cases h : recorded? entries copy.journal deed <;> simp [h]

theorem Tidy.place_eq (h : Tidy s) {place other : Nat} {entry entry' : Entry Registered}
    (listed : s.directory.entries[place]? = some entry)
    (listed' : s.directory.entries[other]? = some entry')
    (same : entry'.provider.copy.journal = entry.provider.copy.journal) : other = place := by
  have registered : ∀ {place : Nat} {entry : Entry Registered},
      s.directory.entries[place]? = some entry → entry.provider.copy ∈ s.copies := fun listed =>
    List.mem_append_right _ (List.mem_map_of_mem (List.mem_of_getElem? listed))
  have descriptor := h.descriptor_eq _ (registered listed') _ (registered listed) same
  have id : entry'.id = entry.id := congrArg Descriptor.id descriptor
  obtain ⟨inside, at_other⟩ := List.getElem?_eq_some_iff.mp listed'
  refine (List.getElem?_inj (by simpa using inside) h.ids).mp ?_
  rw [List.getElem?_map, List.getElem?_map, listed, listed', Option.map_some, Option.map_some, id]

/-- **What a load adds to the journal of a scripted provider** is what the task of its entry has
asked. -/
theorem Tidy.filterMap_recorded? (h : Tidy s) {number : Nat} {entry : Entry Registered}
    (listed : s.directory.entries[number]? = some entry) (scripted : entry.provider.alarm = none)
    (final : Load.State) :
    (final.deeds.map Prod.snd).filterMap
        (recorded? s.directory.entries entry.provider.copy.journal) =
      (Task.asked ((final.history number).map Prod.snd)).map some := by
  have silent : ∀ developer, entry.provider.alarmFor? developer = none := fun developer => by
    rw [Registered.alarmFor?, scripted]
    rfl
  rw [Task.asked, Task.queries, Load.State.history, List.filterMap_map, List.filterMap_map,
    List.filterMap_filter, List.map_map, List.map_filterMap]
  refine List.filterMap_congr fun deed _ => ?_
  obtain ⟨time, deed⟩ := deed
  cases deed with
  | called task developer options =>
    by_cases same : task = number
    · subst same
      simp [recorded?, listed, silent, Deed.task?, Deed.query?]
    · cases found : s.directory.entries[task]? with
      | none => simp [recorded?, found, Deed.task?, same]
      | some other =>
        have apart : other.provider.copy.journal ≠ entry.provider.copy.journal :=
          fun shared => same (h.place_eq listed found shared)
        simp [recorded?, found, Deed.task?, same, apart]
  | asked | answered | handed | accepted | refused | spoiled =>
    simp [recorded?, Deed.query?]

/-! ### The queries of a registered provider -/

theorem Tidy.exists_apart (h : Tidy s) {number : Nat} {entry : Entry Registered}
    (listed : s.directory.entries[number]? = some entry) :
    ∃ before after, s.directory.entries.map (Entry.map Registered.toProvider) =
        before ++ entry.map Registered.toProvider :: after ∧ before.length = number ∧
      ∀ other ∈ before ++ after, other.id ≠ entry.id := by
  obtain ⟨inside, rfl⟩ := List.getElem?_eq_some_iff.mp listed
  have apart : s.directory.entries = s.directory.entries.take number ++
      s.directory.entries[number] :: s.directory.entries.drop (number + 1) := by
    rw [List.getElem_cons_drop, List.take_append_drop]
  have ids := h.ids
  rw [apart, (List.perm_middle.map Entry.id).nodup_iff, List.map_cons, List.nodup_cons] at ids
  refine ⟨(s.directory.entries.take number).map (Entry.map Registered.toProvider),
    (s.directory.entries.drop (number + 1)).map (Entry.map Registered.toProvider), ?_, ?_, ?_⟩
  · rw [← List.map_cons, ← List.map_append, ← apart]
  · rw [List.length_map, List.length_take]
    omega
  · intro other member same
    rw [← List.map_append] at member
    obtain ⟨registered, there, rfl⟩ := List.mem_map.mp member
    exact ids.1 (List.mem_map.mpr ⟨registered, there, same⟩)

/-- **Every registered provider is queried one by one.** For a load from the directory of any
session, under any schedule: what is added to the journal of a scripted provider is the accounts that
the load has asked it for.  They are the first accounts of the provider's entry in their order, each
asked with the options of the load and after all earlier ones have brought a result.  In the end the
outcome of the provider tells how far this went. -/
theorem queried_one_by_one (reachable : s.Reachable) {load : Load} (lists : load.Lists s.directory)
    (schedule : List Load.Move) {number : Nat} {entry : Entry Registered}
    (listed : s.directory.entries[number]? = some entry) (scripted : entry.provider.alarm = none) :
    let final := load.after schedule
    let deeds := (final.history number).map Prod.snd
    (s.afterLoad final).roster.callsOf entry.provider.copy =
        s.roster.callsOf entry.provider.copy ++ (Task.asked deeds).map some ∧
      Task.Queries load (entry.map Registered.toProvider) deeds ∧
      (final.phase = .finished →
        (final.discoveryError ≠ none → Task.asked deeds = []) ∧
        (final.discoveryError = none → ∃ outcome,
          (final.report load).outcomeFor? entry.id = some outcome ∧
          outcome.Reached entry.developers (Task.asked deeds) (Task.answers deeds))) := by
  have tidy := tidy_of_reachable reachable
  have sound := Load.State.sound_follow load schedule
  have courses := Load.State.courses_follow load schedule
  refine ⟨?_, ?_, fun finished => ⟨fun failed => ?_, fun fine => ?_⟩⟩
  · have known := tidy.journal_lt entry.provider.copy
      (List.mem_append_right _ (List.mem_map_of_mem (List.mem_of_getElem? listed)))
    rw [← tidy.filterMap_recorded? listed scripted]
    exact callsOf_foldl_recordDeed s.directory.entries known _
  · cases task : (load.after schedule).tasks[number]? with
    | none =>
      rw [courses.absent number task]
      exact .nil
    | some t =>
      -- The task is that of the entry, since the load has discovered the entries of the directory.
      have discovered := sound.listed_of_task task
      have same : (s.directory.entries.map (Entry.map Registered.toProvider))[number]? = some t.entry := by
        rw [← Directory.seen_eq (lists.symm.trans discovered), List.getElem?_map, task]
        rfl
      rw [List.getElem?_map, listed] at same
      rw [show entry.map Registered.toProvider = t.entry from Option.some.inj same]
      exact (courses.task number t task).queries
  · rw [courses.absent number (by rw [(sound.unlisted failed).2]; rfl)]
    rfl
  · have discovered := sound.listed (by rw [finished]; nofun) fine
    obtain ⟨before, after, apart, rfl, others⟩ := tidy.exists_apart listed
    have entries := (Directory.seen_eq (lists.symm.trans discovered)).trans apart
    rw [entries] at discovered
    obtain ⟨ending, told, found⟩ := sound.exists_outcomeFor? finished fine discovered others
    refine ⟨ending.outcome, told, ?_⟩
    exact ((Load.State.course_follow load schedule found).ends rfl).reached

/-- A provider that answers in three milliseconds and knows all accounts but one. -/
def forgetful : Script where
  descriptor := ⟨⟨"p"⟩, "P", .empty⟩
  responses := [(⟨"b", none⟩, .broken (.unavailable "b"))]
  defaultLatency := 3

/-- A session in which it is registered for the account it does not know, and for another one twice. -/
def asking : Session :=
  performAll { epoch := .epoch } [.addProvider "p" forgetful,
    .register "p" none [⟨"a", none⟩, ⟨"b", none⟩, ⟨"a", none⟩]]

def askingMoves : List Load.Move :=
  [.discover, .step 0, .wait 3, .step 0, .step 0, .wait 3, .step 0, .join 0, .finish]

/-- The queries stop at the account that the provider does not know. -/
theorem queried_one_by_one_forgetful :
    let final := (asking.load {}).after askingMoves
    asking.Reachable ∧ final.phase = .finished ∧ final.discoveryError = none ∧
      (asking.afterLoad final).roster.calls? "p" = some [some ⟨"a", none⟩, some ⟨"b", none⟩] ∧
      ∃ outcome, (final.report (asking.load {})).outcomeFor? ⟨"p"⟩ = some outcome ∧
        outcome.Reached [⟨"a", none⟩, ⟨"b", none⟩, ⟨"a", none⟩] [⟨"a", none⟩, ⟨"b", none⟩]
          [(⟨"a", none⟩, .returned (.ok (.success []))),
            (⟨"b", none⟩, .returned (.error (.unavailable "b")))] := by
  have reachable : asking.Reachable := ⟨_, _, rfl⟩
  have listed : asking.directory.entries[0]? =
      some ⟨⟨⟨forgetful, 0⟩, none⟩, [⟨"a", none⟩, ⟨"b", none⟩, ⟨"a", none⟩]⟩ := by decide +kernel
  have lists : (asking.load {}).Lists asking.directory := rfl
  have finished : ((asking.load {}).after askingMoves).phase = .finished := by decide +kernel
  have fine : ((asking.load {}).after askingMoves).discoveryError = none := by decide +kernel
  obtain ⟨calls, _, ended⟩ := queried_one_by_one reachable lists askingMoves listed rfl
  obtain ⟨outcome, told, reached⟩ := (ended finished).2 fine
  have asked : Task.asked ((((asking.load {}).after askingMoves).history 0).map Prod.snd) =
      [⟨"a", none⟩, ⟨"b", none⟩] := by decide +kernel
  have answers : Task.answers ((((asking.load {}).after askingMoves).history 0).map Prod.snd) =
      [(⟨"a", none⟩, .returned (.ok (.success []))),
        (⟨"b", none⟩, .returned (.error (.unavailable "b")))] := by rfl
  rw [asked] at calls reached
  rw [answers] at reached
  exact ⟨reachable, finished, fine, congrArg some calls, outcome, told, reached⟩

end Session

end Environments
