import Environments.Proofs.Provider.Lineage
import Environments.Proofs.Session.Journals

/-!
# Copies of a provider do not disturb each other

A setting on one copy of a scripted provider is seen where this copy is used, and nowhere else.
`AlikeBut` is what two sessions have in common that differ in the script under one handle, and
`AlikeBut.performAll` says that they have it in common after anything that does not use this handle, loads
from the directory included: a registered copy is not the one under the handle any more.

What copies of one provider do have in common is their journal.  `started` are the calls that the queries
and the loads of a session start on such copies, and `Tidy.callsOf_performAll` says that the journal tells
of all of them.  `only_journals_are_shared` joins this to the history of a copy.
-/

namespace Environments

/-- **Two rosters that differ in the script under one handle.** -/
structure Roster.AlikeBut (handle : String) (r r' : Roster) : Prop where
  copy : ∀ other, other ≠ handle → r'.copy? other = r.copy? other
  journal : ∀ other, (r'.copy? other).map Copy.journal = (r.copy? other).map Copy.journal
  journals : r'.journals = r.journals

namespace Roster.AlikeBut

variable {handle : String} {r r' : Roster}

/-- The journals read the same under every handle, the one included under which the scripts differ. -/
theorem calls?_eq (h : AlikeBut handle r r') (other : String) : r'.calls? other = r.calls? other := by
  have read : ∀ r : Roster,
      r.calls? other = ((r.copy? other).map Copy.journal).map fun n => r.journals.getD n [] :=
    fun r => by rw [calls?, Option.map_map]; rfl
  rw [read, read, h.journal, h.journals]

theorem put (h : AlikeBut handle r r') (name : String) (copy copy' : Copy)
    (same : name ≠ handle → copy' = copy) (journal : copy'.journal = copy.journal) :
    AlikeBut handle (r.put name copy) (r'.put name copy') where
  copy other apart := by
    rw [copy?_put, copy?_put]
    split
    · rename_i here
      rw [same (here ▸ apart)]
    · exact h.copy other apart
  journal other := by
    rw [copy?_put, copy?_put]
    split
    · exact congrArg some journal
    · exact h.journal other
  journals := h.journals

theorem add (h : AlikeBut handle r r') (name : String) (script : Script) :
    AlikeBut handle (r.add name script) (r'.add name script) := by
  have alike := h.put name ⟨script, r.journals.length⟩ ⟨script, r'.journals.length⟩
    (fun _ => by rw [h.journals]) (congrArg List.length h.journals)
  exact ⟨alike.copy, alike.journal, congrArg (· ++ [[]]) h.journals⟩

theorem edit (h : AlikeBut handle r r') (name : String) (change : Script → Script) :
    AlikeBut handle ((r.edit? name change).getD r) ((r'.edit? name change).getD r') where
  copy other apart := by
    rw [copy?_edit, copy?_edit]
    split
    · rename_i here
      rw [h.copy name (here ▸ apart)]
    · exact h.copy other apart
  journal other := by
    rw [copy?_edit, copy?_edit]
    split
    · rw [Option.map_map, Option.map_map]
      exact h.journal name
    · exact h.journal other
  journals := by rw [journals_edit, journals_edit, h.journals]

theorem clone (h : AlikeBut handle r r') {name : String} (apart : name ≠ handle) (newName : String) :
    AlikeBut handle ((r.clone? name newName).getD r) ((r'.clone? name newName).getD r') where
  copy other other_apart := by
    rw [copy?_clone, copy?_clone, h.copy name apart, h.copy other other_apart]
  journal other := by
    rw [copy?_clone, copy?_clone, h.copy name apart]
    split
    · rw [Option.map_or, Option.map_or, h.journal other]
    · exact h.journal other
  journals := by rw [journals_clone, journals_clone, h.journals]

theorem record (h : AlikeBut handle r r') (journal : Nat) (developer : Option Developer) :
    AlikeBut handle (r.record journal developer) (r'.record journal developer) :=
  ⟨h.copy, h.journal, congrArg (List.modify · journal (· ++ [developer])) h.journals⟩

theorem recordDeed (h : AlikeBut handle r r') (entries : List (Entry Registered)) (deed : Deed) :
    AlikeBut handle (Session.recordDeed entries r deed) (Session.recordDeed entries r' deed) := by
  unfold Session.recordDeed
  split
  · split
    · split
      · exact h
      · exact h.record _ _
    · exact h
  · exact h

theorem foldl_recordDeed (h : AlikeBut handle r r') (entries : List (Entry Registered))
    (deeds : List Deed) :
    AlikeBut handle (deeds.foldl (Session.recordDeed entries) r)
      (deeds.foldl (Session.recordDeed entries) r') := by
  induction deeds generalizing r r' with
  | nil => exact h
  | cons deed deeds ih => exact ih (h.recordDeed entries deed)

end Roster.AlikeBut

namespace Session

/-- The operation that makes a setting on the copy under a handle. -/
def Operation.change (handle : String) : Script.Setting → Operation
  | .response developer response => .setResponse handle developer response
  | .latencyFor developer latency => .setLatencyFor handle developer latency
  | .defaultResponse response => .setDefaultResponse handle response
  | .defaultLatency latency => .setDefaultLatency handle latency

/-- Whether an operation queries, registers or clones the copy under a handle. -/
def Operation.Uses (handle : String) : Operation → Prop
  | query other .. | register other .. | cloneProvider other _ => other = handle
  | _ => False

/-- **Two sessions that differ in the script under one handle.** -/
structure AlikeBut (handle : String) (s t : Session) : Prop where
  rest : t = { s with roster := t.roster }
  roster : Roster.AlikeBut handle s.roster t.roster

theorem withRoster?_eq (s : Session) (roster : Option Roster) :
    s.withRoster? roster = { s with roster := roster.getD s.roster } := by
  cases roster <;> rfl

namespace AlikeBut

variable {handle : String} {s t : Session}

theorem change (s : Session) (handle : String) (setting : Script.Setting) :
    AlikeBut handle s (s.perform (.change handle setting)) := by
  have made : s.perform (.change handle setting) =
      { s with roster := (s.roster.edit? handle (·.set setting)).getD s.roster } := by
    cases setting <;> exact withRoster?_eq s _
  rw [made]
  refine ⟨rfl, fun other apart => ?_, fun other => ?_, Roster.journals_edit ..⟩
  · exact (Roster.copy?_edit ..).trans (if_neg apart)
  · refine (congrArg (Option.map Copy.journal) (Roster.copy?_edit ..)).trans ?_
    split
    · rename_i same
      rw [Option.map_map, same]
      rfl
    · rfl

theorem load_eq (h : AlikeBut handle s t) (config : Config) : t.load config = s.load config := by
  rw [h.rest]
  rfl

/-- **Whatever does not use the handle** leaves the difference there. -/
theorem perform (h : AlikeBut handle s t) {operation : Operation} (apart : ¬operation.Uses handle) :
    AlikeBut handle (s.perform operation) (t.perform operation) := by
  obtain ⟨rest, roster⟩ := h
  generalize t.roster = r at rest roster
  subst rest
  cases operation with
  | addProvider name script => exact ⟨rfl, roster.add name script⟩
  | setResponse name | setLatencyFor name | setDefaultResponse name | setDefaultLatency name =>
    simp only [Session.perform, withRoster?_eq]
    exact ⟨rfl, roster.edit name _⟩
  | cloneProvider name newName =>
    simp only [Session.perform, withRoster?_eq]
    exact ⟨rfl, roster.clone apart newName⟩
  | query name developer options =>
    simp only [Session.perform, Session.query?, Roster.query?, roster.copy name apart]
    cases s.roster.copy? name with
    | none => exact ⟨rfl, roster⟩
    | some copy => exact ⟨rfl, roster.record _ _⟩
  | register name alarm developers =>
    simp only [Session.perform, roster.copy name apart]
    cases s.roster.copy? name with
    | none => exact ⟨rfl, roster⟩
    | some copy =>
      simp only [withDirectory?]
      split <;> exact ⟨rfl, roster⟩
  | failDirectory | damageDirectory =>
    simp only [Session.perform, withDirectory?]
    split <;> exact ⟨rfl, roster⟩
  | load config schedule =>
    have same : ({ s with roster := r } : Session).load config = s.load config := rfl
    simp only [Session.perform, same]
    split
    · exact ⟨rfl, roster.foldl_recordDeed _ _⟩
    · exact ⟨rfl, roster⟩
  | rejectFrom | deliver =>
    simp only [Session.perform, changeSink]
    split <;> exact ⟨rfl, roster⟩
  | selectTarget | selectFromBatch =>
    simp only [Session.perform]
    split <;> exact ⟨rfl, roster⟩
  | putBack =>
    obtain ⟨_, _, _, _, _, _, _, _, _, taken⟩ := s
    cases taken <;> exact ⟨rfl, roster⟩
  | restoreFlow =>
    obtain ⟨_, _, _, _, _, _, _, _, savedFlow, _⟩ := s
    cases savedFlow <;> exact ⟨rfl, roster⟩
  | setDiscoveryLatency | replaceSink | takeTarget | clearTarget | addStep | runFlow | saveFlow
  | resetFlow => exact ⟨rfl, roster⟩

theorem performAll (h : AlikeBut handle s t) {operations : List Operation}
    (apart : ∀ operation ∈ operations, ¬operation.Uses handle) :
    AlikeBut handle (s.performAll operations) (t.performAll operations) := by
  induction operations generalizing s t with
  | nil => exact h
  | cons operation later ih =>
    rw [List.forall_mem_cons] at apart
    exact ih (h.perform apart.1) apart.2

end AlikeBut

/-! ### All calls that were started -/

variable {s : Session}

/-- The calls that an operation starts on the copies with a journal, in order.  In a load these are the
calls on registered copies, whether they are answered, fail, or are dropped. -/
def startedOn (journal : Nat) (s : Session) : Operation → List (Option Developer)
  | .query handle developer _ =>
    if (s.roster.copy? handle).map Copy.journal = some journal then [developer] else []
  | .load config schedule =>
    let final := (s.load config).after schedule
    if final.phase = .finished then
      (final.deeds.map (·.2)).filterMap (recorded? s.directory.entries journal)
    else []
  | _ => []

/-- The calls that are started in a course of operations. -/
def started (journal : Nat) : Session → List Operation → List (Option Developer)
  | _, [] => []
  | s, operation :: later => s.startedOn journal operation ++ (s.perform operation).started journal later

theorem callsOf_of_le {roster : Roster} {copy : Copy} (new : roster.journals.length ≤ copy.journal) :
    roster.callsOf copy = [] := by
  rw [Roster.callsOf, List.getD_eq_getElem?_getD, List.getElem?_eq_none new]
  rfl

theorem Tidy.callsOf_query (h : Tidy s) {handle : String} {called : Copy}
    (found : s.roster.copy? handle = some called) (copy : Copy) (developer : Option Developer) :
    (s.roster.record called.journal developer).callsOf copy =
      s.roster.callsOf copy ++ if called.journal = copy.journal then [developer] else [] := by
  have inside := h.journal_lt called (List.mem_append_left _ (mem_of_copy? found))
  rcases Nat.lt_or_ge copy.journal s.roster.journals.length with known | new
  · exact callsOf_record known called.journal developer
  · have apart : called.journal ≠ copy.journal := by omega
    have still : (s.roster.record called.journal developer).journals.length ≤ copy.journal := by
      rwa [Roster.record, List.length_modify]
    rw [callsOf_of_le new, callsOf_of_le still, if_neg apart, List.append_nil]

theorem Tidy.callsOf_afterLoad (h : Tidy s) (final : Load.State) (copy : Copy) :
    (s.afterLoad final).roster.callsOf copy = s.roster.callsOf copy ++
      (final.deeds.map (·.2)).filterMap (recorded? s.directory.entries copy.journal) := by
  rcases Nat.lt_or_ge copy.journal s.roster.journals.length with known | new
  · exact callsOf_foldl_recordDeed s.directory.entries known _
  · have still : (s.afterLoad final).roster.journals.length ≤ copy.journal := by
      rwa [Session.afterLoad, (foldl_recordDeed_copies ..).2]
    have none : (final.deeds.map (·.2)).filterMap (recorded? s.directory.entries copy.journal) = [] := by
      refine List.filterMap_eq_nil_iff.mpr fun deed _ => ?_
      cases deed with
      | called task developer options =>
        cases found : s.directory.entries[task]? with
        | none => simp [recorded?, found]
        | some entry =>
          have inside := h.journal_lt entry.provider.copy
            (List.mem_append_right _ (List.mem_map_of_mem (List.mem_of_getElem? found)))
          have apart : entry.provider.copy.journal ≠ copy.journal := by omega
          simp [recorded?, found, apart]
      | asked | answered | handed | accepted | refused | spoiled => rfl
    rw [callsOf_of_le new, callsOf_of_le still, none]
    rfl

/-- **What an operation adds to a journal is the calls that it starts.** -/
theorem Tidy.callsOf_perform (h : Tidy s) (operation : Operation) (copy : Copy) :
    (s.perform operation).roster.callsOf copy =
      s.roster.callsOf copy ++ s.startedOn copy.journal operation := by
  have kept : ∀ {s' : Session}, s'.roster.journals = s.roster.journals →
      s'.roster.callsOf copy = s.roster.callsOf copy ++ [] := fun same => by
    rw [Roster.callsOf, same, List.append_nil]
    rfl
  cases operation with
  | addProvider handle script =>
    refine Eq.trans ?_ (List.append_nil _).symm
    change (s.roster.journals ++ [[]]).getD copy.journal [] = s.roster.journals.getD copy.journal []
    rw [List.getD_eq_getElem?_getD, List.getD_eq_getElem?_getD]
    rcases Nat.lt_or_ge copy.journal s.roster.journals.length with known | new
    · rw [List.getElem?_append_left known]
    · -- The new journal is empty, and so is what is not there.
      rw [List.getElem?_append_right new, List.getElem?_eq_none new]
      cases copy.journal - s.roster.journals.length <;> rfl
  | setResponse handle | setLatencyFor handle | setDefaultResponse handle | setDefaultLatency handle =>
    refine kept ?_
    rw [Session.perform, withRoster?_eq, Roster.journals_edit]
  | cloneProvider handle newHandle =>
    refine kept ?_
    rw [Session.perform, withRoster?_eq, Roster.journals_clone]
  | query handle developer options =>
    simp only [Session.perform, Session.query?, Roster.query?, startedOn]
    cases found : s.roster.copy? handle with
    | none => exact kept rfl
    | some called =>
      simp only [Option.map_some, Option.some.injEq]
      exact h.callsOf_query found copy developer
  | register handle alarm developers =>
    simp only [Session.perform, Session.withDirectory?]
    split
    · split <;> exact kept rfl
    · exact kept rfl
  | failDirectory | damageDirectory =>
    simp only [Session.perform, Session.withDirectory?]
    split <;> exact kept rfl
  | load config schedule =>
    simp only [Session.perform, startedOn]
    split
    · exact h.callsOf_afterLoad _ copy
    · exact kept rfl
  | rejectFrom | deliver =>
    simp only [Session.perform, changeSink]
    split <;> exact kept rfl
  | selectTarget | selectFromBatch =>
    simp only [Session.perform]
    split <;> exact kept rfl
  | putBack =>
    simp only [Session.perform, putBack?]
    cases s.taken <;> exact kept rfl
  | restoreFlow =>
    simp only [Session.perform, restoreFlow?]
    cases s.savedFlow <;> exact kept rfl
  | setDiscoveryLatency | replaceSink | takeTarget | clearTarget | addStep | runFlow | saveFlow
  | resetFlow => exact kept rfl

/-- **A journal tells of all calls that were started**, in order. -/
theorem Tidy.callsOf_performAll (h : Tidy s) (operations : List Operation) (copy : Copy) :
    (s.performAll operations).roster.callsOf copy =
      s.roster.callsOf copy ++ s.started copy.journal operations := by
  induction operations generalizing s with
  | nil => exact (List.append_nil _).symm
  | cons operation later ih =>
    rw [started, ← List.append_assoc, ← h.callsOf_perform operation copy]
    exact ih (h.perform operation)

/-- **A load asks the copy that was registered**, as it was then: it answers like the copy under the handle
at that moment, for all accounts for which it does not break down. -/
theorem Tidy.exists_registered (h : Tidy s) (sane : s.directory.damaged = false)
    (fine : s.directory.failure = none) {handle : String} {copy : Copy}
    (found : s.roster.copy? handle = some copy) (alarm : Option Alarm) (developers : List Developer)
    (config : Config) :
    ∃ entries entry,
      ((s.perform (.register handle alarm developers)).load config).discovered = .ok entries ∧
      entry ∈ entries ∧ entry.developers = developers ∧
      ∀ place developer options, (∀ a, alarm = some a → developer ∉ a.developers) →
        (s.roster.query? handle (some developer) options).map Prod.fst =
          some (entry.provider.query place developer options) := by
  let e : Entry Registered := ⟨⟨copy, alarm⟩, developers⟩
  have made : s.perform (.register handle alarm developers) =
      { s with directory := { s.directory with entries := e.putInto s.directory.entries } } := by
    simp [Session.perform, found, Directory.register, Directory.unlessDamaged, sane,
      Session.withDirectory?, e]
  refine ⟨(e.putInto s.directory.entries).map (Entry.map Registered.toProvider),
    e.map Registered.toProvider, ?_, ?_, rfl, fun place developer options spared => ?_⟩
  · have listed : Directory.providers { s.directory with entries := e.putInto s.directory.entries } =
        .ok (e.putInto s.directory.entries) := by
      simp only [Directory.providers, Directory.unlessDamaged, sane, fine, Bool.false_eq_true, if_false]
    rw [made]
    exact congrArg (Except.map (List.map (Entry.map Registered.toProvider))) listed
  · exact List.mem_map_of_mem ((Entry.enters_putInto e h.ids).mem_iff.mpr (Or.inl rfl))
  · have quiet : e.provider.alarmFor? developer = none := by
      rw [Registered.alarmFor?]
      cases alarm with
      | none => rfl
      | some a => exact if_neg (spared a rfl)
    have answer : (e.map Registered.toProvider).provider.query place developer options =
        copy.script.reply (some developer) options := by
      change e.provider.reply developer options = _
      rw [Registered.reply, quiet]
    rw [Roster.query?, found, answer]
    rfl

/-- **Copies of a scripted provider share their journal and nothing else.** After any course of
operations, a call on a copy is answered by what was last set on this copy, or on its origin before it was
cloned; and the journal of a copy tells of all calls on the copies that go back to the same provider, in
the order in which they were started.  What is done to one copy changes no answer of another.

In a session, a query takes its time and a load asks the copies as they were registered.  A setting on one
copy changes none of the later loads, nor what the other copies answer, nor any journal, whatever is done
that does not use this copy again.  The journals tell of the calls that were started in all queries and
loads. -/
theorem only_journals_are_shared (operations : List Roster.Operation) :
    let r := Roster.performAll {} operations
    let past := operations.reverse
    (∀ handle developer options, r.query? handle developer options =
      (Roster.lineage? past handle).map fun lineage =>
        (Script.Setting.reply lineage.settings developer options,
          r.perform (.call handle developer options))) ∧
    (∀ handle, r.calls? handle =
      (Roster.lineage? past handle).map fun lineage => Roster.callsOn lineage.origin past) ∧
    (∀ (operation : Roster.Operation) handle, operation.target? ≠ some handle →
      ∀ developer options, ((r.perform operation).query? handle developer options).map Prod.fst =
        (r.query? handle developer options).map Prod.fst) ∧
    (∀ (s : Session) handle developer options, s.query? handle developer options =
      (s.roster.query? handle developer options).map fun (reply, roster) =>
        (reply, { s with roster := roster, now := s.now + reply.after })) ∧
    (∀ s : Session, s.Reachable → s.directory.damaged = false → s.directory.failure = none →
      ∀ handle copy, s.roster.copy? handle = some copy → ∀ alarm developers config, ∃ entries entry,
        ((s.perform (.register handle alarm developers)).load config).discovered = .ok entries ∧
        entry ∈ entries ∧ entry.developers = developers ∧
        ∀ place developer options, (∀ a, alarm = some a → developer ∉ a.developers) →
          (s.roster.query? handle (some developer) options).map Prod.fst =
            some (entry.provider.query place developer options)) ∧
    (∀ (s : Session) handle setting later, (∀ operation ∈ later, ¬operation.Uses handle) →
      let before := s.performAll later
      let after := (s.perform (.change handle setting)).performAll later
      (∀ config, after.load config = before.load config) ∧ after.sink = before.sink ∧
      (∀ other, after.roster.calls? other = before.roster.calls? other) ∧
      ∀ other, other ≠ handle → ∀ developer options,
        (after.roster.query? other developer options).map Prod.fst =
          (before.roster.query? other developer options).map Prod.fst) ∧
    ∀ epoch course handle copy, let s := performAll { epoch := epoch } course
      s.roster.copy? handle = some copy →
      s.roster.calls? handle = some (started copy.journal { epoch := epoch } course) := by
  intro r past
  have follows := Roster.follows_performAll operations
  refine ⟨follows.query?_eq, follows.calls?_eq, fun operation handle other => follows.reply_perform other,
    fun s handle developer options => ?_, fun s reachable sane fine handle copy found => ?_,
    fun s handle setting later apart => ?_, fun epoch course handle copy found => ?_⟩
  · rw [Session.query?]
    cases s.roster.query? handle developer options <;> rfl
  · exact (tidy_of_reachable reachable).exists_registered sane fine found
  · have alike := (AlikeBut.change s handle setting).performAll apart
    refine ⟨alike.load_eq, by rw [alike.rest], alike.roster.calls?_eq, fun other elsewhere => ?_⟩
    intro developer options
    rw [Roster.query?, Roster.query?, alike.roster.copy other elsewhere]
    cases (s.performAll later).roster.copy? other <;> rfl
  · have tidy : Tidy { epoch := epoch } := tidy_of_reachable ⟨epoch, [], rfl⟩
    have calls := tidy.callsOf_performAll course copy
    rw [Roster.calls?, found, Option.map_some, calls]
    rfl

/-- Two copies of one provider.  What is set on the one after the other was cloned is not set there. -/
def pair : List Roster.Operation :=
  [.create "p" ⟨⟨"p"⟩, "P", .empty⟩, .change "p" (.response ⟨"a", none⟩ (.failed "one")),
    .clone "p" "q", .change "p" (.response ⟨"a", none⟩ (.failed "two")),
    .change "q" (.latencyFor ⟨"a", none⟩ 5), .call "q" (some ⟨"a", none⟩) "", .call "p" none "Throw"]

/-- The clone answers as its origin did when it was cloned, after a latency of its own, and both have
one journal.  A load asks the provider that was registered; a setting that is made later changes neither of
two loads, and what is in the journal after the first is what this load has asked. -/
theorem only_journals_are_shared_pair :
    let r := Roster.performAll {} pair
    let first : Operation := .load {} askingMoves
    (r.query? "q" (some ⟨"a", none⟩) "").map Prod.fst =
        some ⟨5, .returned (.ok (.failure "one" none))⟩ ∧
      (r.query? "p" (some ⟨"a", none⟩) "Throw").map Prod.fst =
        some ⟨0, .returned (.error (.invalidArgument "options"))⟩ ∧
      r.calls? "p" = some [some ⟨"a", none⟩, none] ∧ r.calls? "q" = some [some ⟨"a", none⟩, none] ∧
      (∃ entries entry, (asking.load {}).discovered = .ok entries ∧ entry ∈ entries ∧
        entry.provider.query 0 ⟨"b", none⟩ "" = ⟨3, .returned (.error (.unavailable "b"))⟩) ∧
      ((asking.perform (.change "p" (.defaultLatency 50))).performAll [first]).load {} =
        (asking.performAll [first]).load {} ∧
      (asking.performAll [first]).roster.calls? "p" = some [some ⟨"a", none⟩, some ⟨"b", none⟩] := by
  intro r first
  obtain ⟨replies, calls, _, _, registered, apart, journals⟩ := only_journals_are_shared pair
  refine ⟨?_, ?_, (calls "p").trans rfl, (calls "q").trans rfl, ?_, ?_, ?_⟩
  · exact (congrArg (Option.map Prod.fst) (replies "q" (some ⟨"a", none⟩) "")).trans rfl
  · exact (congrArg (Option.map Prod.fst) (replies "p" (some ⟨"a", none⟩) "Throw")).trans rfl
  · let new : Session := performAll { epoch := .epoch } [.addProvider "p" forgetful]
    obtain ⟨entries, entry, listed, member, _, answers⟩ := registered new ⟨_, _, rfl⟩ rfl rfl "p"
      ⟨forgetful, 0⟩ (by decide +kernel) none [⟨"a", none⟩, ⟨"b", none⟩, ⟨"a", none⟩] {}
    exact ⟨entries, entry, listed, member, (Option.some.inj (answers 0 ⟨"b", none⟩ "" nofun)).symm⟩
  · exact (apart asking "p" (.defaultLatency 50) [first] (List.forall_mem_singleton.mpr id)).1 {}
  · let course : List Operation :=
      [.addProvider "p" forgetful, .register "p" none [⟨"a", none⟩, ⟨"b", none⟩, ⟨"a", none⟩], first]
    have told := journals .epoch course "p" ⟨forgetful, 0⟩ (by decide +kernel)
    have asked : started 0 { epoch := .epoch } course = [some ⟨"a", none⟩, some ⟨"b", none⟩] := by
      decide +kernel
    rw [asked] at told
    exact told

end Session

end Environments
