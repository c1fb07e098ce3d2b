import Environments.Provider.Roster
import Mathlib.Data.List.Basic
import Mathlib.Data.List.Induction

/-!
# Copies of scripted providers and their history

What a copy answers is told by the settings that were made on it, and before these by the settings that
its origin had when it was cloned.  `lineage?` reads them off the history of all copies, the latest first,
and `Script.Setting.reply` says how a call is answered by them.  `callsOn` are the calls on all copies
that go back to one new provider.

`Follows` says that the copies and the journals are those of a history, and `follows_performAll` that they
are so after all operations.  So the scripts of two copies have nothing in common but what was set before
the one was cloned from the other, and their journals have everything in common.
-/

namespace Environments

namespace Script

inductive Setting
  | response (developer : Developer) (response : Response)
  | latencyFor (developer : Developer) (latency : Nat)
  | defaultResponse (response : Response)
  | defaultLatency (latency : Nat)

def set (s : Script) : Setting → Script
  | .response developer response => s.setResponse developer response
  | .latencyFor developer latency => s.setLatencyFor developer latency
  | .defaultResponse response => s.setDefaultResponse response
  | .defaultLatency latency => s.setDefaultLatency latency

namespace Setting

/-- The response that is set for an account, known by its login and its URL. -/
def responseFor? (developer : Developer) : Setting → Option Response
  | .response other given =>
    if other.login = developer.login ∧ other.url = developer.url then some given else none
  | _ => none

def latencyFor? (developer : Developer) : Setting → Option Nat
  | .latencyFor other latency =>
    if other.login = developer.login ∧ other.url = developer.url then some latency else none
  | _ => none

def defaultResponse? : Setting → Option Response
  | .defaultResponse given => some given
  | _ => none

def defaultLatency? : Setting → Option Nat
  | .defaultLatency latency => some latency
  | _ => none

/-- **How a call is answered by settings, of which the latest is the first.**  The latency is the one last
set for the account, or else the one last set for all others; so is the response, and the one does not
depend on the other. -/
def reply (settings : List Setting) (developer : Option Developer) (options : String) :
    Reply (Except QueryError QueryResult) :=
  let latency := (developer.bind fun d => settings.findSome? (latencyFor? d)).getD
    ((settings.findSome? defaultLatency?).getD 0)
  let response := (developer.bind fun d => settings.findSome? (responseFor? d)).getD
    ((settings.findSome? defaultResponse?).getD (.listed []))
  ⟨latency, .returned
    (if options = "Throw" then .error (.invalidArgument "options") else response.outcome)⟩

end Setting

/-- A script of a descriptor after settings, of which the latest is the first. -/
def ofSettings (descriptor : Descriptor) (settings : List Setting) : Script :=
  settings.foldr (fun setting s => s.set setting) { descriptor }

theorem lookup_cons_developer {α : Type} (developer other : Developer) (a : α)
    (rest : List (Developer × α)) : ((other, a) :: rest).lookup developer =
      (if other.login = developer.login ∧ other.url = developer.url then some a else none).or
        (rest.lookup developer) := by
  by_cases same : other = developer
  · subst same
    rw [List.lookup_cons_self, if_pos ⟨rfl, rfl⟩, Option.some_or]
  · have apart : ¬(other.login = developer.login ∧ other.url = developer.url) := by
      intro both
      obtain ⟨login, url⟩ := other
      obtain ⟨rfl, rfl⟩ := both
      exact same rfl
    rw [List.lookup_cons, beq_eq_false_iff_ne.mpr (Ne.symm same), if_neg apart, Option.none_or]

section

variable (descriptor : Descriptor) (settings : List Setting)

/-- **What is read from a script** is what the latest setting tells that tells anything of it. -/
theorem read_ofSettings {α : Type} (read : Script → Option α) (told : Setting → Option α)
    (step : ∀ s setting, read (set s setting) = (told setting).or (read s)) :
    read (ofSettings descriptor settings) = (settings.findSome? told).or (read { descriptor }) := by
  induction settings with
  | nil => rfl
  | cons setting earlier ih =>
    change read (set (ofSettings descriptor earlier) setting) = _
    rw [step, ih, List.findSome?_cons]
    cases told setting <;> rfl

theorem lookup_responses (developer : Developer) :
    (ofSettings descriptor settings).responses.lookup developer =
      settings.findSome? (Setting.responseFor? developer) := by
  refine (read_ofSettings descriptor settings (·.responses.lookup developer)
    (Setting.responseFor? developer) fun s setting => ?_).trans Option.or_none
  cases setting with
  | response other given => exact lookup_cons_developer developer other given s.responses
  | latencyFor | defaultResponse | defaultLatency => rfl

theorem lookup_latencies (developer : Developer) :
    (ofSettings descriptor settings).latencies.lookup developer =
      settings.findSome? (Setting.latencyFor? developer) := by
  refine (read_ofSettings descriptor settings (·.latencies.lookup developer)
    (Setting.latencyFor? developer) fun s setting => ?_).trans Option.or_none
  cases setting with
  | latencyFor other given => exact lookup_cons_developer developer other given s.latencies
  | response | defaultResponse | defaultLatency => rfl

theorem defaultResponse_ofSettings : (ofSettings descriptor settings).defaultResponse =
    (settings.findSome? Setting.defaultResponse?).getD (.listed []) := by
  refine Option.some.inj ((read_ofSettings descriptor settings (fun s => some s.defaultResponse)
    Setting.defaultResponse? fun s setting => ?_).trans Option.or_some)
  cases setting <;> rfl

theorem defaultLatency_ofSettings : (ofSettings descriptor settings).defaultLatency =
    (settings.findSome? Setting.defaultLatency?).getD 0 := by
  refine Option.some.inj ((read_ofSettings descriptor settings (fun s => some s.defaultLatency)
    Setting.defaultLatency? fun s setting => ?_).trans Option.or_some)
  cases setting <;> rfl

/-- **A script answers by the settings that it comes from.** -/
theorem reply_ofSettings (developer : Option Developer) (options : String) :
    (ofSettings descriptor settings).reply developer options =
      Setting.reply settings developer options := by
  simp only [reply, latency, response, Setting.reply, lookup_responses, lookup_latencies,
    defaultResponse_ofSettings, defaultLatency_ofSettings, failingOptions]

end

end Script

namespace Roster

/-- Something that is done with scripted providers and their copies. -/
inductive Operation
  /-- A new provider under a handle, with nothing set. -/
  | create (handle : String) (descriptor : Descriptor)
  | change (handle : String) (setting : Script.Setting)
  | clone (handle newHandle : String)
  /-- A call is started, whether or not its answer is waited for. -/
  | call (handle : String) (developer : Option Developer) (options : String)

/-- Does something with the copies. What is refused changes nothing. -/
def perform (r : Roster) : Operation → Roster
  | .create handle descriptor => r.add handle { descriptor }
  | .change handle setting => (r.edit? handle (·.set setting)).getD r
  | .clone handle newHandle => (r.clone? handle newHandle).getD r
  | .call handle developer options => ((r.query? handle developer options).map (·.2)).getD r

def performAll (r : Roster) (operations : List Operation) : Roster :=
  operations.foldl perform r

/-- The handle whose copy an operation makes or changes. -/
def Operation.target? : Operation → Option String
  | create handle _ => some handle
  | change handle _ => some handle
  | clone _ newHandle => some newHandle
  | call .. => none

/-! ### The history of a copy -/

/-- What a copy has from its history. -/
structure Lineage where
  descriptor : Descriptor
  /-- The settings made on the copy, and before these the ones that its origin had when it was cloned. The
  latest is the first. -/
  settings : List Script.Setting
  /-- The number of the new provider that it goes back to. -/
  origin : Nat

/-- The copy that has this lineage. -/
def Lineage.copy (lineage : Lineage) : Copy :=
  ⟨.ofSettings lineage.descriptor lineage.settings, lineage.origin⟩

/-- How many new providers there were. -/
def creations : List Operation → Nat
  | [] => 0
  | .create .. :: earlier => creations earlier + 1
  | _ :: earlier => creations earlier

/-- **The lineage of the copy under a handle**, by what was done, the latest first. -/
def lineage? : List Operation → String → Option Lineage
  | [], _ => none
  | .create name descriptor :: earlier, handle =>
    if handle = name then some ⟨descriptor, [], creations earlier⟩ else lineage? earlier handle
  | .change name setting :: earlier, handle =>
    if handle = name then (lineage? earlier handle).map fun l => { l with settings := setting :: l.settings }
    else lineage? earlier handle
  | .clone name newName :: earlier, handle =>
    if handle = newName then (lineage? earlier name).or (lineage? earlier handle)
    else lineage? earlier handle
  | .call .. :: earlier, handle => lineage? earlier handle

/-- **The calls on the copies that go back to one new provider**, in the order in which they were started,
by what was done, the latest first. -/
def callsOn (origin : Nat) : List Operation → List (Option Developer)
  | [] => []
  | .call handle developer _ :: earlier =>
    if (lineage? earlier handle).map Lineage.origin = some origin then callsOn origin earlier ++ [developer]
    else callsOn origin earlier
  | _ :: earlier => callsOn origin earlier

theorem origin_lt {past : List Operation} {handle : String} {lineage : Lineage}
    (h : lineage? past handle = some lineage) : lineage.origin < creations past := by
  induction past generalizing handle lineage with
  | nil => cases h
  | cons operation earlier ih =>
    cases operation with
    | create name descriptor =>
      rw [lineage?] at h
      split at h
      · obtain rfl := Option.some.inj h
        exact Nat.lt_succ_self _
      · exact Nat.lt_succ_of_lt (ih h)
    | change name setting =>
      rw [lineage?] at h
      split at h
      · obtain ⟨before, found, rfl⟩ := Option.map_eq_some_iff.mp h
        exact (ih found : before.origin < creations earlier)
      · exact ih h
    | clone name newName =>
      rw [lineage?] at h
      split at h
      · rcases Option.or_eq_some_iff.mp h with found | ⟨_, found⟩
        · exact ih found
        · exact ih found
      · exact ih h
    | call name developer options => exact ih h

theorem callsOn_of_le {past : List Operation} {origin : Nat} (new : creations past ≤ origin) :
    callsOn origin past = [] := by
  induction past with
  | nil => rfl
  | cons operation earlier ih =>
    cases operation with
    | create name descriptor => exact ih (Nat.le_of_succ_le new)
    | change | clone => exact ih new
    | call handle developer options =>
      rw [callsOn, if_neg, ih new]
      intro old
      obtain ⟨lineage, found, rfl⟩ := Option.map_eq_some_iff.mp old
      exact Nat.not_le_of_lt (origin_lt found) new

/-- Only what makes or changes the copy under a handle has a part in its lineage. -/
theorem lineage?_of_target {operation : Operation} {past : List Operation} {handle : String}
    (other : operation.target? ≠ some handle) :
    lineage? (operation :: past) handle = lineage? past handle := by
  cases operation with
  | create name | change name | clone _ name =>
    have apart : handle ≠ name := fun same => other (congrArg some same.symm)
    rw [lineage?, if_neg apart]
  | call => rfl

/-! ### The copies and the journals -/

theorem copy?_put (r : Roster) (handle other : String) (copy : Copy) :
    (r.put handle copy).copy? other = if other = handle then some copy else r.copy? other := by
  rw [put, copy?, List.lookup_cons]
  by_cases same : other = handle
  · rw [if_pos same, beq_iff_eq.mpr same]
  · rw [if_neg same, beq_eq_false_iff_ne.mpr same]
    rfl

theorem copy?_edit (r : Roster) (handle other : String) (change : Script → Script) :
    ((r.edit? handle change).getD r).copy? other =
      if other = handle then (r.copy? handle).map fun copy => { copy with script := change copy.script }
      else r.copy? other := by
  rw [edit?]
  cases found : r.copy? handle with
  | none =>
    refine (?_ : r.copy? other = if other = handle then none else r.copy? other)
    split
    · rwa [‹other = handle›]
    · rfl
  | some copy => exact copy?_put r handle other _

theorem copy?_clone (r : Roster) (handle newHandle other : String) :
    ((r.clone? handle newHandle).getD r).copy? other =
      if other = newHandle then (r.copy? handle).or (r.copy? other) else r.copy? other := by
  rw [clone?]
  cases r.copy? handle with
  | none => exact (ite_self _).symm
  | some copy => exact copy?_put r newHandle other copy

theorem journals_edit (r : Roster) (handle : String) (change : Script → Script) :
    ((r.edit? handle change).getD r).journals = r.journals := by
  rw [edit?]
  cases r.copy? handle <;> rfl

theorem journals_clone (r : Roster) (handle newHandle : String) :
    ((r.clone? handle newHandle).getD r).journals = r.journals := by
  rw [clone?]
  cases r.copy? handle <;> rfl

/-- **The copies and the journals are those of a history**, the latest first. -/
structure Follows (past : List Operation) (r : Roster) : Prop where
  copy : ∀ handle, r.copy? handle = (lineage? past handle).map Lineage.copy
  journals : r.journals = (List.range (creations past)).map fun origin => callsOn origin past

variable {past : List Operation} {r : Roster}

theorem Follows.length (h : Follows past r) : r.journals.length = creations past := by
  rw [h.journals, List.length_map, List.length_range]

theorem Follows.create (h : Follows past r) (handle : String) (descriptor : Descriptor) :
    Follows (.create handle descriptor :: past) (r.perform (.create handle descriptor)) where
  copy other := by
    refine (copy?_put r handle other _).trans ?_
    rw [lineage?, h.length]
    split
    · rfl
    · exact h.copy other
  journals := by
    change r.journals ++ [[]] = _
    rw [h.journals, creations, List.range_succ, List.map_append, List.map_singleton]
    exact congrArg (_ ++ [·]) (callsOn_of_le (Nat.le_refl _)).symm

theorem Follows.change (h : Follows past r) (handle : String) (setting : Script.Setting) :
    Follows (.change handle setting :: past) (r.perform (.change handle setting)) where
  copy other := by
    refine (copy?_edit r handle other _).trans ?_
    rw [lineage?]
    split
    · rename_i same
      rw [h.copy handle, same, Option.map_map, Option.map_map]
      rfl
    · exact h.copy other
  journals := (journals_edit r handle _).trans h.journals

theorem Follows.clone (h : Follows past r) (handle newHandle : String) :
    Follows (.clone handle newHandle :: past) (r.perform (.clone handle newHandle)) where
  copy other := by
    refine (copy?_clone r handle newHandle other).trans ?_
    rw [lineage?]
    split
    · rw [h.copy handle, h.copy other, Option.map_or]
    · exact h.copy other
  journals := (journals_clone r handle newHandle).trans h.journals

theorem Follows.call (h : Follows past r) (handle : String) (developer : Option Developer)
    (options : String) : Follows (.call handle developer options :: past)
      (r.perform (.call handle developer options)) := by
  have found := h.copy handle
  cases lineage : lineage? past handle with
  | none =>
    rw [lineage, Option.map_none] at found
    have unchanged : r.perform (.call handle developer options) = r := by
      simp [perform, query?, found]
    rw [unchanged]
    refine ⟨h.copy, h.journals.trans (List.map_congr_left fun origin _ => ?_)⟩
    rw [callsOn, lineage, Option.map_none, if_neg nofun]
  | some l =>
    rw [lineage, Option.map_some] at found
    have recorded : r.perform (.call handle developer options) = r.record l.origin developer := by
      simp [perform, query?, found, Lineage.copy]
    rw [recorded]
    refine ⟨h.copy, ?_⟩
    change r.journals.modify l.origin (· ++ [developer]) = _
    refine List.ext_getElem? fun origin => ?_
    have count : creations (.call handle developer options :: past) = creations past := rfl
    rw [List.getElem?_modify, h.journals, List.getElem?_map, List.getElem?_map, count]
    cases place : (List.range (creations past))[origin]? with
    | none => rfl
    | some number =>
      obtain rfl : origin = number := by
        obtain ⟨inside, same⟩ := List.getElem?_eq_some_iff.mp place
        rwa [List.getElem_range] at same
      simp only [Option.map_eq_map, Option.map_some, callsOn, lineage, Option.some.injEq]

theorem Follows.perform (h : Follows past r) (operation : Operation) :
    Follows (operation :: past) (r.perform operation) := by
  cases operation with
  | create handle descriptor => exact h.create handle descriptor
  | change handle setting => exact h.change handle setting
  | clone handle newHandle => exact h.clone handle newHandle
  | call handle developer options => exact h.call handle developer options

theorem follows_performAll (operations : List Operation) :
    Follows operations.reverse (performAll {} operations) := by
  induction operations using List.reverseRecOn with
  | nil => exact ⟨fun _ => rfl, rfl⟩
  | append_singleton operations operation ih =>
    rw [List.reverse_concat, performAll, List.foldl_concat]
    exact ih.perform operation

theorem Follows.query?_eq (h : Follows past r) (handle : String) (developer : Option Developer)
    (options : String) : r.query? handle developer options = (lineage? past handle).map fun lineage =>
      (Script.Setting.reply lineage.settings developer options,
        r.perform (.call handle developer options)) := by
  have found := h.copy handle
  cases lineage : lineage? past handle with
  | none =>
    rw [lineage, Option.map_none] at found
    rw [query?, found]
    rfl
  | some l =>
    rw [lineage, Option.map_some] at found
    rw [Roster.perform, query?, found, Option.map_some, ← Script.reply_ofSettings l.descriptor]
    rfl

/-- **What is done to one copy changes no answer of another.** -/
theorem Follows.reply_perform (h : Follows past r) {operation : Operation} {handle : String}
    (other : operation.target? ≠ some handle) (developer : Option Developer) (options : String) :
    ((r.perform operation).query? handle developer options).map Prod.fst =
      (r.query? handle developer options).map Prod.fst := by
  rw [(h.perform operation).query?_eq, h.query?_eq, lineage?_of_target other, Option.map_map,
    Option.map_map]
  rfl

/-- **The journal of a copy tells of the calls on all copies that go back to the same provider.** -/
theorem Follows.calls?_eq (h : Follows past r) (handle : String) :
    r.calls? handle = (lineage? past handle).map fun lineage => callsOn lineage.origin past := by
  rw [calls?, h.copy, Option.map_map]
  refine Option.map_congr fun l member => ?_
  have inside := origin_lt member
  change r.journals.getD l.origin [] = _
  rw [h.journals, List.getD_eq_getElem?_getD, List.getElem?_map, List.getElem?_range inside]
  rfl

end Roster

end Environments
