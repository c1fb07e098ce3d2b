import Environments.Proofs.Load.Confluence
import Environments.Proofs.Load.Shift
import Environments.Proofs.Session.Cutoff
import Environments.Proofs.Session.Journals

/-!
# Loads do not depend on earlier loads

A load reads the directory, what the sink refuses and its configuration, and nothing of what earlier
loads have left: `loads_are_independent` compares two loads from any two sessions that have these in
common, be it at two points of one course or of two.  Under one schedule they come to the same end,
as long after the start of each, and where nothing falls on the deadline any two punctual schedules
do.  This is `shifted_follow` and `agree_of_punctual`, one after the other.

What a load leaves behind stands after all that was there: `Extends`.

Two things are to be alike in the sessions besides the entries and the failure of their directories: the
clocks have to leave the same time up to the cut-off, and either both directories are damaged or none
is.  `loads_part_late_or_damaged` has a pair of loads for each.
-/

namespace Environments

namespace Load

/-- The batches that the sink has accepted, in the order in which it has. -/
def State.accepted (s : State) : List Batch :=
  s.deeds.filterMap (·.2.accepted?)

/-- Two loads have come to the same end, each as long after its start as the other: with the same
flags and errors, the same rows in some order, and the same accepted batches in some order, only that
their stamps are shifted as the starts are. -/
structure SameEnd (first second : Load) (s s' : State) : Prop where
  now : s.now = s'.now
  finishedAt : (s.report first).finishedAt = first.clock s.now ∧
    (s'.report second).finishedAt = second.clock s.now
  deadlineElapsed : (s.report first).deadlineElapsed = (s'.report second).deadlineElapsed
  discoveryError : (s.report first).discoveryError = (s'.report second).discoveryError
  rows : (s.report first).providers.Perm (s'.report second).providers
  batches : ∃ batches, s.accepted.Perm batches ∧
    List.Forall₂ (Batch.Shifted first second) batches s'.accepted

variable {first second : Load}

theorem rel_accepted? {deed deed' : Nat × Deed} (h : Deed.ShiftedAt first second deed deed') :
    Option.Rel (Batch.Shifted first second) deed.2.accepted? deed'.2.accepted? := by
  obtain ⟨time, deed⟩ := deed
  obtain ⟨time', deed'⟩ := deed'
  obtain ⟨_, deeds⟩ := h
  cases deeds with
  | accepted batches => exact .some batches
  | asked | called | answered | handed | refused | spoiled => exact .none

/-- Two ends that agree, and a third one that is that of the second at another time of day. -/
theorem State.Agree.sameEnd {s₁ s₂ s' : State} (agree : Agree s₁ s₂)
    (shifted : Shifted first second s₂ s') : first.SameEnd second s₁ s' where
  now := agree.now.trans shifted.now
  finishedAt := ⟨rfl, congrArg second.clock (agree.now.trans shifted.now).symm⟩
  deadlineElapsed := agree.elapsed.trans shifted.elapsed
  discoveryError := agree.discoveryError.trans shifted.discoveryError
  rows := agree.rows.trans (.of_eq shifted.rows)
  batches := ⟨s₂.accepted, agree.deeds.filterMap _,
    List.rel_filterMap (fun _ _ deeds => rel_accepted? deeds) shifted.deeds⟩

theorem State.agree_refl (s : State) : Agree s s :=
  ⟨rfl, rfl, rfl, .refl _, .refl _⟩

end Load

namespace Session

/-! ### What a load leaves as it was -/

/-- What has become of a session with a recording sink in a load that has come to this point: the
directory and the handles are the same, the sink has got the accepted batches after those it had and
refuses the same, and every journal begins with what it was. -/
structure Extends (s : Session) (sink : RecordingSink) (final : Load.State) (s' : Session) : Prop where
  directory : s'.directory = s.directory
  copies : s'.roster.copies = s.roster.copies
  sink : s'.sink = .recording { sink with batches := sink.batches ++ final.accepted }
  journals : ∀ copy, s.roster.callsOf copy <+: s'.roster.callsOf copy

theorem prefix_callsOf (entries : List (Entry Registered)) (deeds : List Deed) (roster : Roster)
    (copy : Copy) :
    roster.callsOf copy <+: (deeds.foldl (recordDeed entries) roster).callsOf copy := by
  by_cases known : copy.journal < roster.journals.length
  · rw [callsOf_foldl_recordDeed entries known]
    exact List.prefix_append _ _
  · rw [Roster.callsOf, List.getD_eq_getElem?_getD, List.getElem?_eq_none (Nat.le_of_not_lt known)]
    exact List.nil_prefix

theorem foldl_receiveDeed (deeds : List Deed) (sink : RecordingSink) :
    deeds.foldl receiveDeed (.recording sink) =
      .recording { sink with batches := sink.batches ++ deeds.filterMap Deed.accepted? } := by
  induction deeds generalizing sink with
  | nil => simp
  | cons deed deeds ih =>
    rw [List.foldl_cons]
    cases deed with
    | accepted task batch =>
      rw [receiveDeed, Sink.receive, ih, List.append_assoc]
      rfl
    | asked | called | answered | handed | refused | spoiled => exact ih sink

theorem extends_afterLoad {s : Session} {sink : RecordingSink} (recording : s.sink = .recording sink)
    (final : Load.State) : s.Extends sink final (s.afterLoad final) where
  directory := rfl
  copies := (foldl_recordDeed_copies _ _ _).1
  sink := by
    rw [afterLoad, recording, foldl_receiveDeed, List.filterMap_map]
    rfl
  journals := prefix_callsOf _ _ _

/-! ### Two loads -/

section

variable {s₁ s₂ : Session} {sink₁ sink₂ : RecordingSink} {config : Config}

/-- Loads from sessions whose directories list the same, whose sinks refuse the same, and whose
clocks leave the same time up to the cut-off, differ in nothing but their start. -/
theorem twins_of_alike (recording₁ : s₁.sink = .recording sink₁)
    (recording₂ : s₂.sink = .recording sink₂)
    (refused : ∀ provider, provider ∈ sink₁.refused ↔ provider ∈ sink₂.refused)
    (lists : (s₂.load config).Lists s₁.directory)
    (discoveryLatency : s₁.discoveryLatency = s₂.discoveryLatency)
    (cutoff : config.cutoff s₁.now = config.cutoff s₂.now) :
    (s₁.load config).Twins (s₂.load config) where
  config := rfl
  cutoff := cutoff
  discoveryLatency := discoveryLatency
  discovered := lists.symm
  taskId := rfl
  sink := by
    intro number batch batch' shifted
    simp only [load, recording₁, recording₂, Sink.reply, RecordingSink.answer, shifted.provider, refused]

/-- **Loads do not depend on earlier loads.** Take two sessions with recording sinks that refuse the
same providers, and with directories that list the same providers after the same time or fail alike.
Take one configuration for both, such that the clocks leave the same time up to the cut-off, as any
clock does that can show the deadline.  The loads that start there have the same punctual schedules,
come to the same end under every schedule, and if nothing falls on the deadline they come to the same
end under any two punctual schedules.

A load leaves the directory as it is, and adds to the sink and to the journals what stands after all
that was there. -/
theorem loads_are_independent (recording₁ : s₁.sink = .recording sink₁)
    (recording₂ : s₂.sink = .recording sink₂)
    (refused : ∀ provider, provider ∈ sink₁.refused ↔ provider ∈ sink₂.refused)
    (lists : (s₂.load config).Lists s₁.directory)
    (discoveryLatency : s₁.discoveryLatency = s₂.discoveryLatency)
    (cutoff : config.cutoff s₁.now = config.cutoff s₂.now) :
    let first := s₁.load config
    let second := s₂.load config
    (∀ schedule, (first.Punctual schedule ↔ second.Punctual schedule) ∧
      ((first.after schedule).phase = .finished ↔ (second.after schedule).phase = .finished) ∧
      first.SameEnd second (first.after schedule) (second.after schedule)) ∧
    (first.OffDeadline → ∀ schedule₁ schedule₂, first.Punctual schedule₁ → second.Punctual schedule₂ →
      (first.after schedule₁).phase = .finished → (second.after schedule₂).phase = .finished →
      first.SameEnd second (first.after schedule₁) (second.after schedule₂)) ∧
    ∀ schedule,
      s₁.Extends sink₁ (first.after schedule) (s₁.afterLoad (first.after schedule)) ∧
      s₂.Extends sink₂ (second.after schedule) (s₂.afterLoad (second.after schedule)) := by
  intro first second
  have twins : first.Twins second :=
    twins_of_alike recording₁ recording₂ refused lists discoveryLatency cutoff
  have shifted := Load.State.shifted_follow twins
  refine ⟨fun schedule => ⟨Load.State.punctual_iff twins schedule, ?_, ?_⟩, ?_, fun schedule => ?_⟩
  · rw [(shifted schedule).phase]
  · exact (Load.State.agree_refl _).sameEnd (shifted schedule)
  · intro off schedule₁ schedule₂ punctual₁ punctual₂ finished₁ finished₂
    have at_once : ∀ number batch, (first.sink number batch).after = 0 := by
      intro number batch
      simp only [first, load, recording₁, Sink.reply]
    -- The second schedule is one of the first load as well, where it leads to what the first does.
    have punctual : first.Punctual schedule₂ := (Load.State.punctual_iff twins schedule₂).mpr punctual₂
    have finished : (first.after schedule₂).phase = .finished := by
      rw [(shifted schedule₂).phase]
      exact finished₂
    have agree := Load.State.agree_of_punctual punctual₁ punctual finished₁ finished off at_once
    exact agree.sameEnd (shifted schedule₂)
  · exact ⟨extends_afterLoad recording₁ _, extends_afterLoad recording₂ _⟩

end

/-- A provider that answers in three milliseconds. -/
def diligent : Script := { descriptor := ⟨⟨"p"⟩, "P", .empty⟩, defaultLatency := 3 }

/-- A session in which it is registered for two accounts. -/
def fresh : Session :=
  performAll { epoch := .epoch } [.addProvider "p" diligent, .register "p" none [⟨"a", none⟩, ⟨"b", none⟩]]

/-- A schedule of a load from this session that cuts the provider off in its second query. -/
def hastyMoves : List Load.Move :=
  [.discover, .step 0, .wait 3, .step 0, .step 0, .wait 1, .expire, .step 0, .join 0, .finish]

/-- The session after a load that was cut off. -/
def worn : Session :=
  fresh.perform (.load { deadline := 4 } hastyMoves)

/-- A schedule of a load from either session that lets the provider deliver. -/
def diligentMoves : List Load.Move :=
  [.discover, .step 0, .wait 3, .step 0, .step 0, .wait 3, .step 0, .step 0, .join 0, .finish]

/-- The batch that a load delivers is delivered as well after one that was cut off, only four
milliseconds later. -/
theorem loads_are_independent_fresh_worn :
    let first := fresh.load {}
    let second := worn.load {}
    worn.now = 4 ∧ worn.roster.calls? "p" = some [some ⟨"a", none⟩, some ⟨"b", none⟩] ∧
      first.OffDeadline ∧ first.Punctual diligentMoves ∧ second.Punctual diligentMoves ∧
      (first.after diligentMoves).phase = .finished ∧ (second.after diligentMoves).phase = .finished ∧
      first.SameEnd second (first.after diligentMoves) (second.after diligentMoves) ∧
      worn.Extends {} (second.after diligentMoves) (worn.afterLoad (second.after diligentMoves)) ∧
      (second.after diligentMoves).accepted.map (·.loadedAt.nano) = [10000000] := by
  have off : (fresh.load {}).OffDeadline := by decide +kernel
  have punctual₁ : (fresh.load {}).Punctual diligentMoves := by decide +kernel
  have finished₁ : ((fresh.load {}).after diligentMoves).phase = .finished := by decide +kernel
  have recording₁ : fresh.sink = .recording {} := rfl
  have recording₂ : worn.sink = .recording {} := rfl
  have lists : (worn.load {}).Lists fresh.directory := rfl
  obtain ⟨same, apart, adds⟩ :=
    loads_are_independent recording₁ recording₂ (fun _ => Iff.rfl) lists rfl rfl
  have punctual₂ := (same diligentMoves).1.mp punctual₁
  have finished₂ := (same diligentMoves).2.1.mp finished₁
  exact ⟨by decide +kernel, by decide +kernel, off, punctual₁, punctual₂, finished₁, finished₂,
    apart off _ _ punctual₁ punctual₂ finished₁ finished₂, (adds diligentMoves).2, by decide +kernel⟩

/-- Two sessions with recording sinks have the same entries and the same failure in their directories,
and their sinks refuse the same. -/
structure Resembles (s₁ s₂ : Session) : Prop where
  entries : s₁.directory.entries = s₂.directory.entries
  failure : s₁.directory.failure = s₂.directory.failure
  discoveryLatency : s₁.discoveryLatency = s₂.discoveryLatency
  sinks : ∃ sink₁ sink₂, s₁.sink = .recording sink₁ ∧ s₂.sink = .recording sink₂ ∧
    sink₁.refused = sink₂.refused

/-- Loads from two sessions that resemble each other, with one configuration and with nothing on the
deadline, come to different ends under these punctual schedules. -/
structure Diverge (s₁ s₂ : Session) (config : Config) (schedule₁ schedule₂ : List Load.Move) : Prop where
  resemble : s₁.Resembles s₂
  off : (s₁.load config).OffDeadline ∧ (s₂.load config).OffDeadline
  punctual : (s₁.load config).Punctual schedule₁ ∧ (s₂.load config).Punctual schedule₂
  finished : ((s₁.load config).after schedule₁).phase = .finished ∧
    ((s₂.load config).after schedule₂).phase = .finished
  differ : ¬ (s₁.load config).SameEnd (s₂.load config)
    ((s₁.load config).after schedule₁) ((s₂.load config).after schedule₂)

/-- The longest deadline that a clock can show when a session starts. -/
def utmost : Config := { deadline := 9223372036854775807999 }

/-- A session with a provider that answers in thirty-one years. -/
def distant : Session :=
  performAll { epoch := .epoch }
    [.addProvider "p" { diligent with defaultLatency := 977616000000 },
      .register "p" none [⟨"a", none⟩]]

/-- A schedule of a load from this session that lets the provider deliver. -/
def patientMoves : List Load.Move :=
  [.discover, .step 0, .wait 977616000000, .step 0, .step 0, .join 0, .finish]

/-- The session after this load. -/
def aged : Session :=
  distant.perform (.load utmost patientMoves)

/-- A schedule of a load that is cut off at the horizon. -/
def horizonMoves : List Load.Move :=
  [.discover, .step 0, .wait Time.horizon, .expire, .step 0, .join 0, .finish]

/-- The session after a load that has delivered, and a registration that has broken down. -/
def wrecked : Session :=
  fresh.performAll [.load {} diligentMoves, .damageDirectory]

/-- **Entries, failure, refusals and configuration alone do not settle a load.** A deadline that the
clock can show at the start of one load may lie too far ahead at the start of the next, which is then cut
off at the horizon.  And a registration that breaks down changes neither the entries nor the failure of
the directory, but leaves it damaged, so that it lists nothing any more. -/
theorem loads_part_late_or_damaged :
    (distant.Diverge aged utmost patientMoves horizonMoves ∧
      ((distant.load utmost).after patientMoves).rows = [⟨diligent.descriptor, .delivered 1⟩] ∧
      ((aged.load utmost).after horizonMoves).rows = [⟨diligent.descriptor, .cancelled 0⟩]) ∧
    fresh.Diverge wrecked {} diligentMoves [.discover] ∧
      ((fresh.load {}).after diligentMoves).rows = [⟨diligent.descriptor, .delivered 2⟩] ∧
      ((wrecked.load {}).after [.discover]).rows = [] ∧
      ((wrecked.load {}).after [.discover]).discoveryError =
        some "provider discovery failed: poisoned lock: another task failed inside" := by
  have late : distant.Diverge aged utmost patientMoves horizonMoves := {
    resemble := ⟨by decide +kernel, by decide +kernel, rfl, _, _, rfl, rfl, rfl⟩
    off := by decide +kernel
    punctual := by decide +kernel
    finished := by decide +kernel
    differ := fun same => absurd same.rows (by decide +kernel) }
  have damaged : fresh.Diverge wrecked {} diligentMoves [.discover] := {
    resemble := ⟨by decide +kernel, by decide +kernel, rfl, _, _, rfl, rfl, rfl⟩
    off := by decide +kernel
    punctual := by decide +kernel
    finished := by decide +kernel
    differ := fun same => absurd same.rows (by decide +kernel) }
  exact ⟨⟨late, by decide +kernel, by decide +kernel⟩, damaged, by decide +kernel, by decide +kernel,
    by decide +kernel⟩

end Session

end Environments
