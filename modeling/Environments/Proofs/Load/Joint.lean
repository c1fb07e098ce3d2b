import Environments.Proofs.Sink.Recording

/-!
# A load and the sink it goes into

While a load goes into a recording sink, the sink and its clones can be used from elsewhere: providers
can be rejected, and other batches delivered.  `Joint` is where a load and its sink stand after some
turns, moves of the load and uses from elsewhere.  A move uses the sink if it hands a batch over, which
is the one that `offer?` reads off a task: all its accounts are done, and there is no sign to cancel.

`Load.GoesInto` says that each batch is answered by the sink as it stands at that turn.  There is a load
like this for all turns, `exists_goesInto`, since no task hands over twice.
-/

namespace Environments

open RecordingSink (Use)

namespace Load.State

variable {load : Load} {s : State}

/-! ### What passes in a move -/

/-- The deeds of a move. -/
def newDeeds (load : Load) (s : State) : Move → List Deed
  | .step number =>
    match s.phase, s.tasks[number]? with
    | .loading, some t => (t.step load s.now number s.elapsed).2
    | _, _ => []
  | _ => []

/-- **The batch that a move hands over**, if it does: that of a task which has no account left to ask
for, before the sign to cancel. -/
def offer? (load : Load) (s : State) : Move → Option Batch
  | .step number =>
    match s.phase, s.elapsed, s.tasks[number]? with
    | .loading, false, some ⟨entry, .resting _ results []⟩ =>
      some ⟨entry.descriptor, results, load.clock s.now⟩
    | _, _, _ => none
  | _ => none

theorem deeds_foldl_spawn (entries : List (Entry Provider)) (s : State) :
    (entries.foldl (spawn load) s).deeds = s.deeds := by
  induction entries generalizing s with
  | nil => rfl
  | cons entry entries ih => exact ih (s.spawn load entry)

theorem deeds_discover (s : State) : (s.discover load).deeds = s.deeds := by
  unfold discover
  split
  · split
    · exact deeds_foldl_spawn _ _
    · rfl
  · rfl

theorem deeds_join (s : State) (number : Nat) : (s.join number).deeds = s.deeds := by
  have recorded : ∀ ending, (s.record ending).deeds = s.deeds := by
    intro ending
    cases ending with
    | returned => rfl
    | brokeDown task report => cases kept : s.inFlight.lookup task <;> simp [record, kept, put, note]
  unfold join
  split
  · exact recorded _
  · rfl

theorem deeds_step (s : State) (phase : s.phase = .loading) (number : Nat) :
    (s.step load number).deeds = s.deeds ++ (s.newDeeds load (.step number)).map (s.now, ·) := by
  cases found : s.tasks[number]? <;> simp [step, newDeeds, phase, found]

theorem deeds_apply (s : State) (move : Move) :
    (s.apply load move).deeds = s.deeds ++ (s.newDeeds load move).map (s.now, ·) := by
  cases phase : s.phase with
  | finished => cases move <;> simp [apply, newDeeds, phase]
  | discovering =>
    cases move with
    | discover => simp [apply, newDeeds, phase, deeds_discover]
    | expire => simp [apply, newDeeds, phase, timeOut, close, note]
    | wait | step | join | finish => simp [apply, newDeeds, phase]
  | loading =>
    cases move with
    | step number => simp only [apply, phase, deeds_step s phase number]
    | join number => simp [apply, newDeeds, phase, deeds_join]
    | expire => cases elapsed : s.elapsed <;> simp [apply, newDeeds, phase, elapsed, cancel, note]
    | finish => by_cases none : s.outstanding = 0 <;> simp [apply, newDeeds, phase, none, close, note]
    | wait | discover => simp [apply, newDeeds, phase]

theorem deeds_follow_prefix (s : State) (schedule : List Move) :
    s.deeds <+: (s.follow load schedule).deeds := by
  induction schedule generalizing s with
  | nil => exact List.prefix_refl _
  | cons move later ih =>
    refine List.IsPrefix.trans ?_ (ih (s.apply load move))
    rw [deeds_apply]
    exact List.prefix_append _ _

theorem batch?_resume (load : Load) (now number : Nat) (entry : Entry Provider) (stage : Stage) :
    (Task.resume load now number entry stage).2.filterMap Deed.batch? = [] := by
  cases stage with
  | resting | ended | joined => rfl
  | querying index results developer rest due answer =>
    rw [Task.resume]
    split <;> rfl
  | delivering batch due answer =>
    rw [Task.resume]
    split
    · rcases answer with (error | accepted) | message <;> rfl
    · rfl

theorem batch?_newDeeds (s : State) (move : Move) :
    (s.newDeeds load move).filterMap Deed.batch? = (s.offer? load move).toList := by
  cases move with
  | wait | discover | expire | join | finish => rfl
  | step number =>
    cases phase : s.phase with
    | discovering | finished => simp [newDeeds, offer?, phase]
    | loading =>
      cases found : s.tasks[number]? with
      | none => simp [newDeeds, offer?, phase, found]
      | some t =>
        obtain ⟨entry, stage⟩ := t
        cases elapsed : s.elapsed with
        | true => simp [newDeeds, offer?, phase, found, elapsed, Task.step]
        | false =>
          cases stage with
          | resting index results rest =>
            have resumed := batch?_resume load s.now number entry
            cases rest with
            | nil => simp [newDeeds, offer?, phase, found, elapsed, Task.step, Task.begin, resumed,
                Deed.batch?]
            | cons developer rest =>
              simp only [newDeeds, offer?, phase, found, elapsed, Task.step, Bool.false_eq_true, if_false]
              exact resumed _
          | querying | delivering | ended | joined =>
            simp [newDeeds, offer?, phase, found, elapsed, Task.step, batch?_resume]

theorem handed_apply (s : State) (move : Move) :
    (s.apply load move).handed = s.handed ++ (s.offer? load move).toList := by
  rw [handed, deeds_apply, List.filterMap_append, List.filterMap_map, ← batch?_newDeeds]
  rfl

theorem task?_newDeeds {move : Move} {deed : Deed} (passed : deed ∈ s.newDeeds load move) :
    ∃ number, move = .step number ∧ deed.task? = some number := by
  unfold newDeeds at passed
  split at passed
  · split at passed
    · exact ⟨_, rfl, (Task.advances_step _).task?_eq deed passed⟩
    · cases passed
  · cases passed

theorem handed_mem_newDeeds {move : Move} {number : Nat} {batch : Batch} :
    .handed number batch ∈ s.newDeeds load move ↔
      move = .step number ∧ s.offer? load move = some batch := by
  have among : batch ∈ (s.newDeeds load move).filterMap Deed.batch? ↔
      s.offer? load move = some batch := by
    rw [batch?_newDeeds, Option.mem_toList]
  constructor
  · intro handed
    obtain ⟨other, rfl, part⟩ := task?_newDeeds handed
    obtain rfl : number = other := Option.some.inj part
    exact ⟨rfl, among.mp (List.mem_filterMap.mpr ⟨_, handed, rfl⟩)⟩
  · rintro ⟨rfl, offered⟩
    obtain ⟨deed, passed, same⟩ := List.mem_filterMap.mp (among.mpr offered)
    obtain ⟨other, made, part⟩ := task?_newDeeds passed
    obtain rfl : number = other := Move.step.inj made
    cases deed with
    | handed task other =>
      obtain rfl := Option.some.inj same
      obtain rfl := Option.some.inj part
      exact passed
    | asked | called | answered | accepted | refused | spoiled => cases same

theorem conclude_deeds (load : Load) (number : Nat) (entry : Entry Provider) (batch : Batch)
    (answer : Answer (Except SinkError Unit)) :
    (Task.conclude load number entry batch answer).2 = [.ofDelivery number batch answer] := by
  rcases answer with (error | accepted) | message <;> rfl

/-- A batch that is answered at once is handed over and answered in one move. -/
theorem newDeeds_of_offer {number : Nat} {batch : Batch} {answer : Answer (Except SinkError Unit)}
    (offered : s.offer? load (.step number) = some batch)
    (reply : load.sink number batch = ⟨0, answer⟩) :
    s.newDeeds load (.step number) = [.handed number batch, .ofDelivery number batch answer] := by
  simp only [offer?] at offered
  split at offered
  · rename_i entry index results phase elapsed found
    obtain rfl := Option.some.inj offered
    simp [newDeeds, phase, elapsed, found, Task.step, Task.begin, reply, Task.resume, conclude_deeds]
  · cases offered

end Load.State

/-! ### A load and its sink -/

/-- **What happens in a load into a recording sink**: the load makes a move, or the sink is used from
elsewhere, itself or a clone of it. -/
inductive Load.Turn
  | move (move : Load.Move)
  | use (use : Use)

/-- The move of a turn, if the load makes one. -/
def Load.Turn.move? : Load.Turn → Option Load.Move
  | move made => some made
  | use _ => none

/-- The task that makes a step at a turn, if one does. -/
def Load.Turn.step? : Load.Turn → Option Nat
  | move (.step number) => some number
  | _ => none

/-- A load and all uses of its sink. -/
structure Load.Joint where
  state : Load.State := {}
  uses : List Use := []

namespace Load

def Joint.sink (j : Joint) : RecordingSink :=
  RecordingSink.useAll {} j.uses

/-- A move uses the sink for the batch that it hands over. -/
def Joint.turn (load : Load) (j : Joint) : Turn → Joint
  | .move move =>
    ⟨j.state.apply load move, j.uses ++ (j.state.offer? load move).toList.map .deliver⟩
  | .use u => { j with uses := j.uses ++ [u] }

/-- Where a load and its sink stand after these turns. -/
def joint (load : Load) (turns : List Turn) : Joint :=
  turns.foldl (Joint.turn load) {}

/-- At one of the turns, which finds the load and its sink like this, the task with this number hands
over this batch. -/
def HandsOver (load : Load) (turns : List Turn) (number : Nat) (batch : Batch) (j : Joint) : Prop :=
  ∃ first later, turns = first ++ .move (.step number) :: later ∧ load.joint first = j ∧
    j.state.offer? load (.step number) = some batch

/-- **A load goes into a recording sink**: each batch is answered by the sink as it stands when the batch
is handed over. -/
def GoesInto (load : Load) (turns : List Turn) : Prop :=
  ∀ number batch j, load.HandsOver turns number batch j →
    load.sink number batch = (Sink.recording j.sink).reply batch

variable {load : Load} {turns : List Turn} {number : Nat} {batch : Batch} {j : Joint}

/-- Whether a load goes into a sink can be told turn by turn. -/
theorem goesInto_of_places (answers : ∀ place < turns.length,
    ∀ number ∈ turns[place]?.bind Turn.step?,
    ∀ batch ∈ (load.joint (turns.take place)).state.offer? load (.step number),
      load.sink number batch = (Sink.recording (load.joint (turns.take place)).sink).reply batch) :
    load.GoesInto turns := by
  rintro number batch j ⟨first, later, rfl, rfl, offered⟩
  have here := answers first.length (by simp) number (by simp [Turn.step?])
  rw [List.take_left] at here
  exact here batch offered

theorem joint_concat (load : Load) (turns : List Turn) (turn : Turn) :
    load.joint (turns ++ [turn]) = (load.joint turns).turn load turn :=
  List.foldl_concat ..

theorem state_joint (load : Load) (turns : List Turn) :
    (load.joint turns).state = load.after (turns.filterMap Turn.move?) := by
  induction turns using List.reverseRecOn with
  | nil => rfl
  | append_singleton turns turn ih =>
    rw [joint_concat, List.filterMap_append, after_append, ← ih]
    cases turn <;> rfl

theorem HandsOver.append (h : load.HandsOver turns number batch j) (more : List Turn) :
    load.HandsOver (turns ++ more) number batch j := by
  obtain ⟨first, later, rfl, reached, offered⟩ := h
  exact ⟨first, later ++ more, by simp, reached, offered⟩

/-- **What was handed over was handed over at some turn.** -/
theorem exists_handsOver {time : Nat}
    (handed : (time, .handed number batch) ∈ (load.joint turns).state.deeds) :
    ∃ j, load.HandsOver turns number batch j := by
  induction turns using List.reverseRecOn with
  | nil => simp [joint] at handed
  | append_singleton turns turn ih =>
    rw [joint_concat] at handed
    cases turn with
    | use u =>
      obtain ⟨j, handing⟩ := ih handed
      exact ⟨j, handing.append _⟩
    | move move =>
      simp only [Joint.turn, State.deeds_apply] at handed
      rcases List.mem_append.mp handed with before | now
      · obtain ⟨j, handing⟩ := ih before
        exact ⟨j, handing.append _⟩
      · obtain ⟨deed, passed, same⟩ := List.mem_map.mp now
        obtain rfl : deed = .handed number batch := congrArg Prod.snd same
        obtain ⟨rfl, offered⟩ := State.handed_mem_newDeeds.mp passed
        exact ⟨_, turns, [], rfl, rfl, offered⟩

theorem HandsOver.mem_history (h : load.HandsOver turns number batch j) {deed : Deed}
    (passed : deed ∈ j.state.newDeeds load (.step number)) :
    deed ∈ ((load.joint turns).state.history number).map Prod.snd := by
  obtain ⟨first, later, rfl, rfl, _⟩ := h
  have stays : ((load.joint first).state.apply load (.step number)).deeds <+:
      (load.joint (first ++ .move (.step number) :: later)).state.deeds := by
    rw [state_joint load (first ++ _), List.filterMap_append, after_append, ← state_joint load first]
    exact State.deeds_follow_prefix _ _
  have now : ((load.joint first).state.now, deed) ∈
      ((load.joint first).state.apply load (.step number)).deeds := by
    rw [State.deeds_apply]
    exact List.mem_append_right _ (List.mem_map_of_mem passed)
  obtain ⟨other, made, part⟩ := State.task?_newDeeds passed
  obtain rfl : number = other := Move.step.inj made
  exact List.mem_map_of_mem (State.mem_history (stays.subset now) part)

theorem HandsOver.handed (h : load.HandsOver turns number batch j) :
    .handed number batch ∈ ((load.joint turns).state.history number).map Prod.snd := by
  have ⟨_, _, _, _, offered⟩ := h
  exact h.mem_history (State.handed_mem_newDeeds.mpr ⟨rfl, offered⟩)

/-- **A batch that is answered at once is answered at the turn at which it is handed over.** -/
theorem HandsOver.answered (h : load.HandsOver turns number batch j)
    {answer : Answer (Except SinkError Unit)} (reply : load.sink number batch = ⟨0, answer⟩) :
    .ofDelivery number batch answer ∈ ((load.joint turns).state.history number).map Prod.snd := by
  have ⟨_, _, _, _, offered⟩ := h
  refine h.mem_history ?_
  rw [State.newDeeds_of_offer offered reply]
  exact List.mem_cons_of_mem _ List.mem_cons_self

/-! ### Every course of turns is that of a load -/

/-- The load with other answers to its batches. -/
def withSink (load : Load) (sink : Nat → Batch → Reply (Except SinkError Unit)) : Load :=
  { load with sink := sink }

variable {sink : Nat → Batch → Reply (Except SinkError Unit)}

theorem resume_withSink (load : Load) (now number : Nat) (entry : Entry Provider) (stage : Stage) :
    Task.resume (load.withSink sink) now number entry stage =
      Task.resume load now number entry stage := by
  cases stage <;> rfl

theorem step_withSink {now number : Nat} {cancelled : Bool} {t : Task}
    (same : ∀ index results, cancelled = false → t.stage = .resting index results [] →
      sink number ⟨t.entry.descriptor, results, load.clock now⟩ =
        load.sink number ⟨t.entry.descriptor, results, load.clock now⟩) :
    t.step (load.withSink sink) now number cancelled = t.step load now number cancelled := by
  obtain ⟨entry, stage⟩ := t
  cases cancelled with
  | true => rfl
  | false =>
    cases stage with
    | querying | delivering | ended | joined => rfl
    | resting index results rest =>
      have begun : Task.begin (load.withSink sink) now number entry index results rest =
          Task.begin load now number entry index results rest := by
        cases rest with
        | cons developer rest => rfl
        | nil =>
          have reply := same index results rfl rfl
          simp only [Task.begin]
          rw [← reply]
          rfl
      simp only [Task.step, Bool.false_eq_true, if_false, begun, resume_withSink]

/-- A move depends on the answers for nothing but the batch that it hands over. -/
theorem apply_withSink {s : State} {move : Move}
    (same : ∀ number, move = .step number → ∀ batch ∈ s.offer? load move,
      sink number batch = load.sink number batch) :
    s.apply (load.withSink sink) move = s.apply load move := by
  cases phase : s.phase with
  | finished => simp only [State.apply, phase]
  | discovering => cases move <;> simp only [State.apply, phase] <;> rfl
  | loading =>
    cases move with
    | wait | discover | join => simp only [State.apply, phase]
    | expire | finish =>
      simp only [State.apply, phase]
      rfl
    | step number =>
      simp only [State.apply, phase, State.step]
      split
      · rfl
      · rename_i t found
        have step : t.step (load.withSink sink) s.now number s.elapsed =
            t.step load s.now number s.elapsed := by
          refine step_withSink fun index results running resting => same number rfl _ ?_
          obtain ⟨entry, stage⟩ := t
          obtain rfl : stage = .resting index results [] := resting
          simp [State.offer?, phase, running, found]
        rw [step]

theorem HandsOver.of_concat {turn : Turn} (h : load.HandsOver (turns ++ [turn]) number batch j) :
    load.HandsOver turns number batch j ∨ turn = .move (.step number) ∧ load.joint turns = j ∧
      j.state.offer? load (.step number) = some batch := by
  obtain ⟨first, later, apart, reached, offered⟩ := h
  rcases List.eq_nil_or_concat later with rfl | ⟨later, last, rfl⟩
  · obtain ⟨rfl, same⟩ := List.append_inj' apart rfl
    exact Or.inr ⟨List.head_eq_of_cons_eq same, reached, offered⟩
  · rw [List.concat_eq_append, ← List.cons_append, ← List.append_assoc] at apart
    obtain ⟨rfl, _⟩ := List.append_inj' apart rfl
    exact Or.inl ⟨first, later, rfl, reached, offered⟩

/-- Where the answers are the same for all that is handed over, all goes the same way. -/
theorem joint_withSink (same : ∀ number batch j, load.HandsOver turns number batch j →
      sink number batch = load.sink number batch) :
    (load.withSink sink).joint turns = load.joint turns := by
  induction turns using List.reverseRecOn with
  | nil => rfl
  | append_singleton turns turn ih =>
    rw [joint_concat, joint_concat, ih fun number batch j handing => same number batch j (handing.append _)]
    cases turn with
    | use u => rfl
    | move move =>
      have next : (load.joint turns).state.apply (load.withSink sink) move =
          (load.joint turns).state.apply load move := by
        refine apply_withSink fun number made batch offered => ?_
        subst made
        exact same number batch _ ⟨turns, [], rfl, rfl, offered⟩
      simp only [Joint.turn, next]
      rfl

theorem handsOver_withSink (same : ∀ number batch j, load.HandsOver turns number batch j →
      sink number batch = load.sink number batch)
    (h : (load.withSink sink).HandsOver turns number batch j) : load.HandsOver turns number batch j := by
  obtain ⟨first, later, rfl, rfl, offered⟩ := h
  have reached : (load.withSink sink).joint first = load.joint first := by
    exact joint_withSink fun number batch j handing => same number batch j (handing.append _)
  rw [reached] at offered ⊢
  exact ⟨first, later, rfl, rfl, offered⟩

/-- **No task hands over twice.** -/
theorem HandsOver.offer?_eq_none (h : load.HandsOver turns number batch j) :
    (load.joint turns).state.offer? load (.step number) = none := by
  have handed := h.handed
  rw [state_joint] at handed ⊢
  by_contra again
  obtain ⟨other, offered⟩ := Option.ne_none_iff_exists'.mp again
  simp only [State.offer?] at offered
  split at offered
  · rename_i entry index results _ _ found
    have course := State.course_follow load (turns.filterMap Turn.move?) found
    generalize (((load.after _).history number).map Prod.snd) = deeds at handed course
    cases course with
    | resting => simp at handed
  · cases offered

/-- A load that has gone into its sink so far can go on in any way: what is handed over next has not been
answered yet. -/
theorem GoesInto.exists_concat (goes : load.GoesInto turns) (turn : Turn) :
    ∃ sink, (load.withSink sink).GoesInto (turns ++ [turn]) := by
  let now := load.joint turns
  let next := fun number batch =>
    if (now.state.offer? load (.step number)).isSome then (Sink.recording now.sink).reply batch
    else load.sink number batch
  have same : ∀ number batch j, load.HandsOver turns number batch j →
      next number batch = load.sink number batch := by
    intro number batch j handing
    simp [next, now, handing.offer?_eq_none]
  refine ⟨next, fun number batch j handing => ?_⟩
  show next number batch = (Sink.recording j.sink).reply batch
  rcases handing.of_concat with before | ⟨_, reached, offered⟩
  · have before := handsOver_withSink same before
    rw [same number batch j before]
    exact goes number batch j before
  · obtain rfl : now = j := (joint_withSink same).symm.trans reached
    have offered : (now.state.offer? load (.step number)).isSome := Option.isSome_of_eq_some offered
    exact if_pos offered

/-- **For every course of turns there are answers with which a load goes this way into its sink.** -/
theorem exists_goesInto (load : Load) (turns : List Turn) :
    ∃ sink, (load.withSink sink).GoesInto turns := by
  induction turns using List.reverseRecOn with
  | nil => exact ⟨load.sink, fun number batch j ⟨first, later, apart, _⟩ => by simp at apart⟩
  | append_singleton turns turn ih =>
    obtain ⟨sink, goes⟩ := ih
    exact goes.exists_concat turn

end Load

end Environments
