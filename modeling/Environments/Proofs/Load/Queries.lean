import Environments.Proofs.Load.Course
import Mathlib.Data.List.Induction

/-!
# The queries of an entry

`Task.Queries` is what is kept of the queries of an entry at any time: the accounts are queried in
their order, one by one, and each query waits until all earlier ones have brought a result.
`Course.queries` says that a task on its course keeps it.

`Outcome.Reached` is how far the queries have come where the part of a provider ends: all accounts
have been queried if there was a delivery, and else the queries stop at the one that failed or that
was cut off.  `Ends.reached` says that this is so for every way to end.
-/

namespace Environments

/-- The account and the options of the query that is started. -/
def Deed.query? : Deed → Option (Developer × String)
  | called _ developer options => some (developer, options)
  | _ => none

/-- The account and the answer of the query that has come to its end. -/
def Deed.answer? : Deed → Option (Developer × Answer (Except QueryError QueryResult))
  | answered _ developer answer => some (developer, answer)
  | _ => none

/-- Whether an answer brings a result. A failure that the provider reports is a result too. -/
def Answer.isResult : Answer (Except QueryError QueryResult) → Bool
  | returned (.ok _) => true
  | _ => false

namespace Task

/-- The queries that were started, in order. -/
def queries (deeds : List Deed) : List (Developer × String) :=
  deeds.filterMap Deed.query?

/-- The answers that were taken, in order, each with its account. -/
def answers (deeds : List Deed) : List (Developer × Answer (Except QueryError QueryResult)) :=
  deeds.filterMap Deed.answer?

/-- The accounts that were queried, in order. -/
def asked (deeds : List Deed) : List Developer :=
  (queries deeds).map Prod.fst

/-- Every query has been answered, and has brought a result. -/
def AllAnswered (deeds : List Deed) : Prop :=
  (answers deeds).map Prod.fst = asked deeds ∧ ∀ answer ∈ answers deeds, answer.2.isResult = true

/-- Each query is started only after all earlier ones have brought a result. -/
def OneByOne (deeds : List Deed) : Prop :=
  ∀ before deed after, deeds = before ++ deed :: after → deed.query?.isSome = true →
    AllAnswered before

/-- **How the queries of an entry go**, by what passes in its task. -/
structure Queries (load : Load) (entry : Entry Provider) (deeds : List Deed) : Prop where
  /-- The accounts are queried in their order: none is left out, and none is queried again. -/
  inOrder : asked deeds <+: entry.developers
  /-- Every query has the options of the load. -/
  options : queries deeds = (asked deeds).map (·, load.config.options)
  /-- What is taken for an answer is what the provider answers to that query. -/
  answered : ∀ index answer, (answers deeds)[index]? = some answer →
    (asked deeds)[index]? = some answer.1 ∧
      answer.2 = (entry.provider.query index answer.1 load.config.options).answer
  oneByOne : OneByOne deeds

end Task

/-- **How far the queries have come where the part of a provider ends like this**: which of the
accounts have been queried, and what the answers were. -/
def Outcome.Reached (developers asked : List Developer)
    (answers : List (Developer × Answer (Except QueryError QueryResult))) : Outcome → Prop
  | .delivered _ | .deliveryFailed _ =>
    asked = developers ∧ answers.length = developers.length ∧
      ∀ answer ∈ answers, answer.2.isResult = true
  | .queryFailed failedAt developer reason =>
    asked.length = failedAt + 1 ∧ developers[failedAt]? = some developer ∧
      ∃ results error, answers = results ++ [(developer, .returned (.error error))] ∧
        results.length = failedAt ∧ (∀ answer ∈ results, answer.2.isResult = true) ∧
        reason = error.message
  | .cancelled completed =>
    (asked.length = completed ∨ asked.length = completed + 1) ∧ asked.length ≤ developers.length ∧
      answers.length = completed ∧ ∀ answer ∈ answers, answer.2.isResult = true
  | .aborted _ =>
    answers.length = asked.length ∧ ((asked = developers ∧ ∀ answer ∈ answers, answer.2.isResult = true) ∨
      ∃ answer ∈ answers, ∃ message, answer.2 = .brokeDown message)

namespace Task

/-! ### Queries and answers of what has passed -/

@[simp] theorem queries_nil : queries [] = [] := rfl

@[simp] theorem answers_nil : answers [] = [] := rfl

@[simp] theorem asked_nil : asked [] = [] := rfl

@[simp] theorem queries_cons (deed : Deed) (deeds : List Deed) :
    queries (deed :: deeds) = deed.query?.toList ++ queries deeds := by
  cases h : deed.query? <;> simp [queries, h]

@[simp] theorem answers_cons (deed : Deed) (deeds : List Deed) :
    answers (deed :: deeds) = deed.answer?.toList ++ answers deeds := by
  cases h : deed.answer? <;> simp [answers, h]

@[simp] theorem asked_cons (deed : Deed) (deeds : List Deed) :
    asked (deed :: deeds) = (deed.query?.map Prod.fst).toList ++ asked deeds := by
  cases h : deed.query? <;> simp [asked, h]

@[simp] theorem queries_append (first later : List Deed) :
    queries (first ++ later) = queries first ++ queries later :=
  List.filterMap_append

@[simp] theorem answers_append (first later : List Deed) :
    answers (first ++ later) = answers first ++ answers later :=
  List.filterMap_append

@[simp] theorem asked_append (first later : List Deed) :
    asked (first ++ later) = asked first ++ asked later := by
  simp [asked]

@[simp] theorem queries_exchanges (number : Nat) (options : String) (results : List IdentityResult) :
    queries (exchanges number options results) = results.map fun r => (r.developer, options) := by
  induction results with
  | nil => rfl
  | cons r results ih => exact congrArg ((r.developer, options) :: ·) ih

@[simp] theorem answers_exchanges (number : Nat) (options : String) (results : List IdentityResult) :
    answers (exchanges number options results) =
      results.map fun r => (r.developer, .returned (.ok r.result)) := by
  induction results with
  | nil => rfl
  | cons r results ih => exact congrArg ((r.developer, .returned (.ok r.result)) :: ·) ih

@[simp] theorem asked_exchanges (number : Nat) (options : String) (results : List IdentityResult) :
    asked (exchanges number options results) = results.map (·.developer) := by
  simp [asked, Function.comp_def]

theorem allAnswered_exchanges (number : Nat) (options : String) (results : List IdentityResult) :
    AllAnswered (exchanges number options results) := by
  refine ⟨by simp [Function.comp_def], fun answer member => ?_⟩
  rw [answers_exchanges] at member
  obtain ⟨r, _, rfl⟩ := List.mem_map.mp member
  rfl

/-! ### One by one -/

theorem oneByOne_nil : OneByOne [] := by
  intro before deed after same
  exact absurd same (by simp)

/-- A deed may follow if it starts no query, or if all queries so far have brought a result. -/
theorem OneByOne.snoc {deeds : List Deed} {deed : Deed} (h : OneByOne deeds)
    (ready : deed.query?.isSome = true → AllAnswered deeds) : OneByOne (deeds ++ [deed]) := by
  intro before query after same starts
  -- The query is the new deed, or it stands among the earlier ones.
  rcases List.eq_nil_or_concat after with rfl | ⟨rest, last, rfl⟩
  · obtain ⟨rfl, rest⟩ := List.append_inj' same rfl
    obtain rfl : deed = query := by simpa using rest
    exact ready starts
  · have same : deeds ++ [deed] = (before ++ query :: rest) ++ [last] := by simpa using same
    exact h before query rest (List.append_inj' same rfl).1 starts

/-! ### One more deed -/

variable {load : Load} {number : Nat} {entry : Entry Provider} {deeds : List Deed} {deed : Deed}

theorem Queries.nil : Queries load entry [] :=
  ⟨List.nil_prefix, rfl, nofun, oneByOne_nil⟩

theorem Queries.snoc (h : Queries load entry deeds) (query : deed.query? = none)
    (answer : deed.answer? = none) : Queries load entry (deeds ++ [deed]) := by
  have same_queries : queries (deeds ++ [deed]) = queries deeds := by simp [query]
  have same_answers : answers (deeds ++ [deed]) = answers deeds := by simp [answer]
  have same_asked : asked (deeds ++ [deed]) = asked deeds := congrArg (List.map Prod.fst) same_queries
  refine ⟨same_asked ▸ h.inOrder, ?_, ?_, h.oneByOne.snoc fun starts => ?_⟩
  · rw [same_queries, same_asked]
    exact h.options
  · rw [same_answers, same_asked]
    exact h.answered
  · rw [query] at starts
    cases starts

theorem Queries.snoc_called {developer : Developer} (h : Queries load entry deeds)
    (ready : AllAnswered deeds) (next : asked deeds ++ [developer] <+: entry.developers) :
    Queries load entry (deeds ++ [.called number developer load.config.options]) := by
  have new : asked (deeds ++ [.called number developer load.config.options]) =
      asked deeds ++ [developer] := by simp [Deed.query?]
  have same : answers (deeds ++ [.called number developer load.config.options]) = answers deeds := by
    simp [Deed.answer?]
  refine ⟨new ▸ next, ?_, fun index answer found => ?_, h.oneByOne.snoc fun _ => ready⟩
  · rw [queries_append, h.options, new, List.map_append]
    rfl
  · rw [same] at found
    obtain ⟨account, reply⟩ := h.answered index answer found
    obtain ⟨inside, _⟩ := List.getElem?_eq_some_iff.mp account
    rw [new, List.getElem?_append_left inside]
    exact ⟨account, reply⟩

theorem Queries.snoc_answered {developer : Developer}
    {answer : Answer (Except QueryError QueryResult)} (h : Queries load entry deeds)
    (waiting : (asked deeds)[(answers deeds).length]? = some developer)
    (reply : (entry.provider.query (answers deeds).length developer load.config.options).answer =
      answer) :
    Queries load entry (deeds ++ [.answered number developer answer]) := by
  have new : answers (deeds ++ [.answered number developer answer]) =
      answers deeds ++ [(developer, answer)] := by simp [Deed.answer?]
  have same : asked (deeds ++ [.answered number developer answer]) = asked deeds := by
    simp [Deed.query?]
  refine ⟨same ▸ h.inOrder, ?_, fun index taken found => ?_, h.oneByOne.snoc nofun⟩
  · rw [queries_append, same, ← h.options]
    exact List.append_nil _
  · rw [new] at found
    rw [same]
    rcases Nat.lt_trichotomy index (answers deeds).length with earlier | rfl | later
    · rw [List.getElem?_append_left earlier] at found
      exact h.answered index taken found
    · rw [List.getElem?_concat_length] at found
      obtain rfl := Option.some.inj found
      exact ⟨waiting, reply.symm⟩
    · rw [List.getElem?_eq_none (by simp; omega)] at found
      cases found

/-! ### The queries of a task on its course -/

section Asked

variable {results : List IdentityResult} {rest : List Developer} {developer : Developer}
  {answer : Answer (Except QueryError QueryResult)}

theorem queries_called (before : Queries load entry (exchanges number load.config.options results))
    (given : load.Asked entry results (developer :: rest)) :
    Queries load entry (exchanges number load.config.options results ++
      [.called number developer load.config.options]) := by
  refine before.snoc_called (allAnswered_exchanges number load.config.options results) ?_
  rw [asked_exchanges, given.developers]
  exact (List.prefix_append_right_inj _).mpr ⟨rest, rfl⟩

theorem queries_answered (before : Queries load entry (exchanges number load.config.options results))
    (given : load.Asked entry results (developer :: rest))
    (reply : (entry.provider.query results.length developer load.config.options).answer = answer) :
    Queries load entry (exchanges number load.config.options results ++
      [.called number developer load.config.options, .answered number developer answer]) := by
  have count : (answers (exchanges number load.config.options results ++
      [.called number developer load.config.options])).length = results.length := by
    simp [Deed.answer?]
  rw [List.append_cons]
  refine (queries_called before given).snoc_answered ?_ ?_
  · rw [count]
    simp [Deed.query?]
  · rw [count]
    exact reply

theorem queries_exchanges_of_asked (given : load.Asked entry results rest) :
    Queries load entry (exchanges number load.config.options results) := by
  induction results using List.reverseRecOn generalizing rest with
  | nil => exact .nil
  | append_singleton results r ih =>
    -- Without its last result, what has been asked is asked up to that account.
    have earlier : load.Asked entry results (r.developer :: rest) := by
      refine ⟨by simp [given.developers], fun index other found => given.answer index other ?_⟩
      obtain ⟨inside, _⟩ := List.getElem?_eq_some_iff.mp found
      rwa [List.getElem?_append_left inside]
    rw [exchanges_snoc]
    exact queries_answered (ih earlier) earlier (given.answer results.length r (by simp))

end Asked

theorem Ends.queries {ending : Ending} (h : Ends load number entry ending deeds) :
    Queries load entry deeds := by
  cases h with
  | cutResting given => exact queries_exchanges_of_asked given
  | cutQuerying given => exact queries_called (queries_exchanges_of_asked given) given
  | cutDelivering whole => exact (queries_exchanges_of_asked whole.asked).snoc rfl rfl
  | failed given reply | brokeDown given reply =>
    exact queries_answered (queries_exchanges_of_asked given) given reply
  | accepted whole | refused whole | spoiled whole =>
    rw [List.append_cons]
    exact ((queries_exchanges_of_asked whole.asked).snoc rfl rfl).snoc rfl rfl

theorem Course.queries {stage : Stage} (h : Course load number entry stage deeds) :
    Queries load entry deeds := by
  cases h with
  | resting given => exact queries_exchanges_of_asked given
  | querying given => exact queries_called (queries_exchanges_of_asked given) given
  | delivering whole => exact (queries_exchanges_of_asked whole.asked).snoc rfl rfl
  | ended ends | joined ends => exact ends.queries

theorem Ends.reached {ending : Ending} (h : Ends load number entry ending deeds) :
    ending.outcome.Reached entry.developers (asked deeds) (answers deeds) := by
  have good := fun results => (allAnswered_exchanges number load.config.options results).2
  simp only [answers_exchanges] at good
  cases h with
  | @cutResting results rest given =>
    refine ⟨Or.inl ?_, ?_, ?_, ?_⟩
    · simp
    · simp [given.developers]
    · simp
    · simpa using good results
  | @cutQuerying results developer rest given =>
    refine ⟨Or.inr ?_, ?_, ?_, ?_⟩
    · simp [Deed.query?]
    · simp [given.developers, Deed.query?]
    · simp [Deed.answer?]
    · simpa [Deed.answer?] using good results
  | @cutDelivering batch whole =>
    -- All accounts have answered, but the sink has not said whether it takes the batch.
    refine ⟨Or.inl ?_, ?_, ?_, ?_⟩
    · simp [Deed.query?]
    · simp [Deed.query?, whole.length]
    · simp [Deed.answer?]
    · simpa [Deed.answer?] using good batch.results
  | @failed results developer rest error given reply =>
    refine ⟨?_, ?_, _, error, ?_, ?_, good results, rfl⟩
    · simp [Deed.query?]
    · simp [given.developers]
    · simp [Deed.answer?]
    · simp
  | @brokeDown results developer rest message given reply =>
    refine ⟨?_, Or.inr ⟨(developer, .brokeDown message), ?_, message, rfl⟩⟩
    · simp [Deed.query?, Deed.answer?]
    · simp [Deed.answer?]
  | @accepted batch whole | @refused batch error whole =>
    refine ⟨?_, ?_, ?_⟩
    · simp [whole.asked.developers, Deed.query?]
    · simp [Deed.answer?, whole.length]
    · simpa [Deed.answer?] using good batch.results
  | @spoiled batch message whole =>
    refine ⟨?_, Or.inl ⟨?_, ?_⟩⟩
    · simp [Deed.query?, Deed.answer?]
    · simp [whole.asked.developers, Deed.query?]
    · simpa [Deed.answer?] using good batch.results

end Task

end Environments
