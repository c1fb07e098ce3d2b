import Environments.Batch
import Environments.Setup.ReviewItem

/-!
# The context of a setup flow

The steps of a setup flow share one thing, the target that has been selected. It can be selected
directly or out of a batch, looked at, required, taken out and cleared.
-/

namespace Environments

/-- What the steps of a setup flow share. -/
structure Context where
  target : Option ReviewItem := none
  deriving DecidableEq

namespace Context

/-- Selects a target, in place of an earlier one. -/
def select (_ : Context) (item : ReviewItem) : Context := ⟨some item⟩

/-- The item for the first system of a batch with an identifier. -/
def itemFromBatch (batch : Batch) (id : SystemId) : Except SetupError ReviewItem :=
  match batch.systems.find? fun system => system.id = id with
  | none => .error (.systemNotFound id)
  | some system => ReviewItem.of system batch.provider

/-- Selects the first system of a batch with an identifier. Where that fails, the context stays as it
is. -/
def selectFromBatch (c : Context) (batch : Batch) (id : SystemId) :
    Except SetupError ReviewItem × Context :=
  match itemFromBatch batch id with
  | .ok item => (.ok item, c.select item)
  | .error error => (.error error, c)

def requireTarget (c : Context) : Except SetupError ReviewItem :=
  match c.target with
  | some item => .ok item
  | none => .error .targetNotSelected

def takeTarget (c : Context) : Option ReviewItem × Context := (c.target, ⟨none⟩)

def clearTarget (_ : Context) : Context := ⟨none⟩

theorem itemFromBatch_eq_ok {batch : Batch} {id : SystemId} {item : ReviewItem}
    (ok : itemFromBatch batch id = .ok item) :
    item.system ∈ batch.systems ∧ item.provider = batch.provider := by
  unfold itemFromBatch at ok
  cases found : batch.systems.find? fun system => system.id = id with
  | none =>
    rw [found] at ok
    cases ok
  | some system =>
    rw [found] at ok
    obtain ⟨rfl, provider⟩ := ReviewItem.of_eq_ok.mp ok
    exact ⟨List.mem_of_find?_eq_some found, provider⟩

theorem selectFromBatch_of_ok (c : Context) {batch : Batch} {id : SystemId} {item : ReviewItem}
    (ok : itemFromBatch batch id = .ok item) :
    c.selectFromBatch batch id = (.ok item, c.select item) := by
  rw [selectFromBatch, ok]

theorem selectFromBatch_of_error (c : Context) {batch : Batch} {id : SystemId} {error : SetupError}
    (failed : itemFromBatch batch id = .error error) :
    c.selectFromBatch batch id = (.error error, c) := by
  rw [selectFromBatch, failed]

/-- The answer to a selection does not depend on the target that was there. -/
theorem selectFromBatch_fst (c : Context) (batch : Batch) (id : SystemId) :
    (c.selectFromBatch batch id).1 = itemFromBatch batch id := by
  cases selected : itemFromBatch batch id with
  | ok item => rw [selectFromBatch_of_ok c selected]
  | error error => rw [selectFromBatch_of_error c selected]

end Context

end Environments
