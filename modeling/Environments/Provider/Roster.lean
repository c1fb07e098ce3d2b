import Environments.Provider.Script

/-!
# Copies of scripted providers

Scripted providers are kept under handles and can be cloned. A clone starts with the script its origin
has at that moment; after that, each copy's script changes on its own. What copies of one origin
share for ever is their journal, the record of all calls made on any of them.
-/

namespace Environments

/-- A copy of a scripted provider: its own script, and the number of the journal it shares. -/
structure Copy where
  script : Script
  journal : Nat
  deriving DecidableEq, Repr

instance : Described Copy := ⟨(·.script.descriptor)⟩

/-- The copies at hand and the journals. A call without an account is recorded as `none`. -/
structure Roster where
  copies : List (String × Copy) := []
  journals : List (List (Option Developer)) := []
  deriving DecidableEq, Repr

namespace Roster

def copy? (r : Roster) (handle : String) : Option Copy :=
  r.copies.lookup handle

/-- Puts a copy under a handle, in place of the one that was there. -/
def put (r : Roster) (handle : String) (copy : Copy) : Roster :=
  { r with copies := (handle, copy) :: r.copies }

/-- A new provider, with an empty journal of its own. -/
def add (r : Roster) (handle : String) (script : Script) : Roster :=
  { r.put handle ⟨script, r.journals.length⟩ with journals := r.journals ++ [[]] }

/-- Changes the script of the copy under a handle. -/
def edit? (r : Roster) (handle : String) (change : Script → Script) : Option Roster := do
  let copy ← r.copy? handle
  return r.put handle { copy with script := change copy.script }

def clone? (r : Roster) (handle newHandle : String) : Option Roster := do
  let copy ← r.copy? handle
  return r.put newHandle copy

/-- Records a call in a journal. -/
def record (r : Roster) (journal : Nat) (developer : Option Developer) : Roster :=
  { r with journals := r.journals.modify journal (· ++ [developer]) }

def callsOf (r : Roster) (copy : Copy) : List (Option Developer) :=
  r.journals.getD copy.journal []

/-- All calls made so far on the copy under a handle and on the copies related to it. -/
def calls? (r : Roster) (handle : String) : Option (List (Option Developer)) :=
  (r.copy? handle).map r.callsOf

/-- Queries the copy under a handle: the call is recorded, and the script answers. -/
def query? (r : Roster) (handle : String) (developer : Option Developer) (options : String) :
    Option (Reply (Except QueryError QueryResult) × Roster) := do
  let copy ← r.copy? handle
  return (copy.script.reply developer options, r.record copy.journal developer)

end Roster

end Environments
