import Environments.Provider.Query

/-!
# The directory

The directory lists the providers to ask, each with the accounts to ask it for, in the order in which
they were first registered. It can be made to fail, and it can be damaged: a registration that breaks
down half-way leaves a directory that answers nothing any more.
-/

namespace Environments

/-- Why the providers cannot be listed. -/
inductive DirectoryError
  | activation (extension reason : String)
  | discovery (reason : String)
  deriving DecidableEq, Repr

def DirectoryError.message : DirectoryError → String
  | .activation extension reason =>
    "failed to activate provider extension " ++ extension ++ ": " ++ reason
  | .discovery reason => "provider discovery failed: " ++ reason

/-- How a damaged directory answers. -/
def DirectoryError.damaged : DirectoryError :=
  .discovery "poisoned lock: another task failed inside"

/-- A provider, with the accounts to ask it for, in the order of asking. -/
structure Entry (π : Type) where
  provider : π
  developers : List Developer
  deriving DecidableEq, Repr

namespace Entry

variable {π ρ : Type}

/-- The entry with its provider seen in another way. -/
def map (f : π → ρ) (e : Entry π) : Entry ρ := ⟨f e.provider, e.developers⟩

def descriptor [Described π] (e : Entry π) : Descriptor := Described.descriptor e.provider

def id [Described π] (e : Entry π) : ProviderId := e.descriptor.id

/-- Puts an entry into a list: in the place of the entry with its identifier, or else at the end. -/
def putInto [Described π] (e : Entry π) : List (Entry π) → List (Entry π)
  | [] => [e]
  | old :: rest => if old.id = e.id then e :: rest else old :: e.putInto rest

/-- The accounts of an entry as they are shown in a diagnostic. -/
def showDeveloper (d : Developer) : String :=
  "DeveloperId \x7b login_id: " ++ Text.quoted d.login ++ ", url: " ++
    (match d.url with
    | none => "None"
    | some url => "Some(" ++ Text.quoted url ++ ")") ++ " \x7d"

/-- An entry as it is shown in a diagnostic: the provider by its identifier, the accounts in full. -/
def debugText [Described π] (e : Entry π) : String :=
  "ProviderEntry \x7b provider: ProviderId(" ++ Text.quoted e.id.text ++ "), developer_ids: [" ++
    String.intercalate ", " (e.developers.map showDeveloper) ++ "] \x7d"

end Entry

/-- The directory: its entries, the failure it was told to answer with, and whether it is damaged. -/
structure Directory (π : Type) where
  entries : List (Entry π) := []
  failure : Option DirectoryError := none
  damaged : Bool := false
  deriving DecidableEq, Repr

namespace Directory

variable {π : Type}

/-- Does something with a directory that is not damaged. -/
def unlessDamaged {α : Type} (d : Directory π) (result : Except DirectoryError α) :
    Except DirectoryError α :=
  if d.damaged then .error .damaged else result

/-- Registers a provider with the accounts to ask it for, in place of the one with its identifier. -/
def register [Described π] (d : Directory π) (e : Entry π) : Except DirectoryError (Directory π) :=
  d.unlessDamaged (.ok { d with entries := e.putInto d.entries })

/-- Lets all later look-ups fail. -/
def failWith (d : Directory π) (failure : DirectoryError) : Except DirectoryError (Directory π) :=
  d.unlessDamaged (.ok { d with failure := some failure })

/-- A registration that breaks down half-way: nothing is registered, and the directory is damaged. -/
def damage (d : Directory π) : Except DirectoryError (Directory π) :=
  d.unlessDamaged (.ok { d with damaged := true })

def providers (d : Directory π) : Except DirectoryError (List (Entry π)) :=
  d.unlessDamaged (match d.failure with
    | some failure => .error failure
    | none => .ok d.entries)

end Directory

end Environments
