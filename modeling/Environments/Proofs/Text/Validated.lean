import Environments.ComputeSystem
import Environments.Proofs.Text.Trim

/-!
# Validated texts are canonical

`Validates` is what holds of a function that builds a value from a text: which texts it takes, what
it keeps of them, and how it refuses the others.  `Sets` is the same for a function that sets a field
which may be left out.  `texts_are_canonical` says that all checks of texts are of this kind, each with
a reason and perhaps a limit of its own.
-/

namespace Environments

open Environments.Text

/-- A text with more characters than the limit allows, if there is one. -/
def TooLong (limit : Option Nat) (t : String) : Prop :=
  ∃ most ∈ limit, most < t.length

/-- **A value is built from what a text comes to without the white space at its ends.** -/
structure Validates {α : Type} (build : String → Except InvalidValue α) (value : String → α)
    (missing : InvalidValue) (limit : Option Nat) : Prop where
  /-- The texts it can be built from hold something else than white space, and what such a text comes
  to is not too long. -/
  succeeds : ∀ s, (∃ v, build s = .ok v) ↔
    (∃ c ∈ s.toList, ¬IsWhiteSpace c) ∧ ∀ t, HasCore s t → ¬TooLong limit t
  /-- The value holds the core of the text, the only one there is; and from this core the same value
  is built. -/
  stores : ∀ s v, build s = .ok v → ∃ t, (∀ u, HasCore s u ↔ u = t) ∧ v = value t ∧ build t = .ok v
  /-- A text of white space is refused as missing, and of the others those whose core is too long, with
  the text as it was given. -/
  fails : ∀ s e, build s = .error e ↔ (∀ c ∈ s.toList, IsWhiteSpace c) ∧ e = missing ∨
    (∃ c ∈ s.toList, ¬IsWhiteSpace c) ∧ (∃ t, HasCore s t ∧ TooLong limit t) ∧
      e = .providerIdTooLong s

/-- **A field that may be left out is set to what a text comes to**, and cleared by a blank one.
`put` puts something into the field. -/
structure Sets {α : Type} (set : α → String → α) (put : α → Option String → α) : Prop where
  stores : ∀ v s, (∃ c ∈ s.toList, ¬IsWhiteSpace c) →
    ∃ t, (∀ u, HasCore s u ↔ u = t) ∧ set v s = put v (some t)
  clears : ∀ v s, (∀ c ∈ s.toList, IsWhiteSpace c) → set v s = put v none
  /-- Of several texts the last one decides, whatever the field held and was set to before. -/
  last : ∀ v before earlier s, List.foldl set (put v before) (earlier ++ [s]) = set v s

theorem exists_solid_iff {s : String} : (∃ c ∈ s.toList, ¬IsWhiteSpace c) ↔ trim s ≠ "" := by
  rw [ne_eq, trim_eq_empty_iff]
  simp

section

variable {α : Type} {build : String → Except InvalidValue α} {value : String → α}
  {missing : InvalidValue} {limit : Option Nat}

/-- What comes of a text that is checked: it is blank, or too long, or a value is built from it. -/
inductive Check (build : String → Except InvalidValue α) (value : String → α) (missing : InvalidValue)
    (limit : Option Nat) (s : String) : Prop
  | blank (empty : trim s = "") (result : build s = .error missing)
  | long (solid : trim s ≠ "") (beyond : TooLong limit (trim s))
    (result : build s = .error (.providerIdTooLong s))
  | fits (solid : trim s ≠ "") (within : ¬TooLong limit (trim s))
    (result : build s = .ok (value (trim s)))

theorem Check.exists_ok_iff {s : String} (h : Check build value missing limit s) :
    (∃ v, build s = .ok v) ↔ trim s ≠ "" ∧ ¬TooLong limit (trim s) := by
  cases h with
  | blank empty result => simp [result, empty]
  | long solid beyond result => simp [result, beyond]
  | fits solid within result => simp [result, solid, within]

theorem Check.eq_value {s : String} (h : Check build value missing limit s) {v : α}
    (built : build s = .ok v) : v = value (trim s) := by
  cases h with
  | blank _ result | long _ _ result =>
    rw [result] at built
    cases built
  | fits _ _ result =>
    rw [result] at built
    exact (Except.ok.inj built).symm

theorem Check.eq_error_iff {s : String} (h : Check build value missing limit s) (e : InvalidValue) :
    build s = .error e ↔ trim s = "" ∧ e = missing ∨
      trim s ≠ "" ∧ TooLong limit (trim s) ∧ e = .providerIdTooLong s := by
  cases h with
  | blank empty result => simp [result, empty, eq_comm]
  | long solid beyond result => simp [result, solid, beyond, eq_comm]
  | fits solid within result => simp [result, solid, within]

theorem Validates.of_check (check : ∀ s, Check build value missing limit s) :
    Validates build value missing limit := by
  refine ⟨fun s => ?_, fun s v built => ?_, fun s e => ?_⟩
  · rw [exists_solid_iff, (check s).exists_ok_iff]
    simp only [hasCore_iff, forall_eq']
  · refine ⟨trim s, fun u => hasCore_iff.trans eq_comm, (check s).eq_value built, ?_⟩
    -- What a text comes to passes the same checks, since trimming leaves it as it is.
    obtain ⟨solid, within⟩ := (check s).exists_ok_iff.mp ⟨v, built⟩
    obtain ⟨w, again⟩ := (check (trim s)).exists_ok_iff.mpr (by rw [trim_trim]; exact ⟨solid, within⟩)
    rw [again, (check (trim s)).eq_value again, (check s).eq_value built, trim_trim]
  · rw [(check s).eq_error_iff, exists_solid_iff, trim_eq_empty_iff]
    simp only [hasCore_iff, exists_eq_left']

/-- A text that only has to be there is taken at any length. -/
theorem validates_nonBlank (value : String → α) (missing : InvalidValue) :
    Validates (fun s => (nonBlank missing s).map value) value missing none := by
  refine .of_check fun s => ?_
  by_cases empty : trim s = ""
  · exact .blank empty (by rw [nonBlank, if_pos empty]; rfl)
  · have within : ¬TooLong none (trim s) := nofun
    exact .fits empty within (by rw [nonBlank, if_neg empty]; rfl)

theorem validates_providerId :
    Validates ProviderId.ofText (⟨·⟩) .emptyProviderId (some ProviderId.maxLength) := by
  refine .of_check fun s => ?_
  have limit_iff : TooLong (some ProviderId.maxLength) (trim s) ↔
      ProviderId.maxLength < (trim s).length := by
    simp [TooLong]
  by_cases empty : trim s = ""
  · exact .blank empty (by simp only [ProviderId.ofText, nonBlank, if_pos empty, bind, Except.bind])
  · have there : ProviderId.ofText s = if ProviderId.maxLength < (trim s).length then
        .error (.providerIdTooLong s) else .ok ⟨trim s⟩ := by
      simp only [ProviderId.ofText, nonBlank, if_neg empty, bind, Except.bind]
    by_cases beyond : ProviderId.maxLength < (trim s).length
    · exact .long empty (limit_iff.mpr beyond) (there.trans (if_pos beyond))
    · exact .fits empty (mt limit_iff.mp beyond) (there.trans (if_neg beyond))

/-- A field is set this way where nothing is left of what was put into it before. -/
theorem sets_trimToOption (put : α → Option String → α)
    (again : ∀ v first second, put (put v first) second = put v second) :
    Sets (fun v s => put v (trimToOption s)) put := by
  refine ⟨fun v s solid => ?_, fun v s blank => ?_, fun v before earlier s => ?_⟩
  · refine ⟨trim s, fun u => hasCore_iff.trans eq_comm, ?_⟩
    show put v (trimToOption s) = put v (some (trim s))
    rw [trimToOption, if_neg (exists_solid_iff.mp solid)]
  · show put v (trimToOption s) = put v none
    rw [trimToOption, if_pos (trim_eq_empty_iff.mpr blank)]
  · induction earlier generalizing before with
    | nil => exact again v before (trimToOption s)
    | cons first earlier ih =>
      rw [List.cons_append, List.foldl_cons, again]
      exact ih (trimToOption first)

end

/-- **Validated texts are canonical.** Identifiers, logins, names and diagnostics are built from
what the given text comes to without the white space at its ends, which is one text and comes to itself;
a text of white space alone is refused, for each of them with a reason of its own.  Only the identifier
of a provider has a limit, of 256 characters.  An address and a second label are set to what the last
given text comes to, and a blank one leaves them out. -/
theorem texts_are_canonical :
    Validates ProviderId.ofText (⟨·⟩) .emptyProviderId (some 256) ∧
    Validates SystemId.ofText (⟨·⟩) .emptySystemId none ∧
    Validates Developer.ofLogin (⟨·, none⟩) .emptyLogin none ∧
    (∀ id, Validates (Descriptor.ofName id) (⟨id, ·, .empty⟩) .emptyDisplayName none) ∧
    (∀ id provider, Validates (ComputeSystem.ofName id · provider) (⟨id, ·, none, provider, .empty⟩)
      .emptySystemName none) ∧
    (∀ code, Validates (QueryResult.ofDiagnostic · code) (.failure · code) .emptyDiagnostic none) ∧
    Sets Developer.withUrl (fun d url => { d with url := url }) ∧
    Sets ComputeSystem.withAlternativeName (fun s label => { s with alternativeName := label }) :=
  ⟨validates_providerId, validates_nonBlank _ _, validates_nonBlank _ _, fun _ => validates_nonBlank _ _,
    fun _ _ => validates_nonBlank _ _, fun _ => validates_nonBlank _ _,
    sets_trimToOption (fun (d : Developer) url => { d with url := url }) fun _ _ _ => rfl,
    sets_trimToOption (fun (s : ComputeSystem) label => { s with alternativeName := label })
      fun _ _ _ => rfl⟩

/-- A space of no width is no white space, so it stays; the wide one and the end of the line go. -/
example : ProviderId.ofText "\u3000\u200Ba b\n" = .ok ⟨"\u200Ba b"⟩ := by rfl

end Environments
