import Environments.Directory
import Mathlib.Data.List.Basic
import Mathlib.Data.List.Induction
import Mathlib.Data.List.Nodup

/-!
# The entries of a directory and their history

A registration puts an entry at the end of the directory, or in the place of the entry with its
identifier: `Entry.Enters` is what it does to the list, and `enters_putInto` says that it does so.

`Tells` is what a directory shows of the registrations and failures it was given: each identifier once,
in the order of its first registration, with the entry of its last one, and the last failure.
`tells_performAll` says that every directory that is not damaged shows this.  A damaged one refuses
everything and keeps what it had.
-/

namespace Environments

variable {π : Type} [Described π]

namespace Entry

/-- **How an entry comes into a list**: at the end if its identifier is new, and else in the place of the
entry with its identifier, while all others stay. -/
inductive Enters (e : Entry π) : List (Entry π) → List (Entry π) → Prop
  | last {entries : List (Entry π)} (new : ∀ old ∈ entries, old.id ≠ e.id) :
    Enters e entries (entries ++ [e])
  | inPlace (before after : List (Entry π)) {old : Entry π} (same : old.id = e.id)
    (others : ∀ other ∈ before ++ after, other.id ≠ e.id) :
    Enters e (before ++ old :: after) (before ++ e :: after)

variable {e : Entry π} {entries entries' : List (Entry π)}

/-- An entry is put into a list as it has to come into it. -/
theorem enters_putInto (e : Entry π) (ids : (entries.map Entry.id).Nodup) :
    e.Enters entries (e.putInto entries) := by
  induction entries with
  | nil => exact .last nofun
  | cons old rest ih =>
    rw [List.map_cons, List.nodup_cons] at ids
    by_cases same : old.id = e.id
    · rw [putInto, if_pos same]
      refine .inPlace [] rest same fun other member here => ids.1 ?_
      exact List.mem_map.mpr ⟨other, member, here.trans same.symm⟩
    · rw [putInto, if_neg same]
      have later := ih ids.2
      generalize e.putInto rest = rest' at later ⊢
      cases later with
      | last new => exact .last (List.forall_mem_cons.mpr ⟨same, new⟩)
      | inPlace before after there others =>
        exact .inPlace (old :: before) after there (List.forall_mem_cons.mpr ⟨same, others⟩)

theorem map_id_putInto (e : Entry π) (entries : List (Entry π)) :
    (e.putInto entries).map Entry.id =
      if e.id ∈ entries.map Entry.id then entries.map Entry.id else entries.map Entry.id ++ [e.id] := by
  induction entries with
  | nil => rfl
  | cons old rest ih =>
    by_cases same : old.id = e.id
    · simp [Entry.putInto, same]
    · rw [Entry.putInto, if_neg same, List.map_cons, ih]
      by_cases later : e.id ∈ rest.map Entry.id
      · rw [if_pos later, List.map_cons, if_pos (List.mem_cons_of_mem _ later)]
      · have absent : e.id ∉ old.id :: rest.map Entry.id :=
          fun member => (List.mem_cons.mp member).elim (fun here => same here.symm) later
        rw [if_neg later, List.map_cons, if_neg absent, List.cons_append]

theorem nodup_putInto (e : Entry π) (ids : (entries.map Entry.id).Nodup) :
    ((e.putInto entries).map Entry.id).Nodup := by
  rw [map_id_putInto]
  split
  · exact ids
  · rename_i new
    exact (List.nodup_cons.mpr ⟨new, ids⟩).perm (List.perm_append_singleton _ _).symm

/-- What is in the list then is the entry, and those of the others that have other identifiers. -/
theorem Enters.mem_iff (h : e.Enters entries entries') {other : Entry π} :
    other ∈ entries' ↔ other = e ∨ other ∈ entries ∧ other.id ≠ e.id := by
  cases h with
  | last new =>
    rw [List.mem_append, List.mem_singleton, or_comm]
    exact or_congr_right (and_iff_left_of_imp (new other)).symm
  | inPlace before after same others =>
    have new := others other
    simp only [List.mem_append, List.mem_cons] at new ⊢
    constructor
    · rintro (there | rfl | there)
      · exact Or.inr ⟨Or.inl there, new (Or.inl there)⟩
      · exact Or.inl rfl
      · exact Or.inr ⟨Or.inr (Or.inr there), new (Or.inr there)⟩
    · rintro (rfl | ⟨there | rfl | there, apart⟩)
      · exact Or.inr (Or.inl rfl)
      · exact Or.inl there
      · exact absurd same apart
      · exact Or.inr (Or.inr there)

end Entry

namespace Directory

/-- Something that is done with a directory. -/
inductive Operation (π : Type)
  | register (entry : Entry π)
  | failWith (failure : DirectoryError)

def Operation.entry? : Operation π → Option (Entry π)
  | .register entry => some entry
  | .failWith _ => none

def Operation.failure? : Operation π → Option DirectoryError
  | .register _ => none
  | .failWith failure => some failure

/-- What an operation comes to. -/
def attempt (d : Directory π) : Operation π → Except DirectoryError (Directory π)
  | .register entry => d.register entry
  | .failWith failure => d.failWith failure

/-- Makes an operation. What is refused changes nothing. -/
def perform (d : Directory π) (operation : Operation π) : Directory π :=
  match d.attempt operation with
  | .ok after => after
  | .error _ => d

def performAll (d : Directory π) (operations : List (Operation π)) : Directory π :=
  operations.foldl perform d

/-- **What a directory shows of its history**, the registrations and the failures it was given. -/
structure Tells (registrations : List (Entry π)) (failures : List DirectoryError)
    (d : Directory π) : Prop where
  ids : (d.entries.map Entry.id).Nodup
  /-- The entries stand in the order in which their identifiers were first registered. -/
  order : (d.entries.map Entry.id).Pairwise fun a b =>
    (registrations.map Entry.id).idxOf a < (registrations.map Entry.id).idxOf b
  /-- What is there is, for each identifier, the last registration with it. -/
  entry : ∀ e, e ∈ d.entries ↔ (registrations.findRev? fun other => other.id = e.id) = some e
  failure : d.failure = failures.getLast?

namespace Tells

variable {registrations : List (Entry π)} {failures : List DirectoryError} {d : Directory π}

theorem empty : Tells [] [] ({} : Directory π) :=
  ⟨.nil, .nil, fun _ => ⟨nofun, nofun⟩, rfl⟩

theorem mem_ids_iff (h : Tells registrations failures d) {id : ProviderId} :
    id ∈ d.entries.map Entry.id ↔ id ∈ registrations.map Entry.id := by
  constructor
  · intro member
    obtain ⟨e, there, rfl⟩ := List.mem_map.mp member
    have last := (h.entry e).mp there
    rw [List.findRev?_eq_find?_reverse] at last
    exact List.mem_map_of_mem (List.mem_reverse.mp (List.mem_of_find?_eq_some last))
  · intro member
    obtain ⟨e, there, rfl⟩ := List.mem_map.mp member
    cases last : registrations.findRev? fun other => other.id = e.id with
    | none =>
      rw [List.findRev?_eq_find?_reverse, List.find?_eq_none] at last
      exact absurd (decide_eq_true rfl) (last e (List.mem_reverse.mpr there))
    | some other =>
      have same : other.id = e.id := by
        rw [List.findRev?_eq_find?_reverse] at last
        simpa using List.find?_some last
      rw [← same] at last ⊢
      exact List.mem_map_of_mem ((h.entry other).mpr last)

theorem register (h : Tells registrations failures d) (e : Entry π) :
    Tells (registrations ++ [e]) failures { d with entries := e.putInto d.entries } where
  ids := Entry.nodup_putInto e h.ids
  failure := h.failure
  order := by
    have earlier : ∀ {a}, a ∈ d.entries.map Entry.id →
        ((registrations ++ [e]).map Entry.id).idxOf a = (registrations.map Entry.id).idxOf a := by
      intro a member
      rw [List.map_append, List.idxOf_append_of_mem (h.mem_ids_iff.mp member)]
    have kept : (d.entries.map Entry.id).Pairwise fun a b =>
        ((registrations ++ [e]).map Entry.id).idxOf a <
          ((registrations ++ [e]).map Entry.id).idxOf b :=
      h.order.imp_of_mem fun a_member b_member less => by
        rwa [earlier a_member, earlier b_member]
    rw [Entry.map_id_putInto]
    split
    · exact kept
    · rename_i new
      refine List.pairwise_append.mpr ⟨kept, List.pairwise_singleton _ _, fun a member b here => ?_⟩
      -- A new identifier has its first registration after all others.
      rw [List.mem_singleton.mp here, earlier member, List.map_append,
        List.idxOf_append_of_notMem (mt h.mem_ids_iff.mpr new)]
      exact Nat.lt_add_right _ (List.idxOf_lt_length_of_mem (h.mem_ids_iff.mp member))
  entry := by
    intro other
    rw [(e.enters_putInto h.ids).mem_iff, h.entry other, List.findRev?_eq_find?_reverse,
      List.findRev?_eq_find?_reverse, List.reverse_concat, List.find?_cons]
    by_cases same : e.id = other.id
    · simp only [same, decide_true, ne_eq, not_true_eq_false, and_false, or_false,
        Option.some.injEq]
      exact eq_comm
    · have apart : other ≠ e := fun here => same (congrArg Entry.id here.symm)
      simp only [same, decide_false, apart, false_or, ne_eq, Ne.symm same, not_false_eq_true,
        and_true]

theorem failWith (h : Tells registrations failures d) (failure : DirectoryError) :
    Tells registrations (failures ++ [failure]) { d with failure := some failure } :=
  ⟨h.ids, h.order, h.entry, by simp⟩

end Tells

/-- **A directory that is not damaged shows what was done with it.** -/
theorem tells_performAll (operations : List (Operation π)) :
    (performAll {} operations).damaged = false ∧
      Tells (operations.filterMap Operation.entry?) (operations.filterMap Operation.failure?)
        (performAll {} operations) := by
  induction operations using List.reverseRecOn with
  | nil => exact ⟨rfl, .empty⟩
  | append_singleton operations operation ih =>
    obtain ⟨sane, tells⟩ := ih
    rw [performAll, List.foldl_append, List.filterMap_append, List.filterMap_append]
    change (perform (performAll {} operations) operation).damaged = false ∧ Tells _ _
      (perform (performAll {} operations) operation)
    generalize performAll {} operations = d at sane tells ⊢
    cases operation with
    | register e =>
      have done : d.perform (.register e) = { d with entries := e.putInto d.entries } := by
        simp [perform, attempt, Directory.register, unlessDamaged, sane]
      rw [done]
      exact ⟨sane, by simpa only [List.filterMap_cons, List.filterMap_nil, Operation.entry?,
        Operation.failure?, List.append_nil] using tells.register e⟩
    | failWith failure =>
      have done : d.perform (.failWith failure) = { d with failure := some failure } := by
        simp [perform, attempt, Directory.failWith, unlessDamaged, sane]
      rw [done]
      exact ⟨sane, by simpa only [List.filterMap_cons, List.filterMap_nil, Operation.entry?,
        Operation.failure?, List.append_nil] using tells.failWith failure⟩

omit [Described π] in
theorem providers_of_sane {d : Directory π} (sane : d.damaged = false) :
    d.providers = d.failure.elim (.ok d.entries) .error := by
  rw [providers, unlessDamaged, sane, if_neg Bool.false_ne_true]
  cases d.failure <;> rfl

omit [Described π] in
/-- Where a directory lists its entries, it lists all of them, however they are seen. -/
theorem seen_eq {ρ : Type} {see : π → ρ} {d : Directory π} {found : List (Entry ρ)}
    (listed : d.providers.map (·.map (Entry.map see)) = .ok found) :
    found = d.entries.map (Entry.map see) := by
  rw [providers, unlessDamaged] at listed
  split at listed
  · cases listed
  · split at listed
    · cases listed
    · exact (Except.ok.inj listed).symm

/-- **A damaged directory refuses everything and keeps what it had.** -/
theorem refused_of_damaged {d : Directory π} (damaged : d.damaged = true) :
    (∀ operation, d.attempt operation = .error .damaged) ∧ d.providers = .error .damaged := by
  refine ⟨fun operation => ?_, by rw [providers, unlessDamaged, damaged, if_pos rfl]⟩
  cases operation with
  | register e => rw [attempt, register, unlessDamaged, damaged, if_pos rfl]
  | failWith failure => rw [attempt, failWith, unlessDamaged, damaged, if_pos rfl]

theorem performAll_of_damaged {d : Directory π} (damaged : d.damaged = true)
    (operations : List (Operation π)) : d.performAll operations = d := by
  induction operations with
  | nil => rfl
  | cons operation later ih =>
    rw [performAll, List.foldl_cons, perform, (refused_of_damaged damaged).1]
    exact ih

end Directory

end Environments
