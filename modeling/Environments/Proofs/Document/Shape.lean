import Environments.Document.Basic
import Mathlib.Data.List.Forall2
import Mathlib.Data.List.Perm.Basic

/-!
# The shapes and the spellings of records

A record has fields, and a `Field` says which documents may stand in it.  `Respelled` are the
documents that spell a record: objects with the fields in any order, with other fields among them
and without those that may be left out, and lists of the values.  `Fits` are the documents in which
each field is found as it has to be, as `fits_iff` says.  A spelling fits, `Respelled.fits`, and a
form with a tag is a record whose first field is the tag, `fits_tag_iff`.

`ReadsByMeaning` puts the two sides together: all spellings of a value are read as that value, and
what has not the shape is not read at all.
-/

namespace Environments.Document

/-! ### Fields -/

/-- A field of a record: which documents it takes, and whether an object may be without it. -/
structure Field where
  name : String
  takes : Document → Prop
  mayMiss : Prop

namespace Field

/-- Whether what is found for a field is as it has to be. -/
def Holds (f : Field) : Option Document → Prop
  | some d => f.takes d
  | none => f.mayMiss

def required (name : String) (takes : Document → Prop) : Field := ⟨name, takes, False⟩

theorem holds_required_iff {name : String} {takes : Document → Prop} {found : Option Document} :
    (required name takes).Holds found ↔ ∃ d, found = some d ∧ takes d := by
  cases found <;> simp [Holds, required]

/-- A field for a value that may be absent: absence is null, or no field. -/
def optional {α : Type} (name : String) (spells : α → Document → Prop) (value : Option α) : Field :=
  ⟨name, fun d => (value = none ∧ d = null) ∨ ∃ a, value = some a ∧ spells a d, value = none⟩

/-- A field for anything of a shape, or for its absence. -/
def nullable (name : String) (shape : Document → Prop) : Field :=
  ⟨name, fun d => d = null ∨ shape d, True⟩

/-- The field that names the form of a value. -/
def tag (name form : String) : Field := required name (· = text form)

end Field

/-! ### Records -/

/-- Entries of an object for the fields, in their order.  One that may be missing may be left out. -/
inductive Entries : List Field → List (String × Document) → Prop
  | nil : Entries [] []
  | keep {f : Field} {fields : List Field} {d : Document} {entries : List (String × Document)}
    (takes : f.takes d) (later : Entries fields entries) :
    Entries (f :: fields) ((f.name, d) :: entries)
  | leaveOut {f : Field} {fields : List Field} {entries : List (String × Document)}
    (mayMiss : f.mayMiss) (later : Entries fields entries) : Entries (f :: fields) entries

/-- **The spellings of a record**: an object with entries for its fields and others, in any order and
each name once, or the list of what stands in the fields. -/
inductive Respelled (fields : List Field) : Document → Prop
  | object {kept others entries : List (String × Document)} (written : Entries fields kept)
    (foreign : ∀ entry ∈ others, entry.1 ∉ fields.map Field.name)
    (order : entries.Perm (kept ++ others)) (distinct : (entries.map Prod.fst).Nodup) :
    Respelled fields (.object entries)
  | list {items : List Document} (each : List.Forall₂ Field.takes fields items) :
    Respelled fields (.list items)

/-- **The shape of a record**: an object in which each field is as it has to be, or a list of just
what the fields take. -/
inductive Fits (fields : List Field) : Document → Prop
  | object {entries : List (String × Document)}
    (each : ∀ f ∈ fields, f.Holds (entries.lookup f.name)) : Fits fields (.object entries)
  | list {items : List Document} (each : List.Forall₂ Field.takes fields items) :
    Fits fields (.list items)

variable {fields : List Field} {d : Document}

/-! ### Looking up a field -/

theorem lookup_of_mem {entries : List (String × Document)} (distinct : (entries.map Prod.fst).Nodup)
    {name : String} (member : (name, d) ∈ entries) : entries.lookup name = some d := by
  induction entries with
  | nil => cases member
  | cons entry entries ih =>
    obtain ⟨absent, distinct⟩ := List.nodup_cons.mp distinct
    rw [List.lookup_cons]
    rcases List.mem_cons.mp member with rfl | later
    · rw [beq_self_eq_true]
    · have different : (name == entry.1) = false := by
        refine beq_false_of_ne ?_
        rintro rfl
        exact absent (List.mem_map.mpr ⟨_, later, rfl⟩)
      rw [different]
      exact ih distinct later

theorem lookup_eq_none {entries : List (String × Document)} {name : String}
    (absent : name ∉ entries.map Prod.fst) : entries.lookup name = none := by
  refine List.lookup_eq_none_iff.mpr fun entry member => bne_iff_ne.mpr ?_
  rintro rfl
  exact absent (List.mem_map_of_mem member)

theorem Entries.sublist {entries : List (String × Document)} (written : Entries fields entries) :
    (entries.map Prod.fst).Sublist (fields.map Field.name) := by
  induction written with
  | nil => exact .slnil
  | keep _ _ ih => exact ih.cons_cons _
  | leaveOut _ _ ih => exact ih.cons _

/-- In the entries for fields of different names each field is found as it has to be. -/
theorem Entries.holds {entries : List (String × Document)} (written : Entries fields entries)
    (different : (fields.map Field.name).Nodup) :
    ∀ f ∈ fields, (∃ d, (f.name, d) ∈ entries ∧ f.takes d) ∨
      (f.mayMiss ∧ f.name ∉ entries.map Prod.fst) := by
  induction written with
  | nil => nofun
  | @keep f fields d entries takes later ih =>
    obtain ⟨absent, different⟩ := List.nodup_cons.mp different
    intro g member
    rcases List.mem_cons.mp member with rfl | member
    · exact Or.inl ⟨d, List.mem_cons_self, takes⟩
    · refine (ih different g member).imp ?_ ?_
      · rintro ⟨d, there, takes⟩
        exact ⟨d, List.mem_cons_of_mem _ there, takes⟩
      · rintro ⟨mayMiss, none⟩
        refine ⟨mayMiss, ?_⟩
        rw [List.map_cons, List.mem_cons, not_or]
        exact ⟨fun same => absent (List.mem_map.mpr ⟨g, member, same⟩), none⟩
  | @leaveOut f fields entries mayMiss later ih =>
    obtain ⟨absent, different⟩ := List.nodup_cons.mp different
    intro g member
    rcases List.mem_cons.mp member with rfl | member
    · exact Or.inr ⟨mayMiss, fun there => absent (later.sublist.subset there)⟩
    · exact ih different g member

theorem Respelled.fits (spelled : Respelled fields d) (different : (fields.map Field.name).Nodup) :
    Fits fields d := by
  cases spelled with
  | list each => exact .list each
  | @object kept others entries written foreign order distinct =>
    refine .object fun f member => ?_
    rcases written.holds different f member with ⟨d, there, takes⟩ | ⟨mayMiss, none⟩
    · have found : (f.name, d) ∈ entries := order.mem_iff.mpr (List.mem_append_left others there)
      rw [lookup_of_mem distinct found]
      exact takes
    · have absent : f.name ∉ entries.map Prod.fst := by
        rw [(order.map Prod.fst).mem_iff, List.map_append, List.mem_append, not_or]
        refine ⟨none, fun other => ?_⟩
        obtain ⟨entry, there, same⟩ := List.mem_map.mp other
        exact foreign entry there (same ▸ List.mem_map_of_mem member)
      rw [lookup_eq_none absent]
      exact mayMiss

theorem respelled_object (names : List String) (different : names.Nodup)
    (named : fields.map Field.name = names)
    (values : ∃ values, d = object (names.zip values) ∧ List.Forall₂ Field.takes fields values) :
    Respelled fields d := by
  obtain ⟨values, rfl, takes⟩ := values
  subst named
  have written : Entries fields ((fields.map Field.name).zip values) := by
    clear different
    induction takes with
    | nil => exact .nil
    | cons takes _ ih => exact .keep takes ih
  have noOthers : ∀ entry ∈ ([] : List (String × Document)), entry.1 ∉ fields.map Field.name := nofun
  exact .object written noOthers (by simp) (written.sublist.nodup different)

/-! ### Reading fields -/

theorem fits_iff : Fits fields d ↔ ∃ found, fields? (fields.map Field.name) d = some found ∧
    List.Forall₂ Field.Holds fields found := by
  constructor
  · intro fits
    cases fits with
    | object each =>
      refine ⟨_, rfl, ?_⟩
      rw [List.map_map, List.forall₂_map_right_iff, List.forall₂_same]
      exact each
    | @list items each =>
      have length : items.length = (fields.map Field.name).length := by
        rw [List.length_map, each.length_eq]
      refine ⟨items.map some, by rw [fields?, if_pos length], ?_⟩
      rw [List.forall₂_map_right_iff]
      exact each
  · rintro ⟨found, reads, holds⟩
    unfold fields? at reads
    split at reads
    · rw [← Option.some.inj reads, List.map_map, List.forall₂_map_right_iff,
        List.forall₂_same] at holds
      exact .object holds
    · split at reads
      · rw [← Option.some.inj reads, List.forall₂_map_right_iff] at holds
        exact .list holds
      · cases reads
    · cases reads

theorem fits_tag_iff {tag form : String} : Fits (Field.tag tag form :: fields) d ↔
    ∃ rest, form? tag d = some (form, rest) ∧ Fits fields rest := by
  constructor
  · intro fits
    cases fits with
    | @object entries each =>
      obtain ⟨tagged, each⟩ := List.forall_mem_cons.mp each
      obtain ⟨_, found, rfl⟩ := Field.holds_required_iff.mp tagged
      have found : entries.lookup tag = some (text form) := found
      exact ⟨object entries, by rw [form?, found], .object each⟩
    | list each =>
      cases each with
      | cons tagged each =>
        cases tagged
        exact ⟨_, rfl, .list each⟩
  · rintro ⟨rest, reads, fits⟩
    unfold form? at reads
    split at reads
    · split at reads
      · rename_i entries _ _ found
        cases reads
        cases fits with
        | object each =>
          have tagged : (Field.tag tag form).Holds (entries.lookup tag) :=
            Field.holds_required_iff.mpr ⟨text form, found, rfl⟩
          exact .object (List.forall_mem_cons.mpr ⟨tagged, each⟩)
      · cases reads
    · cases reads
      cases fits with
      | list each => exact .list (.cons rfl each)
    · cases reads

/-- The fields of a form are found in every spelling of it, next to its tag. -/
theorem Respelled.form {tag form : String} (spelled : Respelled (Field.tag tag form :: fields) d)
    (names : List String) (different : (tag :: names).Nodup)
    (named : fields.map Field.name = names) :
    ∃ rest found, form? tag d = some (form, rest) ∧ fields? names rest = some found ∧
      List.Forall₂ Field.Holds fields found := by
  subst named
  obtain ⟨rest, reads, fits⟩ := fits_tag_iff.mp (spelled.fits different)
  obtain ⟨found, fields, holds⟩ := fits_iff.mp fits
  exact ⟨rest, found, reads, fields, holds⟩

theorem fits_of_form {tag form : String} {rest : Document} {found : List (Option Document)}
    (tagged : form? tag d = some (form, rest))
    (reads : fields? (fields.map Field.name) rest = some found)
    (holds : List.Forall₂ Field.Holds fields found) : Fits (Field.tag tag form :: fields) d :=
  fits_tag_iff.mpr ⟨rest, tagged, fits_iff.mpr ⟨found, reads, holds⟩⟩

/-! ### Reading by meaning -/

/-- **Reading goes by meaning alone.**  The written form of a value that can be stored is one of its
spellings, every spelling of it is read as that value, and a document of any other shape than the
values have is not read. -/
structure ReadsByMeaning {α : Type} (write : α → Document) (read : Document → Option α)
    (spells : α → Document → Prop) (shape : Document → Prop) (storable : α → Prop := fun _ => True) :
    Prop where
  written : ∀ v, storable v → spells v (write v)
  decoded : ∀ v d, storable v → spells v d → read d = some v
  refused : ∀ d, ¬shape d → read d = none

theorem eq_none_of_shaped {α : Type} {read : Document → Option α} {shape : Document → Prop}
    (shaped : ∀ v d, read d = some v → shape d) : ∀ d, ¬shape d → read d = none := by
  intro d other
  by_contra some
  obtain ⟨v, reads⟩ := Option.ne_none_iff_exists'.mp some
  exact other (shaped v d reads)

namespace ReadsByMeaning

variable {α : Type} {write : α → Document} {read : Document → Option α}
  {spells : α → Document → Prop} {shape : Document → Prop} {storable : α → Prop}

theorem shaped (codec : ReadsByMeaning write read spells shape storable) {v : α}
    (reads : read d = some v) : shape d := by
  by_contra other
  rw [codec.refused d other] at reads
  cases reads

theorem requiredField_eq_some (codec : ReadsByMeaning write read spells shape storable)
    {name : String} {v : α} {found : Option Document}
    (holds : (Field.required name (spells v)).Holds found) (known : storable v) :
    requiredField read found = some v := by
  obtain ⟨d, rfl, spelled⟩ := Field.holds_required_iff.mp holds
  exact codec.decoded v d known spelled

theorem holds_required (codec : ReadsByMeaning write read spells shape storable) {v : α}
    {found : Option Document} (reads : requiredField read found = some v) (name : String) :
    (Field.required name shape).Holds found := by
  obtain ⟨d, rfl, reads⟩ := Option.bind_eq_some_iff.mp reads
  exact codec.shaped reads

theorem optionalField_some {d : Document} (present : d ≠ .null) :
    optionalField read (some d) = (read d).map some := by
  cases d with
  | null => exact absurd rfl present
  | _ => rfl

theorem optionalField_eq_some (codec : ReadsByMeaning write read spells shape)
    (null : read null = none) {name : String} {value : Option α} {found : Option Document}
    (holds : (Field.optional name spells value).Holds found) :
    optionalField read found = some value := by
  cases found with
  | none =>
    have absent : value = none := holds
    rw [absent]
    rfl
  | some d =>
    rcases holds with ⟨rfl, rfl⟩ | ⟨a, rfl, spelled⟩
    · rfl
    · have reads := codec.decoded a d trivial spelled
      have present : d ≠ .null := by
        rintro rfl
        rw [null] at reads
        cases reads
      rw [optionalField_some present, reads]
      rfl

theorem holds_nullable (codec : ReadsByMeaning write read spells shape storable) {value : Option α}
    {found : Option Document} (reads : optionalField read found = some value) (name : String) :
    (Field.nullable name shape).Holds found := by
  unfold optionalField at reads
  split at reads
  · trivial
  · exact Or.inl rfl
  · obtain ⟨a, reads, _⟩ := Option.map_eq_some_iff.mp reads
    exact Or.inr (codec.shaped reads)

theorem takes_ofOption (codec : ReadsByMeaning write read spells shape) (name : String)
    (value : Option α) : (Field.optional name spells value).takes (ofOption write value) := by
  cases value with
  | none => exact Or.inl ⟨rfl, rfl⟩
  | some a => exact Or.inr ⟨a, rfl, codec.written a trivial⟩

/-! #### Lists -/

theorem shaped_of_mapM (codec : ReadsByMeaning write read spells shape storable)
    {items : List Document} {values : List α} (reads : items.mapM read = some values) :
    ∀ item ∈ items, shape item := by
  induction items generalizing values with
  | nil => nofun
  | cons item items ih =>
    rw [List.mapM_cons] at reads
    obtain ⟨v, first, reads⟩ := Option.bind_eq_some_iff.mp reads
    obtain ⟨rest, later, _⟩ := Option.bind_eq_some_iff.mp reads
    exact List.forall_mem_cons.mpr ⟨codec.shaped first, ih later⟩

end ReadsByMeaning

/-- The lists with so many items, each of them a spelling of its value. -/
def Each {α : Type} (spells : α → Document → Prop) (values : List α) (d : Document) : Prop :=
  ∃ items, d = list items ∧ List.Forall₂ spells values items

/-- The lists of items of a shape. -/
def IsListOf (shape : Document → Prop) (d : Document) : Prop :=
  ∃ items, d = list items ∧ ∀ item ∈ items, shape item

/-- A record is read by meaning if it is, given what is found for its fields. -/
theorem ReadsByMeaning.ofRecord {α : Type} {write : α → Document} {read : Document → Option α}
    {fields : α → List Field} {shape : List Field} {storable : α → Prop} (names : List String)
    (different : names.Nodup) (named : ∀ v, (fields v).map Field.name = names)
    (alike : shape.map Field.name = names)
    (written : ∀ v, storable v →
      ∃ values, write v = object (names.zip values) ∧ List.Forall₂ Field.takes (fields v) values)
    (decoded : ∀ v d found, storable v → fields? names d = some found →
      List.Forall₂ Field.Holds (fields v) found → read d = some v)
    (shaped : ∀ v d, read d = some v →
      ∃ found, fields? names d = some found ∧ List.Forall₂ Field.Holds shape found) :
    ReadsByMeaning write read (fun v => Respelled (fields v)) (Fits shape) storable where
  written v known := respelled_object names different (named v) (written v known)
  decoded v d known spelled := by
    obtain ⟨found, reads, holds⟩ := fits_iff.mp (spelled.fits (named v ▸ different))
    exact decoded v d found known (named v ▸ reads) holds
  refused := eq_none_of_shaped fun v d reads => fits_iff.mpr (alike ▸ shaped v d reads)

theorem ReadsByMeaning.ofList {α : Type} {write : α → Document} {read : Document → Option α}
    {spells : α → Document → Prop} {shape : Document → Prop} {storable : α → Prop}
    (codec : ReadsByMeaning write read spells shape storable) :
    ReadsByMeaning (Document.ofList write) (list? read) (Each spells) (IsListOf shape)
      (fun values => ∀ v ∈ values, storable v) where
  written values known := by
    refine ⟨values.map write, rfl, ?_⟩
    rw [List.forall₂_map_right_iff, List.forall₂_same]
    exact fun v member => codec.written v (known v member)
  decoded values d known spelled := by
    obtain ⟨items, rfl, each⟩ := spelled
    change items.mapM read = some values
    induction each with
    | nil => rfl
    | @cons v item values items spelled each ih =>
      obtain ⟨first, later⟩ := List.forall_mem_cons.mp known
      rw [List.mapM_cons, codec.decoded v item first spelled, ih later]
      rfl
  refused := eq_none_of_shaped fun values d reads => by
    cases d with
    | list items => exact ⟨items, rfl, codec.shaped_of_mapM reads⟩
    | _ => cases reads

end Environments.Document
