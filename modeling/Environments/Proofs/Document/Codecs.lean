import Environments.Document.Reports
import Environments.Proofs.Document.Flags
import Environments.Proofs.Document.LoadId
import Environments.Proofs.Document.Shape
import Environments.Proofs.Time.Text

/-!
# How each kind of value is stored

For each kind of value `fields` says which documents may stand in the fields of a value, and `shape`
which may stand in the fields of any; `readsByMeaning` says that reading goes by just that.  What is
not a record is a truth value, a number, or a text that spells something: an identifier, a set of
flags or an instant.
-/

namespace Environments

namespace Document

/-! ### Values that are written in one way -/

def IsText (d : Document) : Prop := ∃ s, d = text s

def IsBoolean (d : Document) : Prop := ∃ b, d = boolean b

/-- The integers that a count can be. -/
def IsCount (d : Document) : Prop := ∃ n : Int, 0 ≤ n ∧ n ≤ greatestCount ∧ d = integer n

/-- The integers that an error code can be. -/
def IsCode (d : Document) : Prop := ∃ n : Int, -2147483648 ≤ n ∧ n ≤ 2147483647 ∧ d = integer n

theorem text?_eq_none {d : Document} (other : ¬IsText d) : text? d = none := by
  cases d with
  | text s => exact absurd ⟨s, rfl⟩ other
  | _ => rfl

theorem integer?_eq_none {least greatest : Int} {d : Document}
    (other : ¬∃ n : Int, least ≤ n ∧ n ≤ greatest ∧ d = integer n) :
    integer? least greatest d = none := by
  cases d with
  | integer n => exact if_neg fun ⟨first, last⟩ => other ⟨n, first, last, rfl⟩
  | _ => rfl

theorem code?_integer (code : Int32) : code? (integer code.toInt) = some code := by
  have bounds : -2147483648 ≤ code.toInt ∧ code.toInt ≤ 2147483647 := by
    have least := code.le_toInt
    have greatest := code.toInt_lt
    omega
  rw [code?, integer?, if_pos bounds, Option.map_some, Int32.ofInt_toInt]

theorem count?_integer {count : Nat} (small : count ≤ greatestCount) :
    count? (integer count) = some count := by
  have bounds : (0 : Int) ≤ count ∧ (count : Int) ≤ greatestCount := by omega
  rw [count?, integer?, if_pos bounds]
  rfl

theorem readsText : ReadsByMeaning text text? (fun s d => d = text s) IsText where
  written _ _ := rfl
  decoded := by
    rintro s _ - rfl
    rfl
  refused _ := text?_eq_none

theorem readsBoolean :
    ReadsByMeaning boolean boolean? (fun b d => d = boolean b) IsBoolean where
  written _ _ := rfl
  decoded := by
    rintro b _ - rfl
    rfl
  refused d other := by
    cases d with
    | boolean b => exact absurd ⟨b, rfl⟩ other
    | _ => rfl

theorem readsCount : ReadsByMeaning (fun count : Nat => integer count) count?
    (fun count d => d = integer count) IsCount (· ≤ greatestCount) where
  written _ _ := rfl
  decoded := by
    rintro count _ small rfl
    exact count?_integer small
  refused d other := by rw [count?, integer?_eq_none other, Option.map_none]

theorem readsCode : ReadsByMeaning (fun code : Int32 => integer code.toInt) code?
    (fun code d => d = integer code.toInt) IsCode where
  written _ _ := rfl
  decoded := by
    rintro code _ - rfl
    exact code?_integer code
  refused d other := by rw [code?, integer?_eq_none other, Option.map_none]

/-! ### Values that are stored as a text -/

/-- The texts that spell a value. -/
def Told {α : Type} (spells : α → String → Prop) (v : α) (d : Document) : Prop :=
  ∃ s, d = text s ∧ spells v s

theorem ReadsByMeaning.ofText {α : Type} {write : α → String} {read : String → Option α}
    {spells : α → String → Prop} (written : ∀ v, spells v (write v))
    (decoded : ∀ v s, spells v s → read s = some v) :
    ReadsByMeaning (fun v => text (write v)) (fun d => (text? d).bind read) (Told spells)
      IsText where
  written v _ := ⟨write v, rfl, written v⟩
  decoded := by
    rintro v _ - ⟨s, rfl, spelled⟩
    exact decoded v s spelled
  refused d other := by rw [text?_eq_none other, Option.bind_none]

end Document

open Document

/-! ### Identifiers, flags and times -/

theorem ProviderId.readsByMeaning : ReadsByMeaning ProviderId.toDocument ProviderId.ofDocument?
    (fun id d => d = .text id.text) IsText where
  written _ _ := rfl
  decoded := by
    rintro id _ - rfl
    rfl
  refused d other := by rw [ProviderId.ofDocument?, text?_eq_none other, Option.map_none]

theorem SystemId.readsByMeaning : ReadsByMeaning SystemId.toDocument SystemId.ofDocument?
    (fun id d => d = .text id.text) IsText where
  written _ _ := rfl
  decoded := by
    rintro id _ - rfl
    rfl
  refused d other := by rw [SystemId.ofDocument?, text?_eq_none other, Option.map_none]

theorem LoadId.readsByMeaning :
    ReadsByMeaning LoadId.toDocument LoadId.ofDocument? (Told LoadId.Spells) IsText :=
  .ofText LoadId.spells_write fun _ _ spelled => spelled.read

theorem Flags.readsByMeaning {vocabulary : List String} (legible : Flags.Legible vocabulary) :
    ReadsByMeaning (fun f : Flags vocabulary => f.toDocument) Flags.ofDocument?
      (Told Flags.Spells) IsText :=
  .ofText (Flags.spells_write legible.short) fun _ _ spelled => spelled.read legible

theorem Time.Instant.readsByMeaning : ReadsByMeaning Time.Instant.toDocument
    Time.Instant.ofDocument? (Told Time.Instant.Spells) IsText :=
  .ofText Time.Instant.spells_write fun _ _ spelled => spelled.read

/-! ### Accounts, providers and systems -/

namespace Developer

def fields (v : Developer) : List Field :=
  [.required "login_id" (· = text v.login), .optional "url" (fun s d => d = text s) v.url]

def shape : List Field := [.required "login_id" IsText, .nullable "url" IsText]

theorem readsByMeaning :
    ReadsByMeaning toDocument ofDocument? (fun v => Respelled v.fields) (Fits shape) := by
  refine .ofRecord ["login_id", "url"] (by decide) (fun _ => rfl) rfl ?_ ?_ ?_
  · intro v _
    exact ⟨_, rfl, .cons rfl (.cons (readsText.takes_ofOption _ v.url) .nil)⟩
  · rintro v d _ - found (_ | ⟨login, _ | ⟨url, _ | _⟩⟩)
    have login := readsText.requiredField_eq_some login trivial
    have url := readsText.optionalField_eq_some rfl url
    rw [ofDocument?, found]
    simp [login, url]
  · intro v d reads
    unfold ofDocument? at reads
    split at reads
    · rename_i found
      obtain ⟨_, login, reads⟩ := Option.bind_eq_some_iff.mp reads
      obtain ⟨_, url, _⟩ := Option.bind_eq_some_iff.mp reads
      exact ⟨_, found, .cons (readsText.holds_required login _)
        (.cons (readsText.holds_nullable url _) .nil)⟩
    · cases reads

end Developer

namespace Descriptor

def fields (v : Descriptor) : List Field :=
  [.required "id" (· = text v.id.text), .required "display_name" (· = text v.displayName),
    .required "supported_operations" (Told Flags.Spells v.operations)]

def shape : List Field :=
  [.required "id" IsText, .required "display_name" IsText, .required "supported_operations" IsText]

theorem readsByMeaning :
    ReadsByMeaning toDocument ofDocument? (fun v => Respelled v.fields) (Fits shape) := by
  have flags := Flags.readsByMeaning Flags.legible_provider
  refine .ofRecord ["id", "display_name", "supported_operations"] (by decide) (fun _ => rfl) rfl
    ?_ ?_ ?_
  · intro v _
    exact ⟨_, rfl, .cons rfl (.cons rfl (.cons (flags.written v.operations trivial) .nil))⟩
  · rintro v d _ - found (_ | ⟨id, _ | ⟨displayName, _ | ⟨operations, _ | _⟩⟩⟩)
    have id := ProviderId.readsByMeaning.requiredField_eq_some id trivial
    have displayName := readsText.requiredField_eq_some displayName trivial
    have operations := flags.requiredField_eq_some operations trivial
    rw [ofDocument?, found]
    simp [id, displayName, operations]
  · intro v d reads
    unfold ofDocument? at reads
    split at reads
    · rename_i found
      obtain ⟨_, id, reads⟩ := Option.bind_eq_some_iff.mp reads
      obtain ⟨_, displayName, reads⟩ := Option.bind_eq_some_iff.mp reads
      obtain ⟨_, operations, _⟩ := Option.bind_eq_some_iff.mp reads
      exact ⟨_, found, .cons (ProviderId.readsByMeaning.holds_required id _)
        (.cons (readsText.holds_required displayName _)
          (.cons (flags.holds_required operations _) .nil))⟩
    · cases reads

end Descriptor

namespace ComputeSystem

def fields (v : ComputeSystem) : List Field :=
  [.required "id" (· = text v.id.text), .required "name" (· = text v.name),
    .optional "alternative_display_name" (fun s d => d = text s) v.alternativeName,
    .required "associated_provider_id" (· = text v.provider.text),
    .required "supported_operations" (Told Flags.Spells v.operations)]

def shape : List Field :=
  [.required "id" IsText, .required "name" IsText, .nullable "alternative_display_name" IsText,
    .required "associated_provider_id" IsText, .required "supported_operations" IsText]

theorem readsByMeaning :
    ReadsByMeaning toDocument ofDocument? (fun v => Respelled v.fields) (Fits shape) := by
  have flags := Flags.readsByMeaning Flags.legible_system
  refine .ofRecord ["id", "name", "alternative_display_name", "associated_provider_id",
    "supported_operations"] (by decide) (fun _ => rfl) rfl ?_ ?_ ?_
  · intro v _
    exact ⟨_, rfl, .cons rfl (.cons rfl (.cons (readsText.takes_ofOption _ v.alternativeName)
      (.cons rfl (.cons (flags.written v.operations trivial) .nil))))⟩
  · rintro v d _ - found
      (_ | ⟨id, _ | ⟨name, _ | ⟨alternativeName, _ | ⟨provider, _ | ⟨operations, _ | _⟩⟩⟩⟩⟩)
    have id := SystemId.readsByMeaning.requiredField_eq_some id trivial
    have name := readsText.requiredField_eq_some name trivial
    have alternativeName := readsText.optionalField_eq_some rfl alternativeName
    have provider := ProviderId.readsByMeaning.requiredField_eq_some provider trivial
    have operations := flags.requiredField_eq_some operations trivial
    rw [ofDocument?, found]
    simp [id, name, alternativeName, provider, operations]
  · intro v d reads
    unfold ofDocument? at reads
    split at reads
    · rename_i found
      obtain ⟨_, id, reads⟩ := Option.bind_eq_some_iff.mp reads
      obtain ⟨_, name, reads⟩ := Option.bind_eq_some_iff.mp reads
      obtain ⟨_, alternativeName, reads⟩ := Option.bind_eq_some_iff.mp reads
      obtain ⟨_, provider, reads⟩ := Option.bind_eq_some_iff.mp reads
      obtain ⟨_, operations, _⟩ := Option.bind_eq_some_iff.mp reads
      exact ⟨_, found, .cons (SystemId.readsByMeaning.holds_required id _)
        (.cons (readsText.holds_required name _) (.cons (readsText.holds_nullable alternativeName _)
          (.cons (ProviderId.readsByMeaning.holds_required provider _)
            (.cons (flags.holds_required operations _) .nil))))⟩
    · cases reads

end ComputeSystem

/-! ### Results and batches -/

namespace QueryResult

def fields : QueryResult → List Field
  | success systems =>
    [.tag "status" "success",
      .required "compute_systems" (Each (fun v => Respelled v.fields) systems)]
  | failure diagnostic extendedError =>
    [.tag "status" "failure", .required "diagnostic" (· = text diagnostic),
      .optional "extended_error" (fun code d => d = integer code.toInt) extendedError]

/-- The shapes of the two forms. -/
def shapes : List (List Field) :=
  [[.tag "status" "success", .required "compute_systems" (IsListOf (Fits ComputeSystem.shape))],
    [.tag "status" "failure", .required "diagnostic" IsText, .nullable "extended_error" IsCode]]

theorem respelled_toDocument (v : QueryResult) : Respelled v.fields v.toDocument := by
  cases v with
  | success systems =>
    have each := ComputeSystem.readsByMeaning.ofList.written systems fun _ _ => trivial
    exact respelled_object ["status", "compute_systems"] (by decide) rfl
      ⟨_, rfl, .cons rfl (.cons each .nil)⟩
  | failure diagnostic extendedError =>
    exact respelled_object ["status", "diagnostic", "extended_error"] (by decide) rfl
      ⟨_, rfl, .cons rfl (.cons rfl (.cons (readsCode.takes_ofOption _ extendedError) .nil))⟩

theorem ofDocument?_of_respelled {v : QueryResult} {d : Document}
    (spelled : Respelled v.fields d) : ofDocument? d = some v := by
  cases v with
  | success systems =>
    obtain ⟨rest, _, form, found, _ | ⟨systems, _ | _⟩⟩ :=
      Respelled.form spelled ["compute_systems"] (by decide) rfl
    have systems := ComputeSystem.readsByMeaning.ofList.requiredField_eq_some systems
      fun _ _ => trivial
    rw [ofDocument?, form]
    simp [found, systems]
  | failure diagnostic extendedError =>
    obtain ⟨rest, _, form, found, _ | ⟨diagnostic, _ | ⟨extendedError, _ | _⟩⟩⟩ :=
      Respelled.form spelled ["diagnostic", "extended_error"] (by decide) rfl
    have diagnostic := readsText.requiredField_eq_some diagnostic trivial
    have extendedError := readsCode.optionalField_eq_some rfl extendedError
    rw [ofDocument?, form]
    simp [found, diagnostic, extendedError]

/-- What is read has the shape of the form that its status names. -/
theorem exists_shape {v : QueryResult} {d : Document} (reads : ofDocument? d = some v) :
    ∃ shape ∈ shapes, Fits shape d := by
  obtain ⟨⟨status, rest⟩, form, reads⟩ := Option.bind_eq_some_iff.mp reads
  dsimp only at reads
  split at reads
  · split at reads
    · rename_i found
      obtain ⟨_, systems, _⟩ := Option.bind_eq_some_iff.mp reads
      exact ⟨_, .head _, fits_of_form form found
        (.cons (ComputeSystem.readsByMeaning.ofList.holds_required systems _) .nil)⟩
    · cases reads
  · split at reads
    · rename_i found
      obtain ⟨_, diagnostic, reads⟩ := Option.bind_eq_some_iff.mp reads
      obtain ⟨_, extendedError, _⟩ := Option.bind_eq_some_iff.mp reads
      exact ⟨_, .tail _ (.head _), fits_of_form form found
        (.cons (readsText.holds_required diagnostic _)
          (.cons (readsCode.holds_nullable extendedError _) .nil))⟩
    · cases reads
  · cases reads

theorem readsByMeaning : ReadsByMeaning toDocument ofDocument? (fun v => Respelled v.fields)
    (fun d => ∃ shape ∈ shapes, Fits shape d) where
  written v _ := v.respelled_toDocument
  decoded _ _ _ spelled := ofDocument?_of_respelled spelled
  refused := eq_none_of_shaped fun _ _ => exists_shape

end QueryResult

namespace IdentityResult

def fields (v : IdentityResult) : List Field :=
  [.required "developer_id" (Respelled v.developer.fields),
    .required "result" (Respelled v.result.fields)]

def shape : List Field :=
  [.required "developer_id" (Fits Developer.shape),
    .required "result" fun d => ∃ shape ∈ QueryResult.shapes, Fits shape d]

theorem readsByMeaning :
    ReadsByMeaning toDocument ofDocument? (fun v => Respelled v.fields) (Fits shape) := by
  refine .ofRecord ["developer_id", "result"] (by decide) (fun _ => rfl) rfl ?_ ?_ ?_
  · intro v _
    exact ⟨_, rfl, .cons (Developer.readsByMeaning.written v.developer trivial)
      (.cons (QueryResult.readsByMeaning.written v.result trivial) .nil)⟩
  · rintro v d _ - found (_ | ⟨developer, _ | ⟨result, _ | _⟩⟩)
    have developer := Developer.readsByMeaning.requiredField_eq_some developer trivial
    have result := QueryResult.readsByMeaning.requiredField_eq_some result trivial
    rw [ofDocument?, found]
    simp [developer, result]
  · intro v d reads
    unfold ofDocument? at reads
    split at reads
    · rename_i found
      obtain ⟨_, developer, reads⟩ := Option.bind_eq_some_iff.mp reads
      obtain ⟨_, result, _⟩ := Option.bind_eq_some_iff.mp reads
      exact ⟨_, found, .cons (Developer.readsByMeaning.holds_required developer _)
        (.cons (QueryResult.readsByMeaning.holds_required result _) .nil)⟩
    · cases reads

end IdentityResult

namespace Batch

def fields (v : Batch) : List Field :=
  [.required "provider" (Respelled v.provider.fields),
    .required "results" (Each (fun result => Respelled result.fields) v.results),
    .required "loaded_at" (Told Time.Instant.Spells v.loadedAt)]

def shape : List Field :=
  [.required "provider" (Fits Descriptor.shape),
    .required "results" (IsListOf (Fits IdentityResult.shape)), .required "loaded_at" IsText]

theorem readsByMeaning :
    ReadsByMeaning toDocument ofDocument? (fun v => Respelled v.fields) (Fits shape) := by
  have lists := IdentityResult.readsByMeaning.ofList
  refine .ofRecord ["provider", "results", "loaded_at"] (by decide) (fun _ => rfl) rfl ?_ ?_ ?_
  · intro v _
    exact ⟨_, rfl, .cons (Descriptor.readsByMeaning.written v.provider trivial)
      (.cons (lists.written v.results fun _ _ => trivial)
        (.cons (Time.Instant.readsByMeaning.written v.loadedAt trivial) .nil))⟩
  · rintro v d _ - found (_ | ⟨provider, _ | ⟨results, _ | ⟨loadedAt, _ | _⟩⟩⟩)
    have provider := Descriptor.readsByMeaning.requiredField_eq_some provider trivial
    have results := lists.requiredField_eq_some results fun _ _ => trivial
    have loadedAt := Time.Instant.readsByMeaning.requiredField_eq_some loadedAt trivial
    rw [ofDocument?, found]
    simp [provider, results, loadedAt]
  · intro v d reads
    unfold ofDocument? at reads
    split at reads
    · rename_i found
      obtain ⟨_, provider, reads⟩ := Option.bind_eq_some_iff.mp reads
      obtain ⟨_, results, reads⟩ := Option.bind_eq_some_iff.mp reads
      obtain ⟨_, loadedAt, _⟩ := Option.bind_eq_some_iff.mp reads
      exact ⟨_, found, .cons (Descriptor.readsByMeaning.holds_required provider _)
        (.cons (lists.holds_required results _)
          (.cons (Time.Instant.readsByMeaning.holds_required loadedAt _) .nil))⟩
    · cases reads

end Batch

/-! ### Outcomes and reports -/

/-- Whether the counts of an outcome are such as can be stored. -/
def Outcome.IsStorable : Outcome → Prop
  | delivered count => count ≤ greatestCount
  | queryFailed failedAt _ _ => failedAt ≤ greatestCount
  | cancelled completed => completed ≤ greatestCount
  | deliveryFailed _ | aborted _ => True

namespace Outcome

def fields : Outcome → List Field
  | delivered identities =>
    [.tag "outcome" "delivered", .required "identities" (· = integer identities)]
  | queryFailed failedAt developer reason =>
    [.tag "outcome" "query_failed", .required "failed_at" (· = integer failedAt),
      .required "developer_id" (Respelled developer.fields), .required "reason" (· = text reason)]
  | deliveryFailed reason =>
    [.tag "outcome" "delivery_failed", .required "reason" (· = text reason)]
  | cancelled completed =>
    [.tag "outcome" "cancelled", .required "completed" (· = integer completed)]
  | aborted reason => [.tag "outcome" "aborted", .required "reason" (· = text reason)]

def shapes : List (List Field) :=
  [[.tag "outcome" "delivered", .required "identities" IsCount],
    [.tag "outcome" "query_failed", .required "failed_at" IsCount,
      .required "developer_id" (Fits Developer.shape), .required "reason" IsText],
    [.tag "outcome" "delivery_failed", .required "reason" IsText],
    [.tag "outcome" "cancelled", .required "completed" IsCount],
    [.tag "outcome" "aborted", .required "reason" IsText]]

theorem respelled_toDocument (v : Outcome) : Respelled v.fields v.toDocument := by
  cases v with
  | delivered identities =>
    exact respelled_object ["outcome", "identities"] (by decide) rfl
      ⟨_, rfl, .cons rfl (.cons rfl .nil)⟩
  | queryFailed failedAt developer reason =>
    exact respelled_object ["outcome", "failed_at", "developer_id", "reason"] (by decide) rfl
      ⟨_, rfl, .cons rfl (.cons rfl
        (.cons (Developer.readsByMeaning.written developer trivial) (.cons rfl .nil)))⟩
  | deliveryFailed reason =>
    exact respelled_object ["outcome", "reason"] (by decide) rfl
      ⟨_, rfl, .cons rfl (.cons rfl .nil)⟩
  | cancelled completed =>
    exact respelled_object ["outcome", "completed"] (by decide) rfl
      ⟨_, rfl, .cons rfl (.cons rfl .nil)⟩
  | aborted reason =>
    exact respelled_object ["outcome", "reason"] (by decide) rfl
      ⟨_, rfl, .cons rfl (.cons rfl .nil)⟩

theorem ofDocument?_of_respelled {v : Outcome} {d : Document} (storable : v.IsStorable)
    (spelled : Respelled v.fields d) : ofDocument? d = some v := by
  cases v with
  | delivered identities =>
    obtain ⟨rest, _, form, found, _ | ⟨identities, _ | _⟩⟩ :=
      Respelled.form spelled ["identities"] (by decide) rfl
    have identities := readsCount.requiredField_eq_some identities storable
    rw [ofDocument?, form]
    simp [found, identities]
  | queryFailed failedAt developer reason =>
    obtain ⟨rest, _, form, found, _ | ⟨failedAt, _ | ⟨developer, _ | ⟨reason, _ | _⟩⟩⟩⟩ :=
      Respelled.form spelled ["failed_at", "developer_id", "reason"] (by decide) rfl
    have failedAt := readsCount.requiredField_eq_some failedAt storable
    have developer := Developer.readsByMeaning.requiredField_eq_some developer trivial
    have reason := readsText.requiredField_eq_some reason trivial
    rw [ofDocument?, form]
    simp [found, failedAt, developer, reason]
  | deliveryFailed reason =>
    obtain ⟨rest, _, form, found, _ | ⟨reason, _ | _⟩⟩ :=
      Respelled.form spelled ["reason"] (by decide) rfl
    have reason := readsText.requiredField_eq_some reason trivial
    rw [ofDocument?, form]
    simp [found, reason]
  | cancelled completed =>
    obtain ⟨rest, _, form, found, _ | ⟨completed, _ | _⟩⟩ :=
      Respelled.form spelled ["completed"] (by decide) rfl
    have completed := readsCount.requiredField_eq_some completed storable
    rw [ofDocument?, form]
    simp [found, completed]
  | aborted reason =>
    obtain ⟨rest, _, form, found, _ | ⟨reason, _ | _⟩⟩ :=
      Respelled.form spelled ["reason"] (by decide) rfl
    have reason := readsText.requiredField_eq_some reason trivial
    rw [ofDocument?, form]
    simp [found, reason]

theorem exists_shape {v : Outcome} {d : Document} (reads : ofDocument? d = some v) :
    ∃ shape ∈ shapes, Fits shape d := by
  obtain ⟨⟨outcome, rest⟩, form, reads⟩ := Option.bind_eq_some_iff.mp reads
  dsimp only at reads
  split at reads
  · split at reads
    · rename_i found
      obtain ⟨_, identities, _⟩ := Option.bind_eq_some_iff.mp reads
      exact ⟨_, .head _, fits_of_form form found
        (.cons (readsCount.holds_required identities _) .nil)⟩
    · cases reads
  · split at reads
    · rename_i found
      obtain ⟨_, failedAt, reads⟩ := Option.bind_eq_some_iff.mp reads
      obtain ⟨_, developer, reads⟩ := Option.bind_eq_some_iff.mp reads
      obtain ⟨_, reason, _⟩ := Option.bind_eq_some_iff.mp reads
      exact ⟨_, .tail _ (.head _), fits_of_form form found
        (.cons (readsCount.holds_required failedAt _)
          (.cons (Developer.readsByMeaning.holds_required developer _)
            (.cons (readsText.holds_required reason _) .nil)))⟩
    · cases reads
  · split at reads
    · rename_i found
      obtain ⟨_, reason, _⟩ := Option.bind_eq_some_iff.mp reads
      exact ⟨_, .tail _ (.tail _ (.head _)), fits_of_form form found
        (.cons (readsText.holds_required reason _) .nil)⟩
    · cases reads
  · split at reads
    · rename_i found
      obtain ⟨_, completed, _⟩ := Option.bind_eq_some_iff.mp reads
      exact ⟨_, .tail _ (.tail _ (.tail _ (.head _))), fits_of_form form found
        (.cons (readsCount.holds_required completed _) .nil)⟩
    · cases reads
  · split at reads
    · rename_i found
      obtain ⟨_, reason, _⟩ := Option.bind_eq_some_iff.mp reads
      exact ⟨_, .tail _ (.tail _ (.tail _ (.tail _ (.head _)))), fits_of_form form found
        (.cons (readsText.holds_required reason _) .nil)⟩
    · cases reads
  · cases reads

theorem readsByMeaning : ReadsByMeaning toDocument ofDocument? (fun v => Respelled v.fields)
    (fun d => ∃ shape ∈ shapes, Fits shape d) IsStorable where
  written v _ := v.respelled_toDocument
  decoded _ _ storable spelled := ofDocument?_of_respelled storable spelled
  refused := eq_none_of_shaped fun _ _ => exists_shape

end Outcome

namespace ProviderReport

def fields (v : ProviderReport) : List Field :=
  [.required "provider" (Respelled v.provider.fields),
    .required "outcome" (Respelled v.outcome.fields)]

def shape : List Field :=
  [.required "provider" (Fits Descriptor.shape),
    .required "outcome" fun d => ∃ shape ∈ Outcome.shapes, Fits shape d]

theorem readsByMeaning : ReadsByMeaning toDocument ofDocument? (fun v => Respelled v.fields)
    (Fits shape) (fun v => v.outcome.IsStorable) := by
  refine .ofRecord ["provider", "outcome"] (by decide) (fun _ => rfl) rfl ?_ ?_ ?_
  · intro v storable
    exact ⟨_, rfl, .cons (Descriptor.readsByMeaning.written v.provider trivial)
      (.cons (Outcome.readsByMeaning.written v.outcome storable) .nil)⟩
  · rintro v d _ storable found (_ | ⟨provider, _ | ⟨outcome, _ | _⟩⟩)
    have provider := Descriptor.readsByMeaning.requiredField_eq_some provider trivial
    have outcome := Outcome.readsByMeaning.requiredField_eq_some outcome storable
    rw [ofDocument?, found]
    simp [provider, outcome]
  · intro v d reads
    unfold ofDocument? at reads
    split at reads
    · rename_i found
      obtain ⟨_, provider, reads⟩ := Option.bind_eq_some_iff.mp reads
      obtain ⟨_, outcome, _⟩ := Option.bind_eq_some_iff.mp reads
      exact ⟨_, found, .cons (Descriptor.readsByMeaning.holds_required provider _)
        (.cons (Outcome.readsByMeaning.holds_required outcome _) .nil)⟩
    · cases reads

end ProviderReport

namespace Report

def fields (v : Report) : List Field :=
  [.required "load_id" (Told LoadId.Spells v.loadId),
    .required "started_at" (Told Time.Instant.Spells v.startedAt),
    .required "finished_at" (Told Time.Instant.Spells v.finishedAt),
    .required "deadline_elapsed" (· = boolean v.deadlineElapsed),
    .optional "discovery_error" (fun s d => d = text s) v.discoveryError,
    .required "providers" (Each (fun row => Respelled row.fields) v.providers)]

def shape : List Field :=
  [.required "load_id" IsText, .required "started_at" IsText, .required "finished_at" IsText,
    .required "deadline_elapsed" IsBoolean, .nullable "discovery_error" IsText,
    .required "providers" (IsListOf (Fits ProviderReport.shape))]

theorem readsByMeaning : ReadsByMeaning toDocument ofDocument? (fun v => Respelled v.fields)
    (Fits shape) (fun v => ∀ row ∈ v.providers, row.outcome.IsStorable) := by
  have times := Time.Instant.readsByMeaning
  have lists := ProviderReport.readsByMeaning.ofList
  refine .ofRecord ["load_id", "started_at", "finished_at", "deadline_elapsed", "discovery_error",
    "providers"] (by decide) (fun _ => rfl) rfl ?_ ?_ ?_
  · intro v storable
    exact ⟨_, rfl, .cons (LoadId.readsByMeaning.written v.loadId trivial)
      (.cons (times.written v.startedAt trivial) (.cons (times.written v.finishedAt trivial)
        (.cons rfl (.cons (readsText.takes_ofOption _ v.discoveryError)
          (.cons (lists.written v.providers storable) .nil)))))⟩
  · rintro v d _ storable found (_ | ⟨loadId, _ | ⟨startedAt, _ | ⟨finishedAt, _ |
      ⟨deadlineElapsed, _ | ⟨discoveryError, _ | ⟨providers, _ | _⟩⟩⟩⟩⟩⟩)
    have loadId := LoadId.readsByMeaning.requiredField_eq_some loadId trivial
    have startedAt := times.requiredField_eq_some startedAt trivial
    have finishedAt := times.requiredField_eq_some finishedAt trivial
    have deadlineElapsed := readsBoolean.requiredField_eq_some deadlineElapsed trivial
    have discoveryError := readsText.optionalField_eq_some rfl discoveryError
    have providers := lists.requiredField_eq_some providers storable
    rw [ofDocument?, found]
    simp [loadId, startedAt, finishedAt, deadlineElapsed, discoveryError, providers]
  · intro v d reads
    unfold ofDocument? at reads
    split at reads
    · rename_i found
      obtain ⟨_, loadId, reads⟩ := Option.bind_eq_some_iff.mp reads
      obtain ⟨_, startedAt, reads⟩ := Option.bind_eq_some_iff.mp reads
      obtain ⟨_, finishedAt, reads⟩ := Option.bind_eq_some_iff.mp reads
      obtain ⟨_, deadlineElapsed, reads⟩ := Option.bind_eq_some_iff.mp reads
      obtain ⟨_, discoveryError, reads⟩ := Option.bind_eq_some_iff.mp reads
      obtain ⟨_, providers, _⟩ := Option.bind_eq_some_iff.mp reads
      exact ⟨_, found, .cons (LoadId.readsByMeaning.holds_required loadId _)
        (.cons (times.holds_required startedAt _) (.cons (times.holds_required finishedAt _)
          (.cons (readsBoolean.holds_required deadlineElapsed _)
            (.cons (readsText.holds_nullable discoveryError _)
              (.cons (lists.holds_required providers _) .nil)))))⟩
    · cases reads

end Report

end Environments
