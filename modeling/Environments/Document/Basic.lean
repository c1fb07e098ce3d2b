/-!
# Documents

Values are stored as documents of the usual kind: texts, numbers, lists, and objects with named
fields. A record is written as an object; it is read from an object, whatever the order of its fields
and whatever other fields there are, or from the list of its field values in their order. A value
with several forms carries a tag that names the form.
-/

namespace Environments

/-- A document. A number that is written with a fraction or an exponent is not an integer, even if
its value is whole. -/
inductive Document
  | null
  | boolean (b : Bool)
  | integer (n : Int)
  /-- The number `mantissa * 10 ^ exponent`. -/
  | decimal (mantissa exponent : Int)
  | text (s : String)
  | list (items : List Document)
  | object (fields : List (String × Document))

namespace Document

/-! ### Writing -/

/-- A value that may be absent: absence is written as null. -/
def ofOption {α : Type} (write : α → Document) : Option α → Document
  | none => null
  | some a => write a

def ofList {α : Type} (write : α → Document) (items : List α) : Document :=
  list (items.map write)

/-! ### Reading -/

def text? : Document → Option String
  | text s => some s
  | _ => none

def boolean? : Document → Option Bool
  | boolean b => some b
  | _ => none

/-- The integer that a document is, provided it lies between the bounds. -/
def integer? (least greatest : Int) : Document → Option Int
  | integer n => if least ≤ n ∧ n ≤ greatest then some n else none
  | _ => none

/-- The greatest count there is, the greatest number of 64 bits. -/
def greatestCount : Nat := 18446744073709551615

def count? (d : Document) : Option Nat :=
  (d.integer? 0 greatestCount).map Int.toNat

/-- The error code that a document is, a signed number of 32 bits. -/
def code? (d : Document) : Option Int32 :=
  (d.integer? (-2147483648) 2147483647).map Int32.ofInt

/-- The values that the items of a list are. -/
def list? {α : Type} (read : Document → Option α) : Document → Option (List α)
  | list items => items.mapM read
  | _ => none

/-- A field that has to be there. -/
def requiredField {α : Type} (read : Document → Option α) (field : Option Document) : Option α :=
  field.bind read

/-- A field that may be missing, or null. -/
def optionalField {α : Type} (read : Document → Option α) : Option Document → Option (Option α)
  | none => some none
  | some null => some none
  | some d => (read d).map some

/-- The fields with the given names, in that order: those an object has, or the items of a list of
just that length. -/
def fields? (names : List String) : Document → Option (List (Option Document))
  | object fields => some (names.map fun name => fields.lookup name)
  | list items => if items.length = names.length then some (items.map some) else none
  | _ => none

/-- The form that the tag names, with the document that holds the fields of the form. In a list the
tag comes first and the fields follow. -/
def form? (tag : String) : Document → Option (String × Document)
  | object fields =>
    match fields.lookup tag with
    | some (text form) => some (form, object fields)
    | _ => none
  | list (text form :: items) => some (form, list items)
  | _ => none

end Document

end Environments
