import Environments.Flags.Basic
import Environments.Text.Digits
import Environments.Text.Trim

/-!
# Flags as text

A set of flags is written as the names of its flags joined by bars, with the unknown bits as one
hexadecimal number at the end. Reading is more liberal: parts come in any order, may be repeated, may
have blank characters around them, and any part may be a hexadecimal number, for known bits too.
-/

namespace Environments.Flags

open Environments.Text

variable {vocabulary : List String}

/-- The parts a set of flags is written as: its names and, if there are any, its unknown bits. -/
def parts (f : Flags vocabulary) : List String :=
  f.names ++
    if f.unknown = empty then []
    else [String.ofList (['0', 'x'] ++ writeDigits 16 f.unknown.bits.toNat)]

/-- The written form of a set of flags; the empty set is the empty text. -/
def write (f : Flags vocabulary) : String :=
  String.intercalate " | " f.parts

/-- The word that a hexadecimal number of at most 32 bits stands for. A plus sign may precede it. -/
def readWord (cs : List Char) : Option (BitVec 32) :=
  let digits := match cs with
    | '+' :: rest => rest
    | _ => cs
  ((readDigits 16 digits).filter (· < 4294967296)).map (BitVec.ofNat 32)

/-- What one part of a text means, after the blank characters around it are gone. -/
def readPart (part : List Char) : Option (Flags vocabulary) :=
  match part with
  | '0' :: 'x' :: digits => (readWord digits).map (⟨·⟩)
  | _ => ofName? (String.ofList part)

/-- The union of the sets that the parts mean. -/
def readParts : List (List Char) → Option (Flags vocabulary)
  | [] => some empty
  | part :: rest => do
    let f ← readPart (trimChars part)
    let g ← readParts rest
    return f.insert g

/-- The set of flags a text means. A blank text is the empty set; else each part between bars has to
mean something, and an empty part never does. -/
def read (s : String) : Option (Flags vocabulary) :=
  if trim s = "" then some empty else readParts (s.toList.splitOn '|')

end Environments.Flags
