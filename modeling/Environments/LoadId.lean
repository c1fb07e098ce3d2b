import Environments.Text.Digits

/-!
# Load identifiers

Each load has a universally unique identifier of 128 bits, by which its report can be matched with
other records of it. It is written as 32 small hexadecimal digits in five groups joined by hyphens.
Reading also takes capital letters, the digits without hyphens, and the grouped form in braces or
after `urn:uuid:`, which may have capital letters too.
-/

namespace Environments

open Environments.Text

structure LoadId where
  bits : BitVec 128
  deriving DecidableEq, Repr

namespace LoadId

/-- The identifier drawn from 128 random bits: six of them are set to say that the rest is random. -/
def ofRandom (bits : BitVec 128) : LoadId :=
  ⟨(bits &&& ~~~(0xF000#128 <<< 64) &&& ~~~(0xC000#128 <<< 48)) ||| (0x4000#128 <<< 64) |||
    (0x8000#128 <<< 48)⟩

/-- The version that an identifier states of itself. -/
def version (id : LoadId) : Nat :=
  (id.bits.toNat >>> 76) % 16

def groupLengths : List Nat := [8, 4, 4, 4, 12]

/-- Cuts a list into consecutive pieces of the given lengths; the last piece takes what is left. -/
def cut : List Nat → List Char → List (List Char)
  | [], _ => []
  | [_], cs => [cs]
  | n :: ns, cs => cs.take n :: cut ns (cs.drop n)

/-- The written form of an identifier, as characters. -/
def writeChars (id : LoadId) : List Char :=
  ['-'].intercalate (cut groupLengths (writePadded 16 32 id.bits.toNat))

def write (id : LoadId) : String :=
  String.ofList id.writeChars

/-- The identifier with these digits, of which there have to be 32. -/
def ofDigits? (digits : List Char) : Option LoadId :=
  if digits.length = 32 then (readDigits 16 digits).map fun n => ⟨BitVec.ofNat 128 n⟩ else none

/-- The identifier with these groups of digits, which have to have the right lengths. -/
def ofGroups? (cs : List Char) : Option LoadId :=
  let groups := cs.splitOn '-'
  if groups.map List.length = groupLengths then ofDigits? groups.flatten else none

/-- The text between braces. -/
def insideBraces? (cs : List Char) : Option (List Char) :=
  match cs with
  | '{' :: rest => if rest.getLast? = some '}' then some rest.dropLast else none
  | _ => none

/-- The text after the name of the identifier's kind, in small or capital letters. -/
def afterUrn? (cs : List Char) : Option (List Char) :=
  let urn := "urn:uuid:".toList
  if (cs.take urn.length).map Char.toLower = urn then some (cs.drop urn.length) else none

/-- The identifier that a text names, in any of the four forms. -/
def read (s : String) : Option LoadId :=
  let cs := s.toList
  if cs.length = 32 then ofDigits? cs
  else match insideBraces? cs <|> afterUrn? cs with
    | some groups => ofGroups? groups
    | none => ofGroups? cs

end LoadId

end Environments
