/-!
# Numbers as digits

Digits are written most significant first, in lower case. A number is written either with as many
digits as it needs or with a fixed number of them. Reading takes digits of either case and accepts
leading zeros.
-/

namespace Environments.Text

/-- The value of a hexadecimal digit, of either case. -/
def hexDigit? (c : Char) : Option Nat :=
  if '0' ≤ c ∧ c ≤ '9' then some (c.toNat - '0'.toNat)
  else if 'a' ≤ c ∧ c ≤ 'f' then some (c.toNat - 'a'.toNat + 10)
  else if 'A' ≤ c ∧ c ≤ 'F' then some (c.toNat - 'A'.toNat + 10)
  else none

/-- The value of a digit of a number in `base`, at most sixteen. -/
def digit? (base : Nat) (c : Char) : Option Nat :=
  (hexDigit? c).filter (· < base)

/-- A character is a decimal digit when it is one of the ten of ASCII. -/
def isDecimal (c : Char) : Bool :=
  (digit? 10 c).isSome

/-- The number that the digits `cs` continue, after the digits of `n`. -/
def readDigitsFrom (base : Nat) (n : Nat) (cs : List Char) : Option Nat :=
  cs.foldlM (fun n c => (digit? base c).map (base * n + ·)) n

/-- The number written by one or more digits. -/
def readDigits (base : Nat) (cs : List Char) : Option Nat :=
  if cs = [] then none else readDigitsFrom base 0 cs

/-- The digits of a number, without leading zeros. -/
def writeDigits (base : Nat) (n : Nat) : List Char :=
  Nat.toDigits base n

/-- The last `width` digits of a number, with leading zeros. -/
def writePadded (base : Nat) : Nat → Nat → List Char
  | 0, _ => []
  | width + 1, n => writePadded base width (n / base) ++ [Nat.digitChar (n % base)]

/-- The digits of a number, with leading zeros if there are fewer than `width`. -/
def writeAtLeast (base width n : Nat) : List Char :=
  if (writeDigits base n).length < width then writePadded base width n else writeDigits base n

theorem length_writePadded (base width n : Nat) : (writePadded base width n).length = width := by
  induction width generalizing n with
  | zero => rfl
  | succ width ih => simp [writePadded, ih]

theorem readDigitsFrom_nil (base n : Nat) : readDigitsFrom base n [] = some n := rfl

theorem readDigitsFrom_append (base n : Nat) (front back : List Char) :
    readDigitsFrom base n (front ++ back) =
      (readDigitsFrom base n front).bind (readDigitsFrom base · back) := by
  simp [readDigitsFrom, List.foldlM_append]

end Environments.Text
