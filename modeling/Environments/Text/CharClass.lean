/-!
# Classes of characters

A class of characters is written down as ranges of code points, the way the tables of a character
standard are. Membership is decided by a scan, so a table is data and nothing else.
-/

namespace Environments.Text

/-- A class of characters: ranges of code points, each given by its first and its last member. -/
structure CharClass where
  ranges : List (Nat × Nat)
  deriving DecidableEq, Repr

/-- A character is in a class when one of the ranges covers its code point. -/
def CharClass.contains (k : CharClass) (c : Char) : Bool :=
  k.ranges.any fun range => range.1 ≤ c.toNat && c.toNat ≤ range.2

theorem CharClass.contains_iff {k : CharClass} {c : Char} :
    k.contains c = true ↔ ∃ range ∈ k.ranges, range.1 ≤ c.toNat ∧ c.toNat ≤ range.2 := by
  simp [CharClass.contains]

end Environments.Text
