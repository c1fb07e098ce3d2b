/-!
# Sets of flags

A set of flags is a word of 32 bits together with a vocabulary: the list of the names its lowest bits
have, from bit 0 up. Bits beyond the vocabulary are unknown. They may be set, they take part in the
set operations like any other bit, and they are only dropped where an operation says so.
-/

namespace Environments

/-- A set of flags over a vocabulary: the bit number `i` is the flag with the `i`-th name. -/
structure Flags (vocabulary : List String) where
  bits : BitVec 32
  deriving DecidableEq, Repr

namespace Flags

variable {vocabulary : List String}

/-- The set with no bit in it. -/
def empty : Flags vocabulary := ⟨0⟩

/-- The set of all flags that have a name. -/
def all : Flags vocabulary := ⟨BitVec.twoPow 32 vocabulary.length - 1⟩

def ofName? (name : String) : Option (Flags vocabulary) :=
  (vocabulary.idxOf? name).map fun i => ⟨BitVec.twoPow 32 i⟩

def intersection (f g : Flags vocabulary) : Flags vocabulary := ⟨f.bits &&& g.bits⟩

/-- The bits in either set. -/
def insert (f g : Flags vocabulary) : Flags vocabulary := ⟨f.bits ||| g.bits⟩

/-- The bits of the first set that are not in the second. -/
def remove (f g : Flags vocabulary) : Flags vocabulary := ⟨f.bits &&& ~~~g.bits⟩

/-- The bits in exactly one of the sets. -/
def toggle (f g : Flags vocabulary) : Flags vocabulary := ⟨f.bits ^^^ g.bits⟩

/-- The set without its unknown bits. -/
def known (f : Flags vocabulary) : Flags vocabulary := f.intersection all

/-- The unknown bits of the set. -/
def unknown (f : Flags vocabulary) : Flags vocabulary := f.remove all

/-- The named flags that are not in the set. -/
def complement (f : Flags vocabulary) : Flags vocabulary := known ⟨~~~f.bits⟩

/-- The set with these bits, provided that each has a name. -/
def ofBits? (bits : BitVec 32) : Option (Flags vocabulary) :=
  if known (⟨bits⟩ : Flags vocabulary) = ⟨bits⟩ then some ⟨bits⟩ else none

/-- Whether all bits of the second set are in the first. -/
def contains (f g : Flags vocabulary) : Bool := f.intersection g = g

def intersects (f g : Flags vocabulary) : Bool := f.intersection g ≠ empty

def isEmpty (f : Flags vocabulary) : Bool := f = empty

/-- Whether every flag with a name is set; unknown bits may be set as well. -/
def isAll (f : Flags vocabulary) : Bool := f.contains all

/-- The names of the flags in the set, in the order of the vocabulary. -/
def names (f : Flags vocabulary) : List String :=
  (vocabulary.zipIdx.filter fun entry => f.bits.getLsbD entry.2).map (·.1)

end Flags

end Environments
