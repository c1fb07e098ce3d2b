import Environments.Text.CharClass

/-!
# Blank characters and trimming

Names and identifiers are kept without the blank characters around them. Blank are the characters
with the Unicode property `White_Space`; zero-width spaces and the information separators are not.
Trimming touches the two ends only: what stands inside a text stays as it is.
-/

namespace Environments.Text

/-- The characters with the Unicode property `White_Space`. -/
def whiteSpace : CharClass where
  ranges := [(0x09, 0x0D), (0x20, 0x20), (0x85, 0x85), (0xA0, 0xA0), (0x1680, 0x1680),
    (0x2000, 0x200A), (0x2028, 0x2029), (0x202F, 0x202F), (0x205F, 0x205F), (0x3000, 0x3000)]

def isBlank (c : Char) : Bool :=
  whiteSpace.contains c

/-- The characters from the first one that is not blank on. -/
def trimStart (cs : List Char) : List Char :=
  cs.dropWhile isBlank

/-- The characters up to the last one that is not blank. -/
def trimEnd (cs : List Char) : List Char :=
  (cs.reverse.dropWhile isBlank).reverse

/-- The characters between the blank ones at the two ends. -/
def trimChars (cs : List Char) : List Char :=
  trimEnd (trimStart cs)

/-- A text without the blank characters at its two ends. -/
def trim (s : String) : String :=
  String.ofList (trimChars s.toList)

/-- What a field that may be left out holds after it was set to `s`: a blank text clears it. -/
def trimToOption (s : String) : Option String :=
  if trim s = "" then none else some (trim s)

theorem toList_trim (s : String) : (trim s).toList = trimChars s.toList := by
  simp [trim]

theorem trimChars_eq_nil_iff (cs : List Char) : trimChars cs = [] ↔ ∀ c ∈ cs, isBlank c = true := by
  have ends (l : List Char) : l.dropWhile isBlank = [] ↔ ∀ c ∈ l, isBlank c = true := by
    induction l with
    | nil => simp
    | cons c l ih => by_cases h : isBlank c = true <;> simp [h, ih]
  constructor
  · intro h
    have back : ∀ c ∈ cs.dropWhile isBlank, isBlank c = true := by
      have := (ends (cs.dropWhile isBlank).reverse).1 (by simpa [trimChars, trimEnd, trimStart] using h)
      simpa using this
    cases front : cs.dropWhile isBlank with
    | nil => exact (ends cs).1 front
    | cons c rest =>
      have head : ¬ isBlank c = true := by
        have := List.head_dropWhile_not isBlank (l := cs) (by simp [front])
        simpa [front] using this
      exact absurd (back c (by simp [front])) head
  · intro h
    simp [trimChars, trimEnd, trimStart, (ends cs).2 h]

end Environments.Text
