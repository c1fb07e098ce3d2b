import Environments.Text.Digits
import Environments.Text.Trim
import Mathlib.Algebra.Ring.Nat

/-!
# Written numbers read back

`readDigits_writePadded`, `readDigits_writeDigits` and `readDigits_writeAtLeast` say that reading
undoes writing, for each of the ways in which a number is written.  What reads as a number has
nothing but digits in it, and a digit is neither blank nor one of the marks that stand between
numbers: `range_of_digit?`.  Neither the case of letters nor zeros in front make another number of it.
-/

namespace Environments.Text

variable {base : Nat}

/-! ### One digit -/

theorem hexDigit?_digitChar : ∀ d < 16, hexDigit? (Nat.digitChar d) = some d := by decide

theorem digit?_digitChar (small : base ≤ 16) {d : Nat} (h : d < base) :
    digit? base (Nat.digitChar d) = some d := by
  rw [digit?, hexDigit?_digitChar d (Nat.lt_of_lt_of_le h small)]
  simpa using h

theorem readDigitsFrom_digitChar (small : base ≤ 16) (n : Nat) {d : Nat} (h : d < base) :
    readDigitsFrom base n [Nat.digitChar d] = some (base * n + d) := by
  simp [readDigitsFrom, digit?_digitChar small h]

theorem range_of_digit? {c : Char} (h : (digit? base c).isSome) :
    (48 ≤ c.toNat ∧ c.toNat ≤ 57) ∨ (65 ≤ c.toNat ∧ c.toNat ≤ 70) ∨
      (97 ≤ c.toNat ∧ c.toNat ≤ 102) := by
  have known : (hexDigit? c).isSome := by
    rw [digit?] at h
    cases found : hexDigit? c with
    | none => simp [found] at h
    | some d => rfl
  unfold hexDigit? at known
  split at known
  · rename_i range
    exact Or.inl range
  split at known
  · rename_i range
    exact Or.inr (Or.inr range)
  split at known
  · rename_i range
    exact Or.inr (Or.inl range)
  · cases known

theorem ne_of_digit? {c mark : Char} (h : (digit? base c).isSome) (other : digit? base mark = none) :
    c ≠ mark := by
  rintro rfl
  rw [other] at h
  cases h

theorem isBlank_eq_false_of_digit? {c : Char} (h : (digit? base c).isSome) : isBlank c = false := by
  have range := range_of_digit? h
  simp only [isBlank, CharClass.contains, whiteSpace, List.any_cons, List.any_nil, Bool.or_false,
    Bool.or_eq_false_iff, Bool.and_eq_false_iff, decide_eq_false_iff_not]
  omega

theorem digit?_of_readDigitsFrom {m n : Nat} {cs : List Char} (h : readDigitsFrom base m cs = some n) :
    ∀ c ∈ cs, (digit? base c).isSome := by
  induction cs generalizing m with
  | nil => exact fun _ member => nomatch member
  | cons c cs ih =>
    rw [readDigitsFrom, List.foldlM_cons] at h
    cases digit : digit? base c with
    | none =>
      rw [digit] at h
      cases h
    | some d =>
      rw [digit] at h
      intro other member
      rcases List.mem_cons.mp member with rfl | later
      · rw [digit]
        rfl
      · exact ih h other later

theorem digit?_of_readDigits {n : Nat} {cs : List Char} (h : readDigits base cs = some n) :
    cs ≠ [] ∧ ∀ c ∈ cs, (digit? base c).isSome := by
  unfold readDigits at h
  split at h
  · cases h
  · exact ⟨‹_›, digit?_of_readDigitsFrom h⟩

theorem readDigits_append_zeros (small : base ≤ 16) (positive : 0 < base) {n : Nat} {cs : List Char}
    (reads : readDigits base cs = some n) (zeros : Nat) :
    readDigits base (cs ++ List.replicate zeros '0') = some (n * base ^ zeros) := by
  have some_digit := (digit?_of_readDigits reads).1
  rw [readDigits, if_neg some_digit] at reads
  rw [readDigits, if_neg (List.append_ne_nil_of_left_ne_nil some_digit _)]
  induction zeros with
  | zero => simpa using reads
  | succ zeros ih =>
    have zero : readDigitsFrom base (n * base ^ zeros) ['0'] = some (base * (n * base ^ zeros) + 0) :=
      readDigitsFrom_digitChar small _ positive
    rw [List.replicate_succ', ← List.append_assoc, readDigitsFrom_append, ih, Option.bind_some, zero,
      Nat.add_zero, Nat.mul_left_comm, Nat.mul_comm base, Nat.pow_succ]

/-! ### A number with so many digits -/

theorem readDigitsFrom_writePadded (small : base ≤ 16) (positive : 0 < base) (width m n : Nat) :
    readDigitsFrom base m (writePadded base width n) =
      some (m * base ^ width + n % base ^ width) := by
  induction width generalizing n with
  | zero => simp [writePadded, readDigitsFrom_nil, Nat.mod_one]
  | succ width ih =>
    rw [writePadded, readDigitsFrom_append, ih, Option.bind_some,
      readDigitsFrom_digitChar small _ (Nat.mod_lt n positive)]
    congr 1
    calc base * (m * base ^ width + n / base % base ^ width) + n % base
        = m * (base ^ width * base) + (n % base + base * (n / base % base ^ width)) := by
          rw [Nat.mul_add, Nat.mul_left_comm, Nat.mul_comm base (base ^ width)]
          omega
      _ = m * base ^ (width + 1) + n % base ^ (width + 1) := by
          rw [← Nat.mod_mul, Nat.pow_succ, Nat.mul_comm base (base ^ width)]

/-- **A number that is written with enough digits reads back.** -/
theorem readDigits_writePadded (small : base ≤ 16) (positive : 0 < base) {width n : Nat}
    (wide : 0 < width) (h : n < base ^ width) : readDigits base (writePadded base width n) = some n := by
  have some_digit : writePadded base width n ≠ [] := by
    rw [← List.length_pos_iff, length_writePadded]
    exact wide
  rw [readDigits, if_neg some_digit, readDigitsFrom_writePadded small positive, Nat.zero_mul,
    Nat.zero_add, Nat.mod_eq_of_lt h]

/-! ### A number with as many digits as it needs -/

theorem readDigitsFrom_writeDigits (small : base ≤ 16) (large : 1 < base) (n : Nat) :
    readDigitsFrom base 0 (writeDigits base n) = some n := by
  induction n using Nat.strongRecOn with
  | ind n ih =>
    rw [writeDigits, Nat.toDigits_eq_if large]
    split
    · rename_i one
      rw [readDigitsFrom_digitChar small 0 one, Nat.mul_zero, Nat.zero_add]
    · rename_i more
      have shorter : n / base < n := Nat.div_lt_self (by omega) large
      rw [readDigitsFrom_append, ← writeDigits, ih _ shorter, Option.bind_some,
        readDigitsFrom_digitChar small _ (Nat.mod_lt n (by omega)), Nat.div_add_mod]

theorem readDigits_writeDigits (small : base ≤ 16) (large : 1 < base) (n : Nat) :
    readDigits base (writeDigits base n) = some n := by
  rw [readDigits, if_neg (show writeDigits base n ≠ [] from Nat.toDigits_ne_nil)]
  exact readDigitsFrom_writeDigits small large n

theorem readDigits_writeAtLeast (small : base ≤ 16) (large : 1 < base) {width : Nat}
    (wide : 0 < width) (n : Nat) : readDigits base (writeAtLeast base width n) = some n := by
  unfold writeAtLeast
  split
  · rename_i short
    refine readDigits_writePadded small (by omega) wide ?_
    exact (Nat.length_toDigits_le_iff large wide).mp (Nat.le_of_lt short)
  · exact readDigits_writeDigits small large n

/-! ### Letter case and leading zeros -/

theorem toNat_toLower (c : Char) :
    c.toLower.toNat = if 65 ≤ c.toNat ∧ c.toNat ≤ 90 then c.toNat + 32 else c.toNat := by
  unfold Char.toLower
  split
  · rename_i capital
    have range : 65 ≤ c.toNat ∧ c.toNat ≤ 90 := capital
    rw [if_pos range]
    change (c.val + 32).toNat = c.toNat + 32
    rw [UInt32.toNat_add]
    exact Nat.mod_eq_of_lt (by change c.toNat + 32 < 2 ^ 32; omega)
  · rename_i other
    have range : ¬(65 ≤ c.toNat ∧ c.toNat ≤ 90) := other
    rw [if_neg range]

/-- A character that has no letter case is not met by changing the case of another. -/
theorem toLower_eq_iff {c mark : Char} (below : mark.toNat < 65 ∨ 123 ≤ mark.toNat) :
    c.toLower = mark ↔ c = mark := by
  rw [← Char.toNat_inj, ← Char.toNat_inj, toNat_toLower]
  split <;> omega

theorem toLower_toLower (c : Char) : c.toLower.toLower = c.toLower := by
  rw [← Char.toNat_inj, toNat_toLower c.toLower, toNat_toLower]
  split
  · rw [if_neg (by omega)]
  · rfl

theorem hexDigit?_toLower (c : Char) : hexDigit? c.toLower = hexDigit? c := by
  have range (a b d : Char) : (a ≤ d ∧ d ≤ b) ↔ (a.toNat ≤ d.toNat ∧ d.toNat ≤ b.toNat) := Iff.rfl
  simp only [hexDigit?, range, toNat_toLower, Char.reduceToNat]
  split <;> split <;> grind

theorem readDigits_map_toLower (cs : List Char) :
    readDigits base (cs.map Char.toLower) = readDigits base cs := by
  have digit (c : Char) : digit? base c.toLower = digit? base c := by
    rw [digit?, hexDigit?_toLower, digit?]
  simp only [readDigits, readDigitsFrom, List.map_eq_nil_iff, List.foldlM_map, digit]

theorem readDigits_zeros_append (small : base ≤ 16) (positive : 0 < base) {n : Nat} {cs : List Char}
    (reads : readDigits base cs = some n) (zeros : Nat) :
    readDigits base (List.replicate zeros '0' ++ cs) = some n := by
  have some_digit := (digit?_of_readDigits reads).1
  rw [readDigits, if_neg some_digit] at reads
  rw [readDigits, if_neg (List.append_ne_nil_of_right_ne_nil _ some_digit)]
  induction zeros with
  | zero => simpa using reads
  | succ zeros ih =>
    have zero : readDigitsFrom base 0 ['0'] = some 0 := readDigitsFrom_digitChar small 0 positive
    rw [List.replicate_succ, List.cons_append, ← List.singleton_append, readDigitsFrom_append, zero]
    exact ih

theorem toLower_digitChar : ∀ d < 16, (Nat.digitChar d).toLower = Nat.digitChar d := by decide

theorem map_toLower_writePadded (width n : Nat) :
    (writePadded 16 width n).map Char.toLower = writePadded 16 width n := by
  induction width generalizing n with
  | zero => rfl
  | succ width ih =>
    rw [writePadded, List.map_append, ih, List.map_singleton,
      toLower_digitChar _ (Nat.mod_lt n (by decide))]

theorem map_toLower_writeDigits (n : Nat) :
    (writeDigits 16 n).map Char.toLower = writeDigits 16 n := by
  induction n using Nat.strongRecOn with
  | ind n ih =>
    rw [writeDigits, Nat.toDigits_eq_if (by decide)]
    split
    · rename_i one
      rw [List.map_singleton, toLower_digitChar n one]
    · rename_i more
      have shorter : n / 16 < n := Nat.div_lt_self (by omega) (by decide)
      rw [List.map_append, ← writeDigits, ih _ shorter, List.map_singleton,
        toLower_digitChar _ (Nat.mod_lt n (by decide))]

end Environments.Text
