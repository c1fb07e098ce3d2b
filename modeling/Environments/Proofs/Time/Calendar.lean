import Environments.Time.Instant

/-!
# The day of a date

`le_passSpans_iff` says how many spans are over after so many days.  It places a day in a cycle and in
a year, so that the date of a day is one that the calendar has, `isValid_ofDay`, and names that day,
`toDay_ofDay`.  The dates of instants lie in the years that there are instants in: `year_mem_range`.
-/

namespace Environments.Time

/-! ### Passing spans -/

variable {spans : List Nat} {days : Nat}

theorem total_take_succ {k : Nat} (inside : k < spans.length) :
    total (spans.take (k + 1)) = total (spans.take k) + spans[k] := by
  induction spans generalizing k with
  | nil => cases inside
  | cons length rest ih =>
    cases k with
    | zero => simp [total]
    | succ k =>
      have later := ih (Nat.lt_of_succ_lt_succ inside)
      simp only [List.take_succ_cons, total, List.foldr_cons, List.getElem_cons_succ] at later ⊢
      omega

/-- So many spans are over exactly if they fit into the days together. -/
theorem le_passSpans_iff {k : Nat} (inside : k ≤ spans.length) :
    k ≤ (passSpans spans days).1 ↔ total (spans.take k) ≤ days := by
  induction spans generalizing days k with
  | nil =>
    obtain rfl : k = 0 := by simpa using inside
    simp [total]
  | cons length rest ih =>
    cases k with
    | zero => simp [total]
    | succ k =>
      have later : k ≤ (passSpans rest (days - length)).1 ↔ total (rest.take k) ≤ days - length :=
        ih (Nat.le_of_succ_le_succ inside)
      rw [List.take_succ_cons]
      change _ ↔ length + total (rest.take k) ≤ days
      rw [passSpans]
      split
      · change k + 1 ≤ 0 ↔ _
        omega
      · rw [Nat.add_le_add_iff_right, later]
        omega

theorem passSpans_lt (covered : days < total spans) :
    ∃ inside : (passSpans spans days).1 < spans.length,
      (passSpans spans days).2 < spans[(passSpans spans days).1] := by
  have inside : (passSpans spans days).1 < spans.length := by
    have all : spans.length ≤ (passSpans spans days).1 ↔ total spans ≤ days := by
      rw [le_passSpans_iff (Nat.le_refl _), List.take_length]
    omega
  refine ⟨inside, ?_⟩
  have next : (passSpans spans days).1 + 1 ≤ (passSpans spans days).1 ↔
      total (spans.take ((passSpans spans days).1 + 1)) ≤ days := le_passSpans_iff inside
  rw [total_take_succ inside] at next
  have whole := sum_take_passSpans spans days
  omega

/-! ### Years and cycles -/

theorem total_yearLengths : total yearLengths = 146097 := by decide +kernel

theorem length_yearLengths : yearLengths.length = 400 := by simp [yearLengths]

theorem total_monthLengths (year : Int) :
    total (monthLengths year) = if isLeap year then 366 else 365 := by
  unfold monthLengths
  split <;> rfl

theorem isLeap_add_cycles (cycles year : Int) : isLeap (400 * cycles + year) = isLeap year := by
  have four : (400 * cycles + year) % 4 = year % 4 := by omega
  have hundred : (400 * cycles + year) % 100 = year % 100 := by omega
  have cycle : (400 * cycles + year) % 400 = year % 400 := by omega
  rw [isLeap, isLeap, four, hundred, cycle]

/-! ### The place of a day -/

def cyclesBefore (day : Int) : Int := (day + daysBeforeEpoch) / cycleLength

/-- The place of a day in its cycle. -/
def dayOfCycle (day : Int) : Nat := ((day + daysBeforeEpoch) % cycleLength).toNat

def yearOfCycle (day : Int) : Nat := (passSpans yearLengths (dayOfCycle day)).1

/-- The place of a day in its year. -/
def dayOfYear (day : Int) : Nat := (passSpans yearLengths (dayOfCycle day)).2

variable (day : Int)

theorem dayOfCycle_lt : dayOfCycle day < total yearLengths := by
  rw [total_yearLengths, dayOfCycle, cycleLength]
  omega

theorem cycles_add_dayOfCycle :
    cycleLength * cyclesBefore day + dayOfCycle day = day + daysBeforeEpoch := by
  unfold cyclesBefore dayOfCycle cycleLength
  omega

theorem year_ofDay : (Date.ofDay day).year = 400 * cyclesBefore day + yearOfCycle day := rfl

theorem yearOfCycle_lt : yearOfCycle day < 400 := by
  obtain ⟨inside, _⟩ := passSpans_lt (dayOfCycle_lt day)
  rwa [length_yearLengths] at inside

theorem dayOfYear_lt : dayOfYear day < total (monthLengths (Date.ofDay day).year) := by
  obtain ⟨inside, left⟩ := passSpans_lt (dayOfCycle_lt day)
  have length : yearLengths[yearOfCycle day] = if isLeap (yearOfCycle day) then 366 else 365 := by
    simp [yearLengths]
  rw [total_monthLengths, year_ofDay, isLeap_add_cycles, ← length]
  exact left

theorem firstDay_year : firstDay (Date.ofDay day).year + dayOfYear day = day := by
  have small := yearOfCycle_lt day
  have cycles : (Date.ofDay day).year / 400 = cyclesBefore day := by
    rw [year_ofDay]
    omega
  have year : ((Date.ofDay day).year % 400).toNat = yearOfCycle day := by
    rw [year_ofDay]
    omega
  have passed : total (yearLengths.take (yearOfCycle day)) + dayOfYear day = dayOfCycle day :=
    sum_take_passSpans yearLengths (dayOfCycle day)
  have whole := cycles_add_dayOfCycle day
  rw [firstDay, cycles, year]
  omega

/-! ### The date of a day -/

/-- **The date of a day names that day.** -/
theorem toDay_ofDay : (Date.ofDay day).toDay = day := by
  have passed : total ((monthLengths (Date.ofDay day).year).take ((Date.ofDay day).month - 1)) +
      ((Date.ofDay day).day - 1) = dayOfYear day :=
    sum_take_passSpans (monthLengths (Date.ofDay day).year) (dayOfYear day)
  have first := firstDay_year day
  rw [Date.toDay]
  omega

theorem exists_monthLength : ∃ length, (monthLengths (Date.ofDay day).year)[(Date.ofDay day).month - 1]? =
    some length ∧ 1 ≤ (Date.ofDay day).month ∧ 1 ≤ (Date.ofDay day).day ∧
    (Date.ofDay day).day ≤ length := by
  obtain ⟨inside, left⟩ := passSpans_lt (dayOfYear_lt day)
  exact ⟨_, List.getElem?_eq_getElem inside, Nat.le_add_left 1 _, Nat.le_add_left 1 _, left⟩

theorem month_le : (Date.ofDay day).month ≤ 12 := by
  obtain ⟨_, found, _⟩ := exists_monthLength day
  obtain ⟨inside, _⟩ := List.getElem?_eq_some_iff.mp found
  have twelve : (monthLengths (Date.ofDay day).year).length = 12 := rfl
  omega

theorem isValid_ofDay : (Date.ofDay day).isValid = true := by
  obtain ⟨length, found, month, first, last⟩ := exists_monthLength day
  simp [Date.isValid, List.getD_eq_getElem?_getD, found, month, first, last, month_le day]

theorem day_le : (Date.ofDay day).day ≤ 31 := by
  obtain ⟨length, found, _, _, last⟩ := exists_monthLength day
  have short : ∀ length ∈ monthLengths (Date.ofDay day).year, length ≤ 31 := by
    unfold monthLengths
    split <;> decide
  exact Nat.le_trans last (short length (List.mem_of_getElem? found))

theorem year_mem_range (i : Instant) : -262143 ≤ (Date.ofDay (i.second / 86400)).year ∧
    (Date.ofDay (i.second / 86400)).year ≤ 262142 := by
  obtain ⟨⟨first, last⟩, _⟩ := i.isInstant
  rw [firstSecond] at first
  rw [lastSecond] at last
  rw [year_ofDay]
  -- Of the first cycle 257 years come before the first instant, and of the last one 143 pass.
  have least : 257 ≤ yearOfCycle (i.second / 86400) ↔ 93868 ≤ dayOfCycle (i.second / 86400) := by
    rw [show 93868 = total (yearLengths.take 257) by decide +kernel]
    exact le_passSpans_iff (by rw [length_yearLengths]; decide)
  have greatest : 143 ≤ yearOfCycle (i.second / 86400) ↔ 52230 ≤ dayOfCycle (i.second / 86400) := by
    rw [show 52230 = total (yearLengths.take 143) by decide +kernel]
    exact le_passSpans_iff (by rw [length_yearLengths]; decide)
  have whole := cycles_add_dayOfCycle (i.second / 86400)
  have year := yearOfCycle_lt (i.second / 86400)
  have day := dayOfCycle_lt (i.second / 86400)
  rw [total_yearLengths] at day
  rw [cycleLength, daysBeforeEpoch] at whole
  omega

end Environments.Time
