import Environments.Proofs.Text.Digits
import Environments.Proofs.Time.Calendar
import Environments.Time.Text

/-!
# Instants read back

For each part of the text of an instant there is a lemma that says that the part is read from the
front of a text: `scanYear_write`, `scanDate_write`, `scanFraction_write`, `scanClock_write` and
`IsOffset.scanOffset`.  Together with the calendar they give `read_writeLocal`: an instant is read
from what calendars and clocks show anywhere.  In Universal Time that is its written form,
`read_write`.
-/

namespace Environments.Time

open Environments.Text

variable {digits rest : List Char} {n : Nat}

/-! ### Numbers and marks -/

theorem trimStart_of_digits (reads : readDigits 10 digits = some n) :
    trimStart (digits ++ rest) = digits ++ rest := by
  obtain ⟨some, all⟩ := digit?_of_readDigits reads
  cases digits with
  | nil => exact absurd rfl some
  | cons c digits =>
    have solid := isBlank_eq_false_of_digit? (all c List.mem_cons_self)
    exact List.dropWhile_cons_of_neg (by simp [solid])

/-- A number is read up to the end of its digits, or until there are enough of them. -/
theorem scanNumber_append {most : Nat} (reads : readDigits 10 digits = some n)
    (short : digits.length ≤ most)
    (ends : (rest.take (most - digits.length)).takeWhile isDecimal = []) :
    scanNumber most (digits ++ rest) = some (n, rest) := by
  have all : ∀ c ∈ digits, isDecimal c = true := (digit?_of_readDigits reads).2
  have taken : ((digits ++ rest).take most).takeWhile isDecimal = digits := by
    rw [List.take_append, List.take_of_length_le short, List.takeWhile_append_of_pos all, ends,
      List.append_nil]
  simp only [scanNumber, taken, reads, Option.map_some, List.drop_left]

theorem scanPair_write (small : n < 100) :
    scanPair (writePadded 10 2 n ++ rest) = some (n, rest) := by
  have reads := readDigits_writePadded (by decide) (by decide) (by decide) (show n < 10 ^ 2 from small)
  rw [scanPair, trimStart_of_digits reads]
  have length := length_writePadded 10 2 n
  exact scanNumber_append reads (by omega) (by rw [length]; rfl)

theorem scanMark_cons {mark : Char} (solid : isBlank mark = false) :
    scanMark mark (mark :: rest) = some rest := by
  simp [scanMark, trimStart, solid]

/-! ### Dates -/

theorem scanYear_of_digits (reads : readDigits 10 digits = some n) (four : digits.length = 4) :
    scanYear (digits ++ rest) = some ((n : Int), rest) := by
  have scan : scanNumber 4 (digits ++ rest) = some (n, rest) :=
    scanNumber_append reads (Nat.le_of_eq four) (by rw [four]; rfl)
  have trimmed : trimStart (digits ++ rest) = digits ++ rest := trimStart_of_digits reads
  have all := (digit?_of_readDigits reads).2
  cases digits with
  | nil => cases four
  | cons c digits =>
    have digit := all c List.mem_cons_self
    unfold scanYear
    rw [trimmed]
    split
    · rename_i same
      exact absurd (List.cons.inj same).1 (ne_of_digit? digit (by decide))
    · rename_i same
      exact absurd (List.cons.inj same).1 (ne_of_digit? digit (by decide))
    · rw [scan]
      rfl

/-- Only a year with a sign may have more than four digits. -/
theorem scanYear_of_sign (reads : readDigits 10 digits = some n) :
    scanYear ('-' :: digits ++ '-' :: rest) = some (-(n : Int), '-' :: rest) ∧
      scanYear ('+' :: digits ++ '-' :: rest) = some ((n : Int), '-' :: rest) := by
  have hyphen : isDecimal '-' = false := by decide
  have scan : scanNumber (digits ++ '-' :: rest).length (digits ++ '-' :: rest) =
      some (n, '-' :: rest) := scanNumber_append reads (by simp) (by simp [hyphen])
  have minus (cs : List Char) : trimStart ('-' :: cs) = '-' :: cs := rfl
  have plus (cs : List Char) : trimStart ('+' :: cs) = '+' :: cs := rfl
  constructor
  · rw [List.cons_append, scanYear, minus]
    simp only [scan, Option.map_some]
  · rw [List.cons_append, scanYear, plus]
    simp only [scan, Option.map_some]

theorem scanYear_write (year : Int) :
    scanYear (writeYear year ++ '-' :: rest) = some (year, '-' :: rest) := by
  unfold writeYear
  split
  · have reads : readDigits 10 (writePadded 10 4 year.toNat) = some year.toNat :=
      readDigits_writePadded (by decide) (by decide) (by decide) (by omega)
    rw [scanYear_of_digits reads (length_writePadded 10 4 _), Int.toNat_of_nonneg (by omega)]
  · have reads : readDigits 10 (writeAtLeast 10 4 year.natAbs) = some year.natAbs :=
      readDigits_writeAtLeast (by decide) (by decide) (by decide) _
    split
    · rw [(scanYear_of_sign reads).1, show -(year.natAbs : Int) = year by omega]
    · rw [(scanYear_of_sign reads).2, show (year.natAbs : Int) = year by omega]

theorem scanDate_write {d : Date} (month : d.month < 100) (day : d.day < 100) :
    scanDate (d.write ++ rest) = some (d, rest) := by
  have hyphen : isBlank '-' = false := by decide
  rw [Date.write]
  simp only [List.append_assoc, List.cons_append, scanDate, scanYear_write, scanMark_cons hyphen,
    scanPair_write month, scanPair_write day, Option.bind_eq_bind, Option.bind_some]
  rfl

/-! ### The time of day -/

/-- A fraction with so many digits, in front of a mark that is no digit. -/
theorem scanFraction_point {zeros : Nat} {mark : Char} (reads : readDigits 10 digits = some n)
    (nine : digits.length + zeros = 9) (noDigit : isDecimal mark = false) :
    scanFraction ('.' :: digits ++ mark :: rest) = some (n * 10 ^ zeros, mark :: rest) := by
  obtain ⟨some_digit, digit⟩ := digit?_of_readDigits reads
  have all : ∀ c ∈ digits, isDecimal c = true := digit
  have taken : (digits ++ mark :: rest).takeWhile isDecimal = digits := by
    rw [List.takeWhile_append_of_pos all, List.takeWhile_cons_of_neg (by simp [noDigit]),
      List.append_nil]
  have filled : (digits ++ List.replicate 9 '0').take 9 = digits ++ List.replicate zeros '0' := by
    rw [List.take_append, List.take_of_length_le (by omega), List.take_replicate]
    congr 2
    omega
  rw [List.cons_append, scanFraction]
  simp only [taken, if_neg some_digit, filled, List.drop_left,
    readDigits_append_zeros (by decide) (by decide) reads, Option.map_some]

theorem scanFraction_write {nano : Nat} {mark : Char} (small : nano < nanosPerSecond)
    (noDigit : isDecimal mark = false) (noPoint : mark ≠ '.') :
    scanFraction (writeFraction nano ++ mark :: rest) = some (nano, mark :: rest) := by
  rw [nanosPerSecond] at small
  have point : ∀ width zeros, 0 < width → width + zeros = 9 → nano % 10 ^ zeros = 0 →
      scanFraction ('.' :: writePadded 10 width (nano / 10 ^ zeros) ++ mark :: rest) =
        some (nano, mark :: rest) := by
    intro width zeros wide nine whole
    -- What is dropped are zeros, and what is left has so many digits.
    have bound : nano / 10 ^ zeros < 10 ^ width := by
      refine Nat.div_lt_of_lt_mul ?_
      rw [← Nat.pow_add, Nat.add_comm, nine]
      exact small
    have reads := readDigits_writePadded (by decide) (by decide) wide bound
    rw [scanFraction_point reads (by rw [length_writePadded, nine]) noDigit,
      Nat.div_mul_cancel (Nat.dvd_of_mod_eq_zero whole)]
  unfold writeFraction
  split
  · rename_i none
    rw [none, List.nil_append, scanFraction]
    simp [noPoint]
  split
  · exact point 3 6 (by decide) rfl ‹_›
  split
  · exact point 6 3 (by decide) rfl ‹_›
  · have all := point 9 0 (by decide) rfl (Nat.mod_one nano)
    rwa [Nat.pow_zero, Nat.div_one] at all

theorem scanClock_write {secondOfDay nano : Nat} {mark : Char} (ofDay : secondOfDay < 86400)
    (known : nano < nanosPerSecond ∨ (nano < 2 * nanosPerSecond ∧ secondOfDay % 60 = 59))
    (noDigit : isDecimal mark = false) (noPoint : mark ≠ '.') :
    scanClock (writeClock secondOfDay nano ++ mark :: rest) =
      some ((secondOfDay, nano), mark :: rest) := by
  have colon : isBlank ':' = false := by decide
  have hour : secondOfDay / 3600 < 100 := by omega
  have minute : secondOfDay / 60 % 60 < 100 := by omega
  have second : secondOfDay % 60 + nano / nanosPerSecond < 100 := by
    rw [nanosPerSecond]
    rw [nanosPerSecond] at known
    omega
  have fraction : nano % nanosPerSecond < nanosPerSecond := Nat.mod_lt _ (by decide)
  rw [writeClock]
  simp only [List.append_assoc, List.cons_append, scanClock, scanPair_write hour,
    scanPair_write minute, scanPair_write second, scanMark_cons colon,
    scanFraction_write fraction noDigit noPoint, Option.bind_eq_bind, Option.bind_some]
  rw [nanosPerSecond] at known ⊢
  rw [if_pos (by omega)]
  by_cases plain : nano < 1000000000
  · rw [if_neg (by omega)]
    have whole : secondOfDay / 3600 * 3600 + secondOfDay / 60 % 60 * 60 +
        (secondOfDay % 60 + nano / 1000000000) = secondOfDay := by omega
    rw [whole, Nat.mod_eq_of_lt plain]
    rfl
  · -- A leap second is told as the second 60.
    have whole : secondOfDay / 3600 * 3600 + secondOfDay / 60 % 60 * 60 + 59 = secondOfDay := by omega
    have rest : 1000000000 + nano % 1000000000 = nano := by omega
    rw [if_pos (by omega), whole, rest]
    rfl

/-! ### Offsets -/

/-- A mark that ends the text of an instant, with the seconds by which its clocks are ahead of
Universal Time. -/
inductive IsOffset : List Char → Int → Prop
  | universal : IsOffset ['Z'] 0
  | ahead {hours minutes : Nat} (hour : hours < 24) (minute : minutes < 60) :
    IsOffset ('+' :: writePadded 10 2 hours ++ ':' :: writePadded 10 2 minutes)
      (hours * 3600 + minutes * 60)
  | behind {hours minutes : Nat} (hour : hours < 24) (minute : minutes < 60) :
    IsOffset ('-' :: writePadded 10 2 hours ++ ':' :: writePadded 10 2 minutes)
      (-(hours * 3600 + minutes * 60))

theorem scanTwoDigits_write (small : n < 100) :
    scanTwoDigits (writePadded 10 2 n ++ rest) = some (n, rest) := by
  have reads := readDigits_writePadded (by decide) (by decide) (by decide) (show n < 10 ^ 2 from small)
  have two : writePadded 10 2 n = [Nat.digitChar (n / 10 % 10), Nat.digitChar (n % 10)] := rfl
  rw [two] at reads
  rw [two, List.cons_append, List.cons_append, List.nil_append, scanTwoDigits, reads]
  rfl

theorem scanHoursMinutes_write {hours minutes : Nat} (hour : hours < 24) (minute : minutes < 60) :
    scanHoursMinutes (writePadded 10 2 hours ++ ':' :: writePadded 10 2 minutes) =
      some (hours * 3600 + minutes * 60, []) := by
  have reads := readDigits_writePadded (by decide) (by decide) (by decide)
    (show minutes < 10 ^ 2 by omega)
  -- The separator is over where the digits of the minutes begin.
  have separator : (':' :: writePadded 10 2 minutes).dropWhile (fun c => c = ':' || isBlank c) =
      writePadded 10 2 minutes := by
    obtain ⟨some_digit, digit⟩ := digit?_of_readDigits reads
    rw [List.dropWhile_cons_of_pos (by decide)]
    cases cs : writePadded 10 2 minutes with
    | nil => exact absurd cs some_digit
    | cons c rest =>
      have first := digit c (cs ▸ List.mem_cons_self)
      refine List.dropWhile_cons_of_neg ?_
      simp [ne_of_digit? first (show digit? 10 ':' = none by decide),
        isBlank_eq_false_of_digit? first]
  have second : scanTwoDigits (writePadded 10 2 minutes) = some (minutes, []) := by
    rw [← List.append_nil (writePadded 10 2 minutes), scanTwoDigits_write (by omega)]
  simp only [scanHoursMinutes, scanTwoDigits_write (show hours < 100 by omega), separator, second,
    Option.bind_eq_bind, Option.bind_some]
  rw [if_pos ⟨minute, hour⟩]
  rfl

/-- **The mark of an offset is read as that offset**, which is a number of whole minutes.  It goes on
from the time of day with a character that cannot belong to it. -/
theorem IsOffset.scanOffset {mark : List Char} {offset : Int} (known : IsOffset mark offset) :
    scanOffset (trimStart mark) = some (offset, []) ∧ offset % 60 = 0 ∧
      ∃ c cs, mark = c :: cs ∧ isDecimal c = false ∧ c ≠ '.' := by
  cases known with
  | universal => exact ⟨rfl, rfl, 'Z', [], rfl, by decide, by decide⟩
  | @ahead hours minutes hour minute =>
    have sign (cs : List Char) : trimStart ('+' :: cs) = '+' :: cs := rfl
    refine ⟨?_, by omega, '+', _, rfl, by decide, by decide⟩
    rw [List.cons_append, sign, Time.scanOffset, scanHoursMinutes_write hour minute]
    rfl
  | @behind hours minutes hour minute =>
    have sign (cs : List Char) : trimStart ('-' :: cs) = '-' :: cs := rfl
    refine ⟨?_, by omega, '-', _, rfl, by decide, by decide⟩
    rw [List.cons_append, sign, Time.scanOffset, scanHoursMinutes_write hour minute]
    rfl

/-! ### Instants -/

namespace Instant

/-- The date of an instant, on calendars that are so many seconds ahead of Universal Time. -/
def localDate (i : Instant) (offset : Int) : Date := Date.ofDay ((i.second + offset) / 86400)

/-- The date and the time of day of an instant, on calendars and clocks that are so many seconds
ahead. -/
def writeLocal (i : Instant) (offset : Int) : List Char :=
  (i.localDate offset).write ++
    'T' :: writeClock ((i.second + offset) % 86400).toNat i.nano

/-- The second of a day, told by the date of the day and a time of day. -/
theorem ofLocal?_localDate {i : Instant} {offset : Int}
    (inside : isYearInRange (i.localDate offset).year = true) :
    ofLocal? (i.localDate offset) ((i.second + offset) % 86400).toNat i.nano offset = some i := by
  have exists_day : ((i.localDate offset).isValid && isYearInRange (i.localDate offset).year) = true := by
    rw [inside, localDate, isValid_ofDay]
    rfl
  rw [ofLocal?, if_pos exists_day, localDate, toDay_ofDay, of?_eq_some]
  exact ⟨by omega, rfl⟩

/-- **An instant is read from what calendars and clocks anywhere show**, provided that the year on the
calendar there is one that there are instants in. -/
theorem read_writeLocal {i : Instant} {mark : List Char} {offset : Int} (known : IsOffset mark offset)
    (inside : isYearInRange (i.localDate offset).year = true) :
    Instant.read (String.ofList (i.writeLocal offset ++ mark)) = some i := by
  obtain ⟨scanned, minutes, first, others, rfl, noDigit, noPoint⟩ := known.scanOffset
  have month := month_le ((i.second + offset) / 86400)
  have day := day_le ((i.second + offset) / 86400)
  have date (rest : List Char) : scanDate ((i.localDate offset).write ++ rest) =
      some (i.localDate offset, rest) := scanDate_write (by rw [localDate]; omega) (by rw [localDate]; omega)
  have clock : scanClock (writeClock ((i.second + offset) % 86400).toNat i.nano ++ first :: others) =
      some ((((i.second + offset) % 86400).toNat, i.nano), first :: others) := by
    refine scanClock_write (by omega) (i.isInstant.2.imp_right fun ⟨leap, last⟩ => ⟨leap, ?_⟩)
      noDigit noPoint
    omega
  rw [Instant.read, writeLocal, String.toList_ofList]
  simp only [List.append_assoc, List.cons_append, date, clock, scanned, Option.bind_eq_bind,
    Option.bind_some]
  exact ofLocal?_localDate inside

theorem write_eq_writeLocal (i : Instant) : i.write = String.ofList (i.writeLocal 0 ++ ['Z']) := by
  rw [write, writeLocal, localDate, Int.add_zero, List.append_assoc]

theorem isYearInRange_universal (i : Instant) : isYearInRange (i.localDate 0).year = true := by
  obtain ⟨first, last⟩ := year_mem_range i
  rw [localDate, Int.add_zero]
  simp [isYearInRange, first, last]

theorem read_write (i : Instant) : Instant.read i.write = some i := by
  rw [write_eq_writeLocal]
  exact read_writeLocal .universal i.isYearInRange_universal

/-- What a text says that tells an instant, at whatever offset the clocks are that it is told by. -/
inductive Spells (i : Instant) (s : String) : Prop
  | told {mark : List Char} {offset : Int} (known : IsOffset mark offset)
    (inside : isYearInRange (i.localDate offset).year = true)
    (same : s.toList = i.writeLocal offset ++ mark)

theorem Spells.read {i : Instant} {s : String} (spells : i.Spells s) : Instant.read s = some i := by
  obtain ⟨known, inside, same⟩ := spells
  rw [← String.ofList_toList (s := s), same]
  exact read_writeLocal known inside

theorem spells_write (i : Instant) : i.Spells i.write :=
  .told .universal i.isYearInRange_universal (by rw [write_eq_writeLocal, String.toList_ofList])

end Instant

end Environments.Time
