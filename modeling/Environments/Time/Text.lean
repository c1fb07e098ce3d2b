import Environments.Text.Digits
import Environments.Text.Trim
import Environments.Time.Instant

/-!
# Instants as text

An instant is written as a date and a time of day in Universal Time, `2024-01-01T00:00:00Z`. The
fraction of the second is left out when it is zero and else has three, six or nine digits, the fewest
that are exact. A year outside 0 to 9999 has a sign and at least four digits. A leap second is written
as the second 60.

Reading accepts any offset from Universal Time and is liberal in the spelling: a space or a small
letter between date and time, blank characters before numbers and separators, fewer digits than
usual, digits beyond the nanoseconds. What it does not accept is a text without an offset, a day or a
time of day that does not exist, or a rest after the offset.
-/

namespace Environments.Time

open Environments.Text

/-! ### Writing -/

def writeYear (year : Int) : List Char :=
  if 0 ≤ year ∧ year ≤ 9999 then writePadded 10 4 year.toNat
  else (if year < 0 then '-' else '+') :: writeAtLeast 10 4 year.natAbs

def Date.write (d : Date) : List Char :=
  writeYear d.year ++ '-' :: writePadded 10 2 d.month ++ '-' :: writePadded 10 2 d.day

/-- The fraction of a second as text, with the point that opens it. -/
def writeFraction (nano : Nat) : List Char :=
  if nano = 0 then []
  else if nano % 1000000 = 0 then '.' :: writePadded 10 3 (nano / 1000000)
  else if nano % 1000 = 0 then '.' :: writePadded 10 6 (nano / 1000)
  else '.' :: writePadded 10 9 nano

/-- A time of day as text: the second of the day, and the nanoseconds in it. -/
def writeClock (secondOfDay nano : Nat) : List Char :=
  writePadded 10 2 (secondOfDay / 3600) ++ ':' :: writePadded 10 2 (secondOfDay / 60 % 60) ++
    ':' :: writePadded 10 2 (secondOfDay % 60 + nano / nanosPerSecond) ++
    writeFraction (nano % nanosPerSecond)

def Instant.write (i : Instant) : String :=
  String.ofList ((Date.ofDay (i.second / 86400)).write ++
    'T' :: writeClock (i.second % 86400).toNat i.nano ++ ['Z'])

/-! ### Reading -/

/-- Reads the decimal digits at the start, at least one and at most `most`. -/
def scanNumber (most : Nat) (cs : List Char) : Option (Nat × List Char) :=
  let digits := (cs.take most).takeWhile isDecimal
  (readDigits 10 digits).map (·, cs.drop digits.length)

/-- Reads a number of at most two digits, with blank characters before it. -/
def scanPair (cs : List Char) : Option (Nat × List Char) :=
  scanNumber 2 (trimStart cs)

/-- Reads one character, with blank characters before it. -/
def scanMark (mark : Char) (cs : List Char) : Option (List Char) :=
  match trimStart cs with
  | c :: rest => if c = mark then some rest else none
  | [] => none

/-- Reads a year, with blank characters before it. Only a year with a sign has more than four
digits. -/
def scanYear (cs : List Char) : Option (Int × List Char) :=
  match trimStart cs with
  | '-' :: rest => (scanNumber rest.length rest).map fun (n, rest) => (-n, rest)
  | '+' :: rest => (scanNumber rest.length rest).map fun (n, rest) => (n, rest)
  | rest => (scanNumber 4 rest).map fun (n, rest) => (n, rest)

/-- Reads a date. Whether the calendar has it is not asked here. -/
def scanDate (cs : List Char) : Option (Date × List Char) := do
  let (year, cs) ← scanYear cs
  let cs ← scanMark '-' cs
  let (month, cs) ← scanPair cs
  let cs ← scanMark '-' cs
  let (day, cs) ← scanPair cs
  return (⟨year, month, day⟩, cs)

/-- Reads the fraction of a second, in nanoseconds; digits beyond the ninth do not count. Without a
point the fraction is zero. -/
def scanFraction (cs : List Char) : Option (Nat × List Char) :=
  match cs with
  | '.' :: rest =>
    let digits := rest.takeWhile isDecimal
    if digits = [] then none
    else (readDigits 10 ((digits ++ List.replicate 9 '0').take 9)).map
      (·, rest.drop digits.length)
  | _ => some (0, cs)

/-- Reads a time of day: the second of the day, and the nanoseconds in it. The second 60 is the leap
second after the second 59. -/
def scanClock (cs : List Char) : Option ((Nat × Nat) × List Char) := do
  let (hour, cs) ← scanPair cs
  let cs ← scanMark ':' cs
  let (minute, cs) ← scanPair cs
  let cs ← scanMark ':' cs
  let (second, cs) ← scanPair cs
  let (nano, cs) ← scanFraction cs
  if hour < 24 ∧ minute < 60 ∧ second ≤ 60 then
    if second = 60 then
      return ((hour * 3600 + minute * 60 + 59, nanosPerSecond + nano), cs)
    else return ((hour * 3600 + minute * 60 + second, nano), cs)
  else none

/-- Reads two digits, neither more nor fewer. -/
def scanTwoDigits (cs : List Char) : Option (Nat × List Char) :=
  match cs with
  | a :: b :: rest => (readDigits 10 [a, b]).map (·, rest)
  | _ => none

/-- Reads the hours and minutes of an offset, as seconds. A colon, or blank characters, may stand
between them. -/
def scanHoursMinutes (cs : List Char) : Option (Nat × List Char) := do
  let (hours, cs) ← scanTwoDigits cs
  let (minutes, cs) ← scanTwoDigits (cs.dropWhile fun c => c = ':' || isBlank c)
  if minutes < 60 ∧ hours < 24 then return (hours * 3600 + minutes * 60, cs) else none

/-- Reads the offset from Universal Time, in seconds. -/
def scanOffset (cs : List Char) : Option (Int × List Char) :=
  match cs with
  | 'Z' :: rest | 'z' :: rest => some (0, rest)
  | '+' :: rest => (scanHoursMinutes rest).map fun (n, rest) => (n, rest)
  | '-' :: rest | '−' :: rest => (scanHoursMinutes rest).map fun (n, rest) => (-n, rest)
  | a :: b :: c :: rest =>
    if [a.toUpper, b.toUpper, c.toUpper] = ['U', 'T', 'C'] then some (0, rest) else none
  | _ => none

/-- The first and the last year there are instants in. -/
def isYearInRange (year : Int) : Bool :=
  -262143 ≤ year && year ≤ 262142

/-- The instant that a date and a time of day, told at an offset from Universal Time, are. -/
def Instant.ofLocal? (date : Date) (secondOfDay nano : Nat) (offset : Int) : Option Instant :=
  if date.isValid && isYearInRange date.year then
    Instant.of? (date.toDay * 86400 + secondOfDay - offset) nano
  else none

/-- The instant that a text tells, if it tells one. -/
def Instant.read (s : String) : Option Instant := do
  let (date, cs) ← scanDate s.toList
  let separator :: cs := cs | none
  if separator = 'T' || separator = 't' || separator = ' ' then
    let ((second, nano), cs) ← scanClock cs
    let (offset, cs) ← scanOffset (trimStart cs)
    if trimStart cs = [] then Instant.ofLocal? date second nano offset else none
  else none

end Environments.Time
