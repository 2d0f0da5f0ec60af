import OrgAccess.Instant.Basic
import OrgAccess.Instant.Calendar
import OrgAccess.Text.Blank

/-!
# Timestamps

An instant is written as a date and a time of day in UTC, the fraction of the second with none, 3,
6 or 9 digits. Reading allows more: any offset, blanks before numbers and around the separators,
one-digit numbers, and fractions of any length, of which nine digits count. The second 60 is read
as a leap second.
-/

namespace OrgAccess.Instant

open Text (trimStart)

/-- The seconds of a day. -/
def secondsPerDay : Int := 86400

/-- The nanoseconds of a second. -/
def nanosPerSecond : Nat := 1000000000

/-! ## Writing -/

/-- A number in decimal with at least `width` digits. -/
def padded (width n : Nat) : String :=
  let figures := Nat.repr n
  String.ofList (List.replicate (width - figures.length) '0') ++ figures

/-- A year: four digits from 0 to 9999, else with a sign. -/
def yearText (year : Int) : String :=
  if 0 ≤ year ∧ year ≤ 9999 then padded 4 year.toNat
  else (if year < 0 then "-" else "+") ++ padded 4 year.natAbs

/-- The fraction of a second in as few groups of three digits as show it exactly. -/
def fractionText (nanos : Nat) : String :=
  if nanos = 0 then ""
  else if nanos % 1000000 = 0 then "." ++ padded 3 (nanos / 1000000)
  else if nanos % 1000 = 0 then "." ++ padded 6 (nanos / 1000)
  else "." ++ padded 9 nanos

/-- The text of an instant. During a leap second the second of the minute is one greater. -/
def text (instant : Instant) : String :=
  let date := Calendar.Date.ofDayNumber (instant.seconds / secondsPerDay)
  let time := (instant.seconds % secondsPerDay).toNat
  let leap := if nanosPerSecond ≤ instant.nanos then 1 else 0
  yearText date.year ++ "-" ++ padded 2 date.month ++ "-" ++ padded 2 date.day ++ "T"
    ++ padded 2 (time / 3600) ++ ":" ++ padded 2 (time / 60 % 60) ++ ":"
    ++ padded 2 (time % 60 + leap) ++ fractionText (instant.nanos % nanosPerSecond) ++ "Z"

/-! ## Reading -/

/-- A reader of the front of a text: what it reads and what is left. -/
abbrev Reader (α : Type) := List Char → Option (α × List Char)

/-- The number that digits spell. -/
def numberOf (ds : List Char) : Nat :=
  ds.foldl (fun total c => total * 10 + (c.toNat - '0'.toNat)) 0

/-- A number of at most `most` digits, at least one. -/
def number? (most : Nat) : Reader Nat := fun cs =>
  let ds := (cs.take most).takeWhile Char.isDigit
  if ds.isEmpty then none else some (numberOf ds, cs.drop ds.length)

/-- A number of one or two digits within bounds, after blanks. -/
def field? (low high : Nat) : Reader Nat := fun cs => do
  let (n, rest) ← number? 2 (trimStart cs)
  if low ≤ n ∧ n ≤ high then pure (n, rest) else failure

/-- The years that have a date. -/
def isYear (year : Int) : Bool :=
  -262143 ≤ year && year ≤ 262142

/-- A year of up to four digits, or of any number of digits after a sign. -/
def year? : Reader Int := fun cs => do
  let (year, rest) ← match trimStart cs with
    | '-' :: rest => (number? rest.length rest).map fun (n, rest) => (-(n : Int), rest)
    | '+' :: rest => (number? rest.length rest).map fun (n, rest) => ((n : Int), rest)
    | cs => (number? 4 cs).map fun (n, rest) => ((n : Int), rest)
  if isYear year then pure (year, rest) else failure

/-- A separator after blanks. -/
def separator? (separator : Char) : Reader Unit := fun cs =>
  match trimStart cs with
  | c :: rest => if c = separator then some ((), rest) else none
  | [] => none

/-- A date. -/
def date? : Reader Calendar.Date := fun cs => do
  let (year, cs) ← year? cs
  let (_, cs) ← separator? '-' cs
  let (month, cs) ← field? 1 12 cs
  let (_, cs) ← separator? '-' cs
  let (day, cs) ← field? 1 31 cs
  let date : Calendar.Date := { year, month, day }
  if date.isValid then pure (date, cs) else failure

/-- The fraction of a second in nanoseconds, if there is one. -/
def fraction? : Reader Nat
  | '.' :: cs => do
      let (_, _) ← number? 1 cs
      let ds := (cs.take 9).takeWhile Char.isDigit
      pure (numberOf (ds ++ List.replicate (9 - ds.length) '0'), cs.dropWhile Char.isDigit)
  | cs => some (0, cs)

/-- A time of day: its seconds, and its nanoseconds, which a leap second raises by a second. -/
def time? : Reader (Nat × Nat) := fun cs => do
  let (hour, cs) ← field? 0 23 cs
  let (_, cs) ← separator? ':' cs
  let (minute, cs) ← field? 0 59 cs
  let (_, cs) ← separator? ':' cs
  let (second, cs) ← field? 0 60 cs
  let (nanos, cs) ← fraction? cs
  let leap := second / 60
  pure ((hour * 3600 + minute * 60 + (second - leap), nanos + leap * nanosPerSecond), cs)

/-- Two digits. -/
def twoDigits? : Reader Nat
  | a :: b :: rest => if a.isDigit ∧ b.isDigit then some (numberOf [a, b], rest) else none
  | _ => none

/-- An offset of hours and minutes, in seconds. -/
def signedOffset? (sign : Int) : Reader Int := fun cs => do
  let (hours, cs) ← twoDigits? cs
  let (minutes, cs) ← twoDigits? (cs.dropWhile fun c => c = ':' || Text.isBlank c)
  if minutes < 60 ∧ hours < 24 then pure (sign * (hours * 3600 + minutes * 60 : Nat), cs)
  else failure

/-- The offset from UTC, in seconds. -/
def offset? : Reader Int
  | 'Z' :: rest => some (0, rest)
  | 'z' :: rest => some (0, rest)
  | '+' :: rest => signedOffset? 1 rest
  | '-' :: rest => signedOffset? (-1) rest
  | '−' :: rest => signedOffset? (-1) rest
  | u :: t :: c :: rest =>
      if (u = 'U' ∨ u = 'u') ∧ (t = 'T' ∨ t = 't') ∧ (c = 'C' ∨ c = 'c') then some (0, rest)
      else none
  | _ => none

/-- The mark between the date and the time of day. -/
def dateMark? : Reader Unit
  | c :: rest => if c = 'T' ∨ c = 't' ∨ c = ' ' then some ((), rest) else none
  | [] => none

/-- The instant that a text spells. -/
def ofText? (text : String) : Option Instant := do
  let (date, cs) ← date? text.toList
  let (_, cs) ← dateMark? cs
  let ((time, nanos), cs) ← time? cs
  let (offset, cs) ← offset? (trimStart cs)
  let seconds := date.dayNumber * secondsPerDay + time - offset
  let inYears := isYear (Calendar.Date.ofDayNumber (seconds / secondsPerDay)).year
  if h : (trimStart cs).isEmpty ∧ inYears ∧ nanos < 2000000000 then
    pure ⟨seconds, nanos, h.2.2⟩
  else
    failure

end OrgAccess.Instant
