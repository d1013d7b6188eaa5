import ProxyFleet.Address
import ProxyFleet.Duration.Parse
import ProxyFleet.Text.Blank

/-!
# Moments

Moments are kept as days of the calendar and times of day, without an offset.  They are read from
texts such as `2024-05-01T12:30:00.5+02:00`, in which blanks may stand between the parts and numbers
may have fewer digits.  They are written in whole seconds: a fraction is read, but not written.

* `Timestamp.parse?` : the moment that a text stands for.
* `Timestamp.text` : the text that is written for a moment.
-/

namespace ProxyFleet

/-! ## Days -/

/-- Whether a February has twenty-nine days. -/
def isLeapYear (year : Int) : Bool := year % 4 = 0 && (year % 100 ≠ 0 || year % 400 = 0)

/-- The number of days in a month. -/
def daysIn (year : Int) (month : Nat) : Nat :=
  if month = 2 then if isLeapYear year then 29 else 28
  else if month ∈ [4, 6, 9, 11] then 30
  else 31

/-- Whether there is such a day, in a year that a calendar reaches. -/
def IsDate (year : Int) (month day : Nat) : Prop :=
  (-262143 ≤ year ∧ year ≤ 262142) ∧ (1 ≤ month ∧ month ≤ 12) ∧ 1 ≤ day ∧ day ≤ daysIn year month

instance (year : Int) (month day : Nat) : Decidable (IsDate year month day) :=
  inferInstanceAs (Decidable (_ ∧ _))

/-- A day of the calendar. -/
structure Date where
  year : Int
  month : Nat
  day : Nat
  isDate : IsDate year month day
  deriving DecidableEq

namespace Date

/-- The day of a year and a month, if there is one. -/
def ofParts? (year : Int) (month day : Nat) : Option Date :=
  if h : IsDate year month day then some ⟨year, month, day, h⟩ else none

/-- The day after. -/
def next? (d : Date) : Option Date :=
  if d.day < daysIn d.year d.month then ofParts? d.year d.month (d.day + 1)
  else if d.month < 12 then ofParts? d.year (d.month + 1) 1
  else ofParts? (d.year + 1) 1 1

/-- The day before. -/
def previous? (d : Date) : Option Date :=
  if 1 < d.day then ofParts? d.year d.month (d.day - 1)
  else if 1 < d.month then ofParts? d.year (d.month - 1) (daysIn d.year (d.month - 1))
  else ofParts? (d.year - 1) 12 31

end Date

/-! ## Moments -/

/-- A time of day.  The sixty-first second of a minute is a leap second. -/
structure ClockTime where
  /-- The minute of the day. -/
  minute : Fin 1440
  second : Fin 61
  nanos : Fin 1000000000
  deriving DecidableEq

/-- A moment, up to nanoseconds. -/
structure Timestamp where
  date : Date
  time : ClockTime
  deriving DecidableEq

namespace Timestamp

open DecimalNumber (digitsValue)

/-- The moment of a day and a time that are so many minutes ahead. -/
def ofLocal? (date : Date) (time : ClockTime) (ahead : Int) : Option Timestamp :=
  let total := (time.minute : Int) - ahead
  let date := if total < 0 then date.previous? else if total < 1440 then some date else date.next?
  date.map (fun date => ⟨date, { time with minute := ⟨(total % 1440).toNat, by omega⟩ }⟩)

/-! ### Reading -/

/-- What is left of a text after its first blanks. -/
def skip (s : List Char) : List Char := s.dropWhile Text.isBlank

/-- Reads a number of up to `most` digits. -/
def number (most : Nat) (s : List Char) : Option (Nat × List Char) :=
  let digits := (s.take most).takeWhile Char.isDigit
  if digits.isEmpty then none else some (digitsValue digits, s.drop digits.length)

/-- Reads a year.  With a sign it may have more than four digits. -/
def year : List Char → Option (Int × List Char)
  | '-' :: s => (number s.length s).map (fun (n, rest) => (-(n : Int), rest))
  | '+' :: s => (number s.length s).map (fun (n, rest) => ((n : Int), rest))
  | s => (number 4 s).map (fun (n, rest) => ((n : Int), rest))

/-- Reads a day. -/
def day (s : List Char) : Option (Date × List Char) := do
  let (year, s) ← year (skip s)
  let (month, s) ← number 2 (skip (← Address.mark '-' (skip s)))
  let (day, s) ← number 2 (skip (← Address.mark '-' (skip s)))
  return (← Date.ofParts? year month day, s)

/-- Reads what stands between a day and a time. -/
def dayEnd : List Char → Option (List Char)
  | c :: s => if c = 'T' ∨ c = 't' ∨ c = ' ' then some s else none
  | [] => none

/-- Reads a fraction of a second, if there is one, in nanoseconds.  After nine digits more of them
count for nothing. -/
def fraction : List Char → Option (Nat × List Char)
  | '.' :: s =>
    let digits := s.takeWhile Char.isDigit
    if digits.isEmpty then none
    else some (digitsValue ((digits ++ List.replicate 9 '0').take 9), s.dropWhile Char.isDigit)
  | s => some (0, s)

/-- Reads a time of day. -/
def clockTime (s : List Char) : Option (ClockTime × List Char) := do
  let (hour, s) ← number 2 (skip s)
  let (minute, s) ← number 2 (skip (← Address.mark ':' (skip s)))
  let (second, s) ← number 2 (skip (← Address.mark ':' (skip s)))
  let (nanos, s) ← fraction s
  if h : hour < 24 ∧ minute < 60 ∧ second ≤ 60 ∧ nanos < 1000000000 then
    return (⟨⟨hour * 60 + minute, by omega⟩, ⟨second, by omega⟩, ⟨nanos, h.2.2.2⟩⟩, s)
  else none

/-- Reads a number of two digits. -/
def pair : List Char → Option (Nat × List Char)
  | a :: b :: s => if a.isDigit && b.isDigit then some (digitsValue [a, b], s) else none
  | _ => none

/-- Reads hours and minutes. -/
def hoursMinutes (s : List Char) : Option (Int × List Char) := do
  let (hours, s) ← pair s
  let (minutes, s) ← pair (s.dropWhile (fun c => c = ':' || Text.isBlank c))
  if minutes < 60 then return (hours * 60 + minutes, s) else none

/-- Reads by how many minutes a time is ahead. -/
def offset (s : List Char) : Option (Int × List Char) :=
  if (s.take 3).map Char.toUpper = ['U', 'T', 'C'] then some (0, s.drop 3)
  else
    match s with
    | 'Z' :: s | 'z' :: s => some (0, s)
    | '+' :: s => hoursMinutes s
    | '-' :: s | '\u2212' :: s => (hoursMinutes s).map (fun (n, rest) => (-n, rest))
    | _ => none

/-- Reads a moment. -/
def parse? (s : String) : Option Timestamp := do
  let (date, s) ← day s.toList
  let (time, s) ← clockTime (← dayEnd s)
  let (ahead, s) ← offset (skip s)
  if (-1440 < ahead ∧ ahead < 1440) ∧ skip s = [] then ofLocal? date time ahead else none

/-! ### Writing -/

/-- A year of four digits, or with a sign. -/
def yearDigits (year : Int) : List Char :=
  if 0 ≤ year ∧ year ≤ 9999 then Duration.paddedDigits 4 year.toNat
  else (if year < 0 then '-' else '+') :: Duration.paddedDigits 4 year.natAbs

/-- The text of a day. -/
def dayDigits (d : Date) : List Char :=
  yearDigits d.year ++ '-' :: (Duration.paddedDigits 2 d.month ++
    '-' :: Duration.paddedDigits 2 d.day)

/-- The text of a time of day, in whole seconds. -/
def clockDigits (t : ClockTime) : List Char :=
  Duration.paddedDigits 2 (t.minute / 60) ++ ':' :: (Duration.paddedDigits 2 (t.minute % 60) ++
    ':' :: Duration.paddedDigits 2 t.second)

/-- The text of a moment, in whole seconds. -/
def text (t : Timestamp) : String :=
  String.ofList (dayDigits t.date ++ 'T' :: (clockDigits t.time ++ ['Z']))

end Timestamp

/-- Moments in their written form. -/
def Format.timestamp : Format Timestamp where
  read json := json.text?.bind Timestamp.parse?
  write t := .text t.text

end ProxyFleet
