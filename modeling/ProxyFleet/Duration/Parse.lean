import ProxyFleet.Duration
import ProxyFleet.Json.Schema
import ProxyFleet.Text.Letter

/-!
# Reading durations

A duration is written as a sign and a row of terms such as `1h`, `2.5s` or `300ms`, each a decimal
number followed by a unit; `0` needs no unit.  The whole part of a term is scaled apart from its
fraction, and both in numbers of fifty-three places, so that a whole number of units is exact as
long as its nanoseconds fit into so many places.

A field of a record that holds a duration holds its written form; a text that is no duration refuses
the whole record.
-/

namespace ProxyFleet

/-- Why a text is no duration. -/
inductive DurationFault
  /-- A term has a unit that is not known. -/
  | invalidUnit
  /-- A term has no unit. -/
  | noUnit
  /-- A term has a unit but no number. -/
  | emptyNumber
  /-- What stands before a unit is no decimal number. -/
  | invalidNumber
  deriving DecidableEq

namespace DurationFault

/-- The units as an error message lists them. -/
def expectedUnits : String := "expected one of 'ns', 'us', '\u00b5s', 'ms', 's', 'm', or 'h'"

/-- The message of a fault. -/
def message : DurationFault → String
  | .invalidUnit => "invalid unit: " ++ expectedUnits
  | .noUnit => "missing a unit: " ++ expectedUnits
  | .emptyNumber => "invalid floating-point number: cannot parse float from empty string"
  | .invalidNumber => "invalid floating-point number: invalid float literal"

end DurationFault

/-- The units of time a term may have. -/
inductive TimeUnit
  | nanosecond
  | microsecond
  | millisecond
  | second
  | minute
  | hour
  deriving DecidableEq

namespace TimeUnit

/-- The length of a unit in nanoseconds. -/
def nanos : TimeUnit → Nat
  | .nanosecond => 1
  | .microsecond => microNanos
  | .millisecond => milliNanos
  | .second => secondNanos
  | .minute => 60 * secondNanos
  | .hour => 3600 * secondNanos

/-- The unit of a name.  A microsecond may be written with a `u`, with the micro sign and with the
Greek letter. -/
def ofName? (name : List Char) : Option TimeUnit :=
  if name = ['n', 's'] then some .nanosecond
  else if name = ['u', 's'] ∨ name = ['\u00b5', 's'] ∨ name = ['\u03bc', 's'] then
    some .microsecond
  else if name = ['m', 's'] then some .millisecond
  else if name = ['s'] then some .second
  else if name = ['m'] then some .minute
  else if name = ['h'] then some .hour
  else none

end TimeUnit

/-- A decimal number in front of a unit: a sign, the digits before the point and those after it. -/
structure DecimalNumber where
  negative : Bool
  whole : List Char
  fraction : List Char
  deriving DecidableEq

namespace DecimalNumber

/-- The number that digits stand for. -/
def digitsValue (digits : List Char) : Nat :=
  digits.foldl (fun n c => n * 10 + (c.toNat - '0'.toNat)) 0

/-- Splits a text at its first point. -/
def splitPoint (s : List Char) : List Char × List Char :=
  (s.takeWhile (· != '.'), (s.dropWhile (· != '.')).drop 1)

/-- Reads a decimal number.  There has to be a digit, after a sign even before the point. -/
def parse? (s : List Char) : Option DecimalNumber :=
  let signed := s.head? == some '+' || s.head? == some '-'
  let (whole, fraction) := splitPoint (if signed then s.drop 1 else s)
  if whole.all Char.isDigit && fraction.all Char.isDigit &&
      (!whole.isEmpty || (!signed && !fraction.isEmpty)) then
    some ⟨s.head? == some '-', whole, fraction⟩
  else none

/-- The whole part in nanoseconds, each of its units being `unit` nanoseconds long. -/
def wholeNanos (n : DecimalNumber) (unit : Nat) : Rat :=
  nearest (unit * nearest (digitsValue n.whole : Nat))

/-- The fraction in whole nanoseconds. -/
def fractionNanos (n : DecimalNumber) (unit : Nat) : Rat :=
  halfUp (nearest
    (unit * nearest ((digitsValue n.fraction : Nat) / Nat.pow 10 n.fraction.length : Rat)))

/-- The number of nanoseconds of so many units.  A sign belongs to the whole part alone; what it
takes below zero is nothing. -/
def nanos (n : DecimalNumber) (unit : Nat) : Nat :=
  let whole := n.wholeNanos unit
  let sum := nearest ((if n.negative then -whole else whole) + n.fractionNanos unit)
  min sum.floor.toNat maxCount

end DecimalNumber

namespace Duration

/-- The nanoseconds of one term: its number and its unit. -/
def termNanos (number unit : List Char) : Except DurationFault Nat :=
  match TimeUnit.ofName? unit with
  | none => .error .invalidUnit
  | some unit =>
    if number.isEmpty then .error .emptyNumber
    else match DecimalNumber.parse? number with
      | none => .error .invalidNumber
      | some n => .ok (n.nanos unit.nanos)

/-- The sum of a row of terms.  A term reaches from what is no letter to the end of its letters. -/
def sumTerms (s : List Char) : Except DurationFault Nat :=
  if s.isEmpty then .ok 0
  else
    match h : s.dropWhile (fun c => !Text.isLetter c) with
    | [] => .error .noUnit
    | c :: rest =>
      have : (rest.dropWhile Text.isLetter).length < s.length := by
        have h₁ := (List.dropWhile_suffix (fun c => !Text.isLetter c) (l := s)).length_le
        have h₂ := (List.dropWhile_suffix Text.isLetter (l := rest)).length_le
        rw [h, List.length_cons] at h₁
        omega
      do
        let first ← termNanos (s.takeWhile (fun c => !Text.isLetter c))
          (c :: rest.takeWhile Text.isLetter)
        let others ← sumTerms (rest.dropWhile Text.isLetter)
        return first + others
  termination_by s.length

/-- Reads a duration.  The first character decides on its sign; plus signs and then minus signs
are passed over. -/
def parse (s : String) : Except DurationFault Duration := do
  let negative := s.toList.head? == some '-'
  let body := (s.toList.dropWhile (· == '+')).dropWhile (· == '-')
  if body = ['0'] then return ⟨negative, 0⟩
  return ⟨negative, ← sumTerms body⟩

end Duration

/-- Durations in their written form. -/
def Format.duration : Format Duration where
  read json := json.text?.bind (fun s => (Duration.parse s).toOption)
  write d := .text d.text

end ProxyFleet
