import ProxyFleet.Significand

/-!
# Durations

A duration is a sign and a whole number of nanoseconds.  The sign is kept apart from the
magnitude, so a zero duration may carry one; whoever needs a length of time refuses the sign first.
-/

namespace ProxyFleet

/-- The largest number that a measurement is reported with. -/
def maxCount : Nat := 18446744073709551615

/-- A microsecond in nanoseconds. -/
def microNanos : Nat := 1000

/-- A millisecond in nanoseconds. -/
def milliNanos : Nat := 1000000

/-- A second in nanoseconds. -/
def secondNanos : Nat := 1000000000

/-- A signed length of time. -/
structure Duration where
  negative : Bool
  /-- The magnitude in nanoseconds. -/
  nanos : Nat
  deriving DecidableEq

namespace Duration

/-- The duration of some seconds and nanoseconds. -/
def ofSeconds (seconds nanos : Nat) : Duration := ⟨false, seconds * secondNanos + nanos⟩

/-- Whole milliseconds; what is left over is dropped. -/
def millis (d : Duration) : Nat := min (d.nanos / milliNanos) maxCount

/-- The magnitude in seconds as a number of fifty-three places. -/
def seconds (d : Duration) : Rat :=
  let whole : Nat := d.nanos / secondNanos
  let rest : Nat := d.nanos % secondNanos
  nearest (nearest whole + nearest ((rest : Rat) / secondNanos))

/-- Whole seconds, rounded to the nearest one. -/
def secondsRounded (d : Duration) : Nat := min (halfUp d.seconds).toNat maxCount

/-! ## Written form -/

/-- The digits of a number, with zeros in front up to `places` places. -/
def paddedDigits (places n : Nat) : List Char :=
  List.replicate (places - (Nat.toDigits 10 n).length) '0' ++ Nat.toDigits 10 n

/-- The digits of a fraction of `places` places, without the zeros at its end. -/
def fractionDigits (places rest : Nat) : List Char :=
  ((paddedDigits places rest).reverse.dropWhile (· == '0')).reverse

/-- A number with a fraction of `places` places and a unit. -/
def scaled (whole places rest : Nat) (unit : String) : String :=
  let fraction := fractionDigits places rest
  let point := if fraction.isEmpty then [] else '.' :: fraction
  String.ofList (Nat.toDigits 10 whole ++ point ++ unit.toList)

/-- The magnitude in the largest of four units that it reaches. -/
def magnitudeText (nanos : Nat) : String :=
  if secondNanos ≤ nanos then scaled (nanos / secondNanos) 9 (nanos % secondNanos) "s"
  else if milliNanos ≤ nanos then scaled (nanos / milliNanos) 6 (nanos % milliNanos) "ms"
  else if microNanos ≤ nanos then scaled (nanos / microNanos) 3 (nanos % microNanos) "\u00b5s"
  else scaled nanos 0 0 "ns"

/-- The written form: a minus sign if there is one, and the magnitude. -/
def text (d : Duration) : String :=
  (if d.negative then "-" else "") ++ magnitudeText d.nanos

end Duration

end ProxyFleet
