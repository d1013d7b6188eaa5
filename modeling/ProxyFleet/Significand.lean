/-!
# Numbers of fifty-three binary places

Measurements are scaled in binary floating point: every result is rounded to the nearest number
that has fifty-three significant binary places, and a tie goes to the neighbour whose last place is
even.  Magnitudes are exact rational numbers here, so each rounding is a step of its own.

* `halfEven_intCast` : a whole number is its own rounding.
* `nearest_of_nonpos` : nothing is left of a magnitude that is not positive.
-/

namespace ProxyFleet

/-- The nearest whole number; a tie goes to the even one. -/
def halfEven (x : Rat) : Int :=
  let below := x.floor
  let rest := x - below
  if rest < 1 / 2 then below
  else if 1 / 2 < rest then below + 1
  else below + below % 2

/-- The nearest whole number; a tie goes up. -/
def halfUp (x : Rat) : Int := (x + 1 / 2).floor

/-- The exponent `e` for which a positive number lies between two to the `e` and twice that. -/
def binaryExponent (x : Rat) : Int :=
  let e : Int := (x.num.toNat.log2 : Int) - (x.den.log2 : Int)
  if (2 : Rat) ^ e ≤ x then e else e - 1

/-- The value of the last of fifty-three places of a positive number. -/
def lastPlace (x : Rat) : Rat := (2 : Rat) ^ (binaryExponent x - 52)

/-- A magnitude rounded to fifty-three places; what is not positive becomes zero. -/
def nearest (x : Rat) : Rat :=
  if x ≤ 0 then 0 else (halfEven (x / lastPlace x) : Rat) * lastPlace x

/-- Nothing is left of a magnitude that is not positive. -/
theorem nearest_of_nonpos {x : Rat} (h : x ≤ 0) : nearest x = 0 := by simp [nearest, h]

/-- A whole number is its own rounding. -/
theorem halfEven_intCast (n : Int) : halfEven n = n := by
  have h : (0 : Rat) < 1 / 2 := by decide +kernel
  simp only [halfEven, Rat.floor_intCast, Rat.sub_self, if_pos h]

end ProxyFleet
