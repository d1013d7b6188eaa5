import ProxyFleet.Proofs.Rounding
import ProxyFleet.Proofs.TimeoutStatements
import ProxyFleet.Section.Instance

/-!
# Durations in whole seconds

Whether a duration is rounded to the nearest second.  Its whole seconds and the rest are added up as
one number of fifty-three places before that number is rounded, so that the rest is blurred first,
and the more so the more seconds stand in front of it.

**Parts of a second.**  A rest in nanoseconds stays on its side of every bound that matters, however
it is rounded on its own (`nearest_part_cases`).

**Sums.**  Behind some whole seconds, the half is reached from half a place below it on
(`half_le_nearest_iff`, `half_le_nearest_iff_of_log2_eq`); beyond fifty-three places, no rest counts
(`nearest_add_part`).

**Durations.**  Up to fifty-three places, `Duration.secondsRounded_eq` gives the rounded number, and
three lemmas say when the half is reached: `Duration.half_le_seconds_iff_of_lt` for few seconds,
`Duration.half_le_seconds_iff_of_lt_two_pow` for many, and `Duration.half_le_seconds_iff_of_le` where
a second is the last place.  `Duration.secondsRounded_of_le` is about more seconds than that.
`Duration.Misrounded` collects from them what goes wrong, and nothing else does
(`Duration.secondsRounded_eq_iff`).

**The statement.**  An accepted process sets the lifetime of encrypted sessions to the rounded number
(`Section.Global.settings_of_ofSpec`).

Main statement: `Section.Global.lifetime_nearest_iff`.
-/

namespace ProxyFleet

/-! ## Parts of a second -/

lemma secondNanos_cast : (secondNanos : Rat) = 1000000000 := by norm_num [secondNanos]

section Parts

variable {rest j : Nat}

lemma part_lt_one (h : rest < secondNanos) : (rest : Rat) / secondNanos ≤ 1 - 1 / secondNanos := by
  have hrest : (rest : Rat) + 1 ≤ secondNanos := by exact_mod_cast h
  rw [secondNanos_cast] at hrest ⊢
  linarith

/-- Rounded on its own, a part of a second stays one. -/
lemma nearest_part_bounds (h : rest < secondNanos) :
    0 ≤ nearest ((rest : Rat) / secondNanos) ∧ nearest ((rest : Rat) / secondNanos) < 1 := by
  have hnonneg : (0 : Rat) ≤ rest / secondNanos := by positivity
  have hone := part_lt_one h
  obtain ⟨hlow, hhigh⟩ := abs_le.1 (nearest_error hnonneg)
  rw [secondNanos_cast] at *
  constructor <;> linarith

/-- A part of a second that differs from a number of few binary places does so by more than its
rounding can move it. -/
lemma part_gap (h : (rest : Rat) / secondNanos ≠ j / 2 ^ 29) :
    (1 : Rat) / 2 ^ 53 < |(rest : Rat) / secondNanos - j / 2 ^ 29| := by
  rw [secondNanos_cast] at h ⊢
  obtain ⟨z, hz⟩ : ∃ z : Int, z = rest * 1048576 - j * 1953125 := ⟨_, rfl⟩
  have hsplit : (rest : Rat) / 1000000000 - j / 2 ^ 29 = z / 1048576000000000 := by
    rw [hz]
    push_cast
    ring
  have hne : z ≠ 0 := by
    intro hzero
    rw [hzero, Int.cast_zero, zero_div] at hsplit
    exact h (sub_eq_zero.1 hsplit)
  have hone : (1 : Rat) ≤ |(z : Rat)| := by exact_mod_cast Int.one_le_abs hne
  have hpos : (0 : Rat) < 1048576000000000 := by norm_num
  rw [hsplit, abs_div, abs_of_pos hpos, lt_div_iff₀ hpos]
  refine lt_of_lt_of_le ?_ hone
  norm_num

lemma lt_part_iff : (j : Rat) / 2 ^ 29 < rest / secondNanos ↔ secondNanos * j < 2 ^ 29 * rest := by
  have hpos : (0 : Rat) < secondNanos := by norm_num [secondNanos]
  rw [div_lt_div_iff₀ (by positivity) hpos, mul_comm (rest : Rat), mul_comm (j : Rat)]
  exact_mod_cast Iff.rfl

lemma part_eq_iff : (rest : Rat) / secondNanos = j / 2 ^ 29 ↔ 2 ^ 29 * rest = secondNanos * j := by
  have hpos : (0 : Rat) < secondNanos := by norm_num [secondNanos]
  rw [div_eq_div_iff hpos.ne' (by positivity), mul_comm (rest : Rat), mul_comm (j : Rat)]
  exact_mod_cast Iff.rfl

/-- **A part of a second lies on the same side** of a number of few binary places before and after
it is rounded. -/
lemma nearest_part_cases (h : rest < secondNanos) (hj : j < 2 ^ 53) :
    ((j : Rat) / 2 ^ 29 < nearest (rest / secondNanos) ↔ secondNanos * j < 2 ^ 29 * rest) ∧
      (nearest (rest / secondNanos) = j / 2 ^ 29 ↔ 2 ^ 29 * rest = secondNanos * j) := by
  have hnonneg : (0 : Rat) ≤ rest / secondNanos := by positivity
  have hone : (rest : Rat) / secondNanos < 1 := by
    rw [div_lt_one (by norm_num [secondNanos])]
    exact_mod_cast h
  have herror := abs_le.1 (nearest_error hnonneg)
  rw [← lt_part_iff, ← part_eq_iff]
  by_cases heq : (rest : Rat) / secondNanos = j / 2 ^ 29
  · rw [heq, nearest_div_two_pow hj]
    simp
  · have hgap := part_gap heq
    have hmoved : (rest : Rat) / secondNanos / 2 ^ 53 < 1 / 2 ^ 53 := by gcongr
    rcases lt_abs.1 hgap with hgap | hgap
    · have hless : (j : Rat) / 2 ^ 29 < nearest (rest / secondNanos) := by linarith
      have hless' : (j : Rat) / 2 ^ 29 < rest / secondNanos := by linarith
      exact ⟨iff_of_true hless hless', iff_of_false hless.ne' heq⟩
    · have hless : nearest (rest / secondNanos) < (j : Rat) / 2 ^ 29 := by linarith
      have hless' : (rest : Rat) / secondNanos < (j : Rat) / 2 ^ 29 := by linarith
      exact ⟨iff_of_false hless.asymm hless'.asymm, iff_of_false hless.ne heq⟩

end Parts

/-! ## Parts behind whole seconds -/

section Sums

variable {whole : Nat} {part : Rat}

/-- A part of one added to a whole number leaves the exponent as it is. -/
lemma exponent_add_part (hwhole : whole ≠ 0) (hpart : 0 ≤ part) (hpart' : part < 1) :
    (2 : Rat) ^ (whole.log2 : Int) ≤ whole + part ∧
      (whole : Rat) + part < 2 ^ (whole.log2 + 1 : Int) := by
  obtain ⟨hlow, -⟩ := two_zpow_log2_le hwhole
  have hhigh : (whole : Rat) + 1 ≤ 2 ^ (whole.log2 + 1 : Int) := by
    exact_mod_cast Nat.lt_log2_self (n := whole)
  constructor <;> linarith

/-- **The half behind whole seconds** is reached from half a place below it on, and at that half only
where there is more than one place behind the point. -/
lemma half_le_nearest_iff (hwhole : whole ≠ 0) (hlog : whole.log2 ≤ 51) (hpart : 0 ≤ part)
    (hpart' : part < 1) : (whole : Rat) + 1 / 2 ≤ nearest (whole + part) ↔
      1 / 2 - 2 ^ (whole.log2 - 53 : Int) < part ∨
        part = 1 / 2 - 2 ^ (whole.log2 - 53 : Int) ∧ whole.log2 < 51 := by
  obtain ⟨hlow, hhigh⟩ := exponent_add_part hwhole hpart hpart'
  obtain ⟨m, hm⟩ := Nat.exists_eq_add_of_le hlog
  have hplaces : (whole : Rat) + 1 / 2 =
      (((2 * whole + 1) * 2 ^ m : Nat) : Int) * 2 ^ (whole.log2 - 52 : Int) := by
    have hexponent : (whole.log2 - 52 : Int) = -(m + 1 : Nat) := by
      push_cast
      omega
    rw [hexponent, zpow_neg, zpow_natCast]
    push_cast
    field_simp
    ring
  have heven : (2 : Int) ∣ ((2 * whole + 1) * 2 ^ m : Nat) ↔ whole.log2 < 51 := by
    cases m with
    | zero => omega
    | succ m =>
      have hdvd : 2 ∣ (2 * whole + 1) * 2 ^ (m + 1) :=
        Dvd.dvd.mul_left (dvd_pow_self 2 (Nat.succ_ne_zero m)) _
      exact iff_of_true (by exact_mod_cast hdvd) (by omega)
  rw [le_nearest_iff hlow hhigh hplaces, heven]
  constructor
  · rintro (h | ⟨h, hlt⟩)
    · exact .inl (by linarith)
    · exact .inr ⟨by linarith, hlt⟩
  · rintro (h | ⟨h, hlt⟩)
    · exact .inl (by linarith)
    · exact .inr ⟨by linarith, hlt⟩

/-- Where the last place is a second, the half behind it is reached by more than a half, and by a
half if the next second is even. -/
lemma half_le_nearest_iff_of_log2_eq (hlog : whole.log2 = 52) (hpart : 0 ≤ part)
    (hpart' : part < 1) : (whole : Rat) + 1 / 2 ≤ nearest (whole + part) ↔
      1 / 2 < part ∨ part = 1 / 2 ∧ 2 ∣ whole + 1 := by
  have hwhole : whole ≠ 0 := by
    rintro rfl
    simp at hlog
  obtain ⟨hlow, hhigh⟩ := exponent_add_part hwhole hpart hpart'
  have hplaces : (whole : Rat) + 1 = ((whole + 1 : Nat) : Int) * 2 ^ (whole.log2 - 52 : Int) := by
    rw [hlog]
    norm_num
  have hinteger : nearest (whole + part) = halfEven (whole + part) := by
    have hpos : ¬ (whole + part : Rat) ≤ 0 := not_le.2 ((zpow_pos two_pos _).trans_le hlow)
    rw [nearest, if_neg hpos, lastPlace, binaryExponent_eq hlow hhigh, hlog]
    norm_num
  have hnext : (whole : Rat) + 1 / 2 ≤ nearest (whole + part) ↔
      (whole : Rat) + 1 ≤ nearest (whole + part) := by
    rw [hinteger]
    constructor
    · intro h
      have hlt : ((whole : Int) : Rat) < halfEven (whole + part) := by
        push_cast
        linarith
      exact_mod_cast Int.add_one_le_iff.2 (Int.cast_lt.1 hlt)
    · intro h
      linarith
  have hstep : (2 : Rat) ^ (whole.log2 - 53 : Int) = 1 / 2 := by
    rw [hlog]
    norm_num
  rw [hnext, le_nearest_iff hlow hhigh hplaces, hstep]
  constructor
  · rintro (h | ⟨h, heven⟩)
    · exact .inl (by linarith)
    · exact .inr ⟨by linarith, by exact_mod_cast heven⟩
  · rintro (h | ⟨h, heven⟩)
    · exact .inl (by linarith)
    · exact .inr ⟨by linarith, by exact_mod_cast heven⟩

/-- The multiple of a step that is nearest to a number; of two that are as near, the even one. -/
def nearestMultiple (step n : Nat) : Nat := (halfEven ((n : Rat) / step)).toNat * step

/-- A large whole number is rounded to a multiple of its last place. -/
lemma nearest_eq_nearestMultiple (h : 2 ^ 52 ≤ whole) :
    nearest whole = nearestMultiple (2 ^ (whole.log2 - 52)) whole := by
  have hwhole : whole ≠ 0 := by omega
  have hlog : 52 ≤ whole.log2 := (Nat.le_log2 hwhole).2 h
  have hpos : (0 : Rat) < whole := by exact_mod_cast Nat.pos_of_ne_zero hwhole
  obtain ⟨hlow, hhigh⟩ := two_zpow_log2_le hwhole
  have hexponent : (whole.log2 - 52 : Int) = ((whole.log2 - 52 : Nat) : Int) := by omega
  have hplace : lastPlace whole = (2 ^ (whole.log2 - 52) : Nat) := by
    rw [lastPlace, binaryExponent_eq hlow hhigh, hexponent, zpow_natCast]
    push_cast
    rfl
  have hnonneg : 0 ≤ halfEven ((whole : Rat) / (2 ^ (whole.log2 - 52) : Nat)) := by
    rw [le_halfEven_iff]
    left
    have hquotient : (0 : Rat) ≤ (whole : Rat) / (2 ^ (whole.log2 - 52) : Nat) := by positivity
    push_cast at hquotient ⊢
    linarith
  have hcast : ((halfEven ((whole : Rat) / (2 ^ (whole.log2 - 52) : Nat))).toNat : Rat) =
      halfEven ((whole : Rat) / (2 ^ (whole.log2 - 52) : Nat)) := by
    exact_mod_cast congrArg (Int.cast (R := Rat)) (Int.toNat_of_nonneg hnonneg)
  rw [nearest, if_neg (not_le.2 hpos), hplace, nearestMultiple, Nat.cast_mul, hcast]

/-- **No part of a second counts** behind more whole seconds than fit into fifty-three places. -/
lemma nearest_add_part (hwhole : 2 ^ 53 ≤ whole) (hpart : 0 ≤ part) (hpart' : part < 1) :
    nearest (nearest whole + part) = nearest whole := by
  have hne : whole ≠ 0 := by omega
  have hlog : 53 ≤ whole.log2 := (Nat.le_log2 hne).2 hwhole
  have hpos : (0 : Rat) < whole := by exact_mod_cast Nat.pos_of_ne_zero hne
  obtain ⟨hlow, hhigh⟩ := two_zpow_log2_le hne
  obtain ⟨n, hn, hnlow, hnhigh⟩ := exists_nearest_eq hpos
  have hplace : part < 2 ^ (binaryExponent whole - 52) / 2 := by
    have hstep : (2 : Rat) ^ (1 : Int) ≤ 2 ^ (binaryExponent whole - 52) :=
      zpow_le_zpow_right₀ one_le_two (by rw [binaryExponent_eq hlow hhigh]; omega)
    rw [zpow_one] at hstep
    linarith
  rw [hn]
  exact nearest_add hnlow hnhigh hpart hplace

end Sums

/-! ## Durations -/

/-- What is not far from a whole number is rounded to it or to the next one. -/
lemma halfUp_eq_ite {x : Rat} {n : Nat} (hlow : (n : Rat) - 1 / 2 ≤ x) (hhigh : x < n + 3 / 2) :
    halfUp x = (n + if (n : Rat) + 1 / 2 ≤ x then 1 else 0 : Nat) := by
  change ⌊x + 1 / 2⌋ = _
  rw [Int.floor_eq_iff]
  split_ifs with h
  · push_cast
    constructor <;> linarith
  · push_cast
    constructor <;> linarith

lemma halfUp_natCast (n : Nat) : halfUp n = n :=
  halfUp_eq_of_error (by simp)

namespace Duration

/-- The whole seconds of a duration. -/
def wholeSeconds (d : Duration) : Nat := d.nanos / secondNanos

/-- The nanoseconds behind its whole seconds. -/
def restNanos (d : Duration) : Nat := d.nanos % secondNanos

/-- The whole number of seconds that is nearest to a duration; a half goes up. -/
def nearestSeconds (d : Duration) : Nat := (d.nanos + secondNanos / 2) / secondNanos

variable (d : Duration)

lemma restNanos_lt : d.restNanos < secondNanos := Nat.mod_lt _ (by decide)

lemma nearestSeconds_eq :
    d.nearestSeconds = d.wholeSeconds + if secondNanos ≤ 2 * d.restNanos then 1 else 0 := by
  rw [nearestSeconds, wholeSeconds, restNanos, secondNanos]
  split_ifs <;> omega

variable {d}

/-! ### Up to fifty-three places -/

/-- Whole seconds of so few places are added to the rest as they are. -/
lemma seconds_eq (h : d.wholeSeconds ≤ 2 ^ 53) :
    d.seconds = nearest (d.wholeSeconds + nearest ((d.restNanos : Rat) / secondNanos)) := by
  change nearest (nearest (d.wholeSeconds : Rat) + _) = _
  rw [nearest_natCast h]
  rfl

/-- **The rounded number** is the whole seconds or the next number, as the half between them is
reached. -/
lemma secondsRounded_eq (h : d.wholeSeconds < 2 ^ 53) : d.secondsRounded =
    d.wholeSeconds + if (d.wholeSeconds : Rat) + 1 / 2 ≤ d.seconds then 1 else 0 := by
  obtain ⟨hlow, hhigh⟩ := nearest_part_bounds d.restNanos_lt
  have hnonneg : (0 : Rat) ≤ d.wholeSeconds := Nat.cast_nonneg _
  have hless : (d.wholeSeconds : Rat) + nearest ((d.restNanos : Rat) / secondNanos) <
      2 ^ (53 : Int) := by
    have hnext : (d.wholeSeconds : Rat) + 1 ≤ 2 ^ (53 : Int) := by exact_mod_cast h
    linarith
  have herror := abs_le.1 (nearest_error_of_lt (add_nonneg hnonneg hlow) hless)
  rw [← seconds_eq h.le] at herror
  norm_num at herror
  have hrounded := halfUp_eq_ite (x := d.seconds) (n := d.wholeSeconds) (by linarith)
    (by linarith)
  rw [secondsRounded, hrounded, Int.toNat_natCast]
  refine Nat.min_eq_left ?_
  rw [maxCount]
  split_ifs <;> omega

/-- A rest of half a second is rounded to a half, a smaller one to less and a larger one to more. -/
lemma nearest_rest_cases (d : Duration) :
    (1 / 2 < nearest ((d.restNanos : Rat) / secondNanos) ↔ secondNanos < 2 * d.restNanos) ∧
      (nearest ((d.restNanos : Rat) / secondNanos) = 1 / 2 ↔ 2 * d.restNanos = secondNanos) := by
  obtain ⟨hless, heq⟩ := nearest_part_cases (j := 2 ^ 28) d.restNanos_lt (by norm_num)
  have hhalf : ((2 ^ 28 : Nat) : Rat) / 2 ^ 29 = 1 / 2 := by norm_num
  rw [hhalf] at hless heq
  rw [hless, heq]
  omega

/-- **Below 2²⁴ seconds**, the half is reached by the durations that reach it. -/
lemma half_le_seconds_iff_of_lt (h : d.wholeSeconds < 2 ^ 24) :
    (d.wholeSeconds : Rat) + 1 / 2 ≤ d.seconds ↔ secondNanos ≤ 2 * d.restNanos := by
  obtain ⟨hlow, hhigh⟩ := nearest_part_bounds d.restNanos_lt
  obtain ⟨-, heq⟩ := d.nearest_rest_cases
  have hnonneg : (0 : Rat) ≤ d.wholeSeconds := Nat.cast_nonneg _
  have hless : (d.wholeSeconds : Rat) + nearest ((d.restNanos : Rat) / secondNanos) <
      2 ^ (24 : Int) := by
    have hnext : (d.wholeSeconds : Rat) + 1 ≤ 2 ^ (24 : Int) := by exact_mod_cast h
    linarith
  have hsum := abs_le.1 (nearest_error_of_lt (add_nonneg hnonneg hlow) hless)
  have hrest : (0 : Rat) ≤ d.restNanos / secondNanos := by positivity
  have hrest' := part_lt_one d.restNanos_lt
  have hpart := abs_le.1 (nearest_error hrest)
  rw [seconds_eq (by omega)]
  rw [secondNanos_cast] at *
  norm_num at hsum
  rcases lt_trichotomy (2 * d.restNanos) secondNanos with hlt | hhalf | hgt
  · -- a nanosecond less than the half is more than the rounding can make up for
    have hlt' : (d.restNanos : Rat) + 1 ≤ 500000000 := by
      rw [secondNanos] at hlt
      exact_mod_cast (by omega : d.restNanos + 1 ≤ 500000000)
    refine iff_of_false (not_le.2 ?_) (not_le.2 hlt)
    linarith
  · have hexact := nearest_div_two_pow (n := 2 * d.wholeSeconds + 1) (by omega) 1
    have hsplit : ((2 * d.wholeSeconds + 1 : Nat) : Rat) / 2 ^ 1 = d.wholeSeconds + 1 / 2 := by
      push_cast
      ring
    rw [hsplit] at hexact
    rw [heq.2 hhalf, hexact]
    exact iff_of_true le_rfl hhalf.ge
  · have hgt' : (500000000 : Rat) + 1 ≤ d.restNanos := by
      rw [secondNanos] at hgt
      exact_mod_cast (by omega : 500000000 + 1 ≤ d.restNanos)
    refine iff_of_true ?_ hgt.le
    linarith

/-- **From 2²⁴ to 2⁵² seconds**, the half is reached from half a place below it on, and at that
half only where there is more than one place behind the point. -/
lemma half_le_seconds_iff_of_lt_two_pow (hlow : 2 ^ 24 ≤ d.wholeSeconds)
    (hhigh : d.wholeSeconds < 2 ^ 52) : (d.wholeSeconds : Rat) + 1 / 2 ≤ d.seconds ↔
      secondNanos * (2 ^ 28 - 2 ^ (d.wholeSeconds.log2 - 24)) < 2 ^ 29 * d.restNanos ∨
        2 ^ 29 * d.restNanos = secondNanos * (2 ^ 28 - 2 ^ (d.wholeSeconds.log2 - 24)) ∧
          d.wholeSeconds < 2 ^ 51 := by
  obtain ⟨hnonneg, hone⟩ := nearest_part_bounds d.restNanos_lt
  have hne : d.wholeSeconds ≠ 0 := by omega
  have hlog : 24 ≤ d.wholeSeconds.log2 := (Nat.le_log2 hne).2 hlow
  have hlog' : d.wholeSeconds.log2 < 52 := (Nat.log2_lt hne).2 hhigh
  have hpower : 2 ^ (d.wholeSeconds.log2 - 24) ≤ 2 ^ 28 :=
    Nat.pow_le_pow_right two_pos (by omega)
  have hbound : ((2 ^ 28 - 2 ^ (d.wholeSeconds.log2 - 24) : Nat) : Rat) / 2 ^ 29 =
      1 / 2 - 2 ^ (d.wholeSeconds.log2 - 53 : Int) := by
    have hexponent : (d.wholeSeconds.log2 - 53 : Int) =
        (d.wholeSeconds.log2 - 24 : Nat) - (29 : Nat) := by omega
    rw [hexponent, zpow_sub₀ two_ne_zero, zpow_natCast, zpow_natCast, Nat.cast_sub hpower]
    push_cast
    ring
  obtain ⟨hless, heq⟩ := nearest_part_cases (j := 2 ^ 28 - 2 ^ (d.wholeSeconds.log2 - 24))
    d.restNanos_lt ((Nat.sub_le _ _).trans_lt (by norm_num))
  rw [seconds_eq (by omega), half_le_nearest_iff hne (by omega) hnonneg hone, ← hbound, hless, heq,
    Nat.log2_lt hne]

/-- **From 2⁵² to 2⁵³ seconds**, the half is reached by more than a half, and by a half if the next
second is even. -/
lemma half_le_seconds_iff_of_le (hlow : 2 ^ 52 ≤ d.wholeSeconds)
    (hhigh : d.wholeSeconds < 2 ^ 53) : (d.wholeSeconds : Rat) + 1 / 2 ≤ d.seconds ↔
      secondNanos < 2 * d.restNanos ∨ 2 * d.restNanos = secondNanos ∧ 2 ∣ d.wholeSeconds + 1 := by
  obtain ⟨hnonneg, hone⟩ := nearest_part_bounds d.restNanos_lt
  obtain ⟨hless, heq⟩ := d.nearest_rest_cases
  have hne : d.wholeSeconds ≠ 0 := by omega
  have hlog : 52 ≤ d.wholeSeconds.log2 := (Nat.le_log2 hne).2 hlow
  have hlog' : d.wholeSeconds.log2 < 53 := (Nat.log2_lt hne).2 hhigh
  rw [seconds_eq hhigh.le, half_le_nearest_iff_of_log2_eq (by omega) hnonneg hone, hless, heq]

/-! ### Beyond fifty-three places -/

/-- **From 2⁵³ seconds on**, the rounded number is the multiple of the last place that is nearest to
the whole seconds; the rest does not count. -/
lemma secondsRounded_of_le (h : 2 ^ 53 ≤ d.wholeSeconds) : d.secondsRounded =
    min (nearestMultiple (2 ^ (d.wholeSeconds.log2 - 52)) d.wholeSeconds) maxCount := by
  obtain ⟨hnonneg, hone⟩ := nearest_part_bounds d.restNanos_lt
  have hseconds : d.seconds =
      nearestMultiple (2 ^ (d.wholeSeconds.log2 - 52)) d.wholeSeconds := by
    rw [← nearest_eq_nearestMultiple (by omega)]
    exact nearest_add_part h hnonneg hone
  rw [secondsRounded, hseconds, halfUp_natCast, Int.toNat_natCast]

/-! ### What goes wrong -/

/-- **The durations that are not rounded to the nearest second.** -/
inductive Misrounded (d : Duration) : Prop
  /-- The rest is less than a half, but with the whole seconds in front of it the sum is rounded up
  to the half: the next second comes out. -/
  | below (hlow : 2 ^ 24 ≤ d.wholeSeconds) (hhigh : d.wholeSeconds < 2 ^ 52)
      (hrest : 2 * d.restNanos < secondNanos)
      (hreach : secondNanos * (2 ^ 28 - 2 ^ (d.wholeSeconds.log2 - 24)) < 2 ^ 29 * d.restNanos ∨
        2 ^ 29 * d.restNanos = secondNanos * (2 ^ 28 - 2 ^ (d.wholeSeconds.log2 - 24)) ∧
          d.wholeSeconds < 2 ^ 51)
  /-- The rest is a half behind an even second that has no places behind it: the half is lost. -/
  | tie (hlow : 2 ^ 52 ≤ d.wholeSeconds) (hhigh : d.wholeSeconds < 2 ^ 53)
      (hrest : 2 * d.restNanos = secondNanos) (heven : 2 ∣ d.wholeSeconds)
  /-- Single seconds have no place any more, and the nearest number is not a multiple of the last
  place. -/
  | coarse (hlow : 2 ^ 53 ≤ d.wholeSeconds)
      (hmultiple : min (nearestMultiple (2 ^ (d.wholeSeconds.log2 - 52)) d.wholeSeconds) maxCount ≠
        min d.nearestSeconds maxCount)

/-- Short durations are rounded to the nearest second. -/
lemma not_misrounded_of_lt (h : d.wholeSeconds < 2 ^ 24) : ¬ d.Misrounded := by
  rintro (⟨hlow⟩ | ⟨hlow⟩ | ⟨hlow⟩) <;> omega

lemma nearestSeconds_le_maxCount (h : d.wholeSeconds < 2 ^ 53) : d.nearestSeconds ≤ maxCount := by
  rw [nearestSeconds_eq, maxCount]
  split_ifs <;> omega

/-- Up to fifty-three places, the nearest second comes out if the half is reached as it should be. -/
lemma secondsRounded_eq_nearestSeconds_iff (h : d.wholeSeconds < 2 ^ 53) :
    d.secondsRounded = min d.nearestSeconds maxCount ↔
      ((d.wholeSeconds : Rat) + 1 / 2 ≤ d.seconds ↔ secondNanos ≤ 2 * d.restNanos) := by
  rw [Nat.min_eq_left (nearestSeconds_le_maxCount h), secondsRounded_eq h, nearestSeconds_eq]
  grind

/-- A rest of a half reaches the half wherever there are places behind the point. -/
lemma lt_of_secondNanos_le (h : secondNanos ≤ 2 * d.restNanos) (m : Nat) :
    secondNanos * (2 ^ 28 - 2 ^ m) < 2 ^ 29 * d.restNanos :=
  calc secondNanos * (2 ^ 28 - 2 ^ m) < secondNanos * 2 ^ 28 := by
        have hless : 2 ^ 28 - 2 ^ m < 2 ^ 28 := Nat.sub_lt (Nat.two_pow_pos 28) (Nat.two_pow_pos m)
        rw [secondNanos]
        omega
    _ ≤ 2 * d.restNanos * 2 ^ 28 := Nat.mul_le_mul_right _ h
    _ = 2 ^ 29 * d.restNanos := by ring

/-- **A duration is rounded to the nearest second** unless it is one of those that are not. -/
lemma secondsRounded_eq_iff : d.secondsRounded = min d.nearestSeconds maxCount ↔ ¬ d.Misrounded := by
  rcases Nat.lt_or_ge d.wholeSeconds (2 ^ 24) with h24 | h24
  · rw [secondsRounded_eq_nearestSeconds_iff (by omega), half_le_seconds_iff_of_lt h24]
    exact iff_of_true Iff.rfl (not_misrounded_of_lt h24)
  rcases Nat.lt_or_ge d.wholeSeconds (2 ^ 52) with h52 | h52
  · rw [secondsRounded_eq_nearestSeconds_iff (by omega), half_le_seconds_iff_of_lt_two_pow h24 h52]
    constructor
    · rintro hreach (⟨-, -, hrest, hbelow⟩ | ⟨hlow⟩ | ⟨hlow⟩)
      · exact not_le.2 hrest (hreach.1 hbelow)
      · omega
      · omega
    · intro hnot
      refine ⟨fun hreach => ?_, fun hhalf => .inl (lt_of_secondNanos_le hhalf _)⟩
      by_contra hrest
      exact hnot (.below h24 h52 (not_le.1 hrest) hreach)
  rcases Nat.lt_or_ge d.wholeSeconds (2 ^ 53) with h53 | h53
  · rw [secondsRounded_eq_nearestSeconds_iff h53, half_le_seconds_iff_of_le h52 h53]
    constructor
    · rintro hreach (⟨hlow, hhigh⟩ | ⟨-, -, hrest, heven⟩ | ⟨hlow⟩)
      · omega
      · have htie := hreach.2 hrest.ge
        omega
      · omega
    · intro hnot
      refine ⟨by omega, fun hhalf => ?_⟩
      rcases hhalf.eq_or_lt with hrest | hmore
      · have hodd : ¬ 2 ∣ d.wholeSeconds := fun heven => hnot (.tie h52 h53 hrest.symm heven)
        omega
      · exact .inl hmore
  · rw [secondsRounded_of_le h53]
    constructor
    · rintro heq (⟨hlow, hhigh⟩ | ⟨hlow, hhigh⟩ | ⟨-, hmultiple⟩)
      · omega
      · omega
      · exact hmultiple heq
    · intro hnot
      by_contra hne
      exact hnot (.coarse h53 hne)

end Duration

/-! ## The statement -/

namespace Section

lemma Tuning.settings_numeric {word other : String} (h : ' ' ∉ other.toList) (hother : other ≠ word)
    (n : Option Int64) : settings word (numeric other n) = [] :=
  settings_toList_map_of_ne _ (fun _ => keyword_statement h _) hother n

/-- Of the statements of the tuning, that of the lifetime is left. -/
lemma Tuning.settings_lifetime (t : Tuning) : settings "tune.ssl.lifetime" t.statements =
    t.lifetime.toList.map (fun n => statement ["tune.ssl.lifetime", toString n]) := by
  have hkeylog := settings_toList_map_of_ne "tune.ssl.lifetime"
    (f := fun s => statement ["tune.ssl.keylog", s])
    (fun _ => keyword_statement (by decide) _) (by decide) t.keylog
  have hlifetime := settings_map "tune.ssl.lifetime"
    (f := fun n : Nat => statement ["tune.ssl.lifetime", toString n])
    (fun _ => keyword_statement (by decide) _) t.lifetime.toList
  rw [statements, Option.toList_map (o := t.lifetime)]
  simp only [settings_append, hkeylog, hlifetime]
  simp (disch := decide) only [settings_numeric, settings_flag, List.append_nil, List.nil_append]

lemma GlobalTls.settings_listed {word other : String} (h : ' ' ∉ other.toList)
    (hother : other ≠ word) (names : List String) : settings word (listed other names) = [] := by
  rw [listed]
  split
  · rfl
  · refine settings_eq_nil fun s hs => ?_
    rw [List.mem_singleton.1 hs, keyword_statement h]
    exact hother

lemma GlobalTls.settings_lifetime (t : GlobalTls) :
    settings "tune.ssl.lifetime" t.statements = [] := by
  have hoptions := settings_toList_map_of_ne "tune.ssl.lifetime"
    (f := fun v => statement ["ssl-default-bind-options", "ssl-min-ver", v])
    (fun _ => keyword_statement (by decide) _) (by decide) t.minVersion
  rw [statements, settings_append, settings_append, hoptions]
  simp (disch := decide) only [settings_listed, List.append_nil]

/-- Of the statements of a process, those of its tuning are left, and what the additional parameters
add. -/
lemma Global.settings_lifetime (g : Global) : settings "tune.ssl.lifetime" g.fragment.statements =
    settings "tune.ssl.lifetime" ((g.tuning.map Tuning.statements).getD []) ++
      settings "tune.ssl.lifetime" g.additionalParameters := by
  have hstop := settings_toList_map_of_ne "tune.ssl.lifetime"
    (f := fun n : Nat => statement ["hard-stop-after", toString n])
    (fun _ => keyword_statement (by decide) _) (by decide) g.hardStopAfter
  have hstats := settings_toList_map_of_ne "tune.ssl.lifetime"
    (f := fun n : Nat => statement ["stats", "timeout", toString n])
    (fun _ => keyword_statement (by decide) _) (by decide) g.statsTimeout
  have hlog := settings_toList_map_of_ne "tune.ssl.lifetime" (f := LogTarget.statement)
    (fun _ => keyword_statement (by decide) _) (by decide) g.log
  have hhost := settings_toList_map_of_ne "tune.ssl.lifetime"
    (f := fun h : Option String => statement ("log-send-hostname" :: h.toList))
    (fun _ => keyword_statement (by decide) _) (by decide) g.sendHostname
  have hsocket : settings "tune.ssl.lifetime" (flag Global.statsSocket g.reload) = [] :=
    settings_flag _ (by decide) g.reload
  have htls : settings "tune.ssl.lifetime" ((g.tls.map GlobalTls.statements).getD []) = [] := by
    cases g.tls with
    | none => rfl
    | some t => exact t.settings_lifetime
  simp only [fragment, settings_append, hstop, hstats, hlog, hhost, hsocket, htls]
  simp (disch := decide) only [Tuning.settings_numeric, List.nil_append]

/-- The lifetime of encrypted sessions that a process declares. -/
def Global.lifetime? (g : Spec.Global) : Option Duration :=
  (g.tuning.bind (·.tls)).bind (·.lifetime)

/-- An accepted process sets the lifetime to the rounded number. -/
lemma Global.settings_of_ofSpec {space : String} {s : Spec.Global} {g : Global} {d : Duration}
    (hd : lifetime? s = some d) (h : ofSpec space s = .ok g) :
    settings "tune.ssl.lifetime" g.fragment.statements =
      statement ["tune.ssl.lifetime", toString d.secondsRounded] ::
        settings "tune.ssl.lifetime" g.additionalParameters := by
  simp only [lifetime?, Option.bind_eq_some_iff] at hd
  obtain ⟨tls, ⟨t, ht, htls⟩, hlifetime⟩ := hd
  simp only [ofSpec, Check.bind_eq_ok_iff, Check.pure_eq_ok_iff] at h
  obtain ⟨stop, -, stats, -, tuning, htuning, certificates, -, rfl⟩ := h
  rw [ht] at htuning
  obtain ⟨checked, hchecked, htuning⟩ := Check.bind_eq_ok_iff.1 htuning
  cases htuning
  rw [Tuning.ofSpec, htls] at hchecked
  obtain ⟨n, hn, hchecked⟩ := Check.bind_eq_ok_iff.1 hchecked
  rw [hlifetime] at hn
  obtain ⟨rounded, hrounded, hn⟩ := Check.bind_eq_ok_iff.1 hn
  cases hn
  cases hchecked
  rw [Tuning.lifetimeOf] at hrounded
  split at hrounded
  · cases hrounded
  · cases hrounded
    rw [settings_lifetime, Option.map_some, Option.getD_some, Tuning.settings_lifetime]
    rfl

/-- **The lifetime of encrypted sessions is the nearest second** to the declared one, halves going
up, exactly if the declared one is not among those that come out wrong, which all have 2²⁴ seconds
or more.  That number is what the section of the process sets. -/
theorem Global.lifetime_nearest_iff (d : Duration) :
    (d.secondsRounded = min d.nearestSeconds maxCount ↔ ¬ d.Misrounded) ∧
      (d.nanos < 2 ^ 24 * secondNanos → d.secondsRounded = d.nearestSeconds) ∧
      ∀ (space : String) (s : Spec.Global) (g : Global), lifetime? s = some d →
        ofSpec space s = .ok g → settings "tune.ssl.lifetime" g.fragment.statements =
          statement ["tune.ssl.lifetime", toString d.secondsRounded] ::
            settings "tune.ssl.lifetime" g.additionalParameters := by
  refine ⟨Duration.secondsRounded_eq_iff, fun h => ?_, fun space s g hd hg =>
    settings_of_ofSpec hd hg⟩
  have hwhole : d.wholeSeconds < 2 ^ 24 := (Nat.div_lt_iff_lt_mul (by decide)).2 h
  have hnearest := Duration.nearestSeconds_le_maxCount (d := d) (by omega)
  rw [Duration.secondsRounded_eq_iff.2 (Duration.not_misrounded_of_lt hwhole),
    Nat.min_eq_left hnearest]

/-- A process whose encrypted sessions live for some time. -/
def Global.withLifetime (d : Duration) : Spec.Global :=
  { Spec.Global.none with
    tuning := some ⟨none, none, some ⟨none, "", some d, false, none, 0, 0, none⟩⟩ }

/-- A minute and a half second become sixty-one seconds. -/
theorem Global.lifetime_nearest_minute : (Duration.ofSeconds 60 500000000).secondsRounded = 61 ∧
    (Global.ofSpec "edge" (withLifetime (.ofSeconds 60 500000000))).map
      (fun g => settings "tune.ssl.lifetime" g.fragment.statements) =
        .ok ["tune.ssl.lifetime 61"] := by
  obtain ⟨-, hnearest, hset⟩ := Global.lifetime_nearest_iff (.ofSeconds 60 500000000)
  have hrounded : (Duration.ofSeconds 60 500000000).secondsRounded = 61 :=
    (hnearest (by decide +kernel)).trans (by decide +kernel)
  refine ⟨hrounded, ?_⟩
  obtain ⟨g, hg⟩ : ∃ g, Global.ofSpec "edge" (withLifetime (.ofSeconds 60 500000000)) = .ok g :=
    ⟨_, rfl⟩
  have hlines := hset "edge" _ g rfl hg
  rw [hrounded] at hlines
  rw [hg]
  cases hg
  exact congrArg Except.ok hlines

/-- **The first duration that comes out wrong**: 2²⁴ seconds and nearly half a second more. -/
theorem Global.lifetime_off_by_one :
    (Duration.ofSeconds 16777216 499999999).nearestSeconds = 16777216 ∧
      (Duration.ofSeconds 16777216 499999999).secondsRounded = 16777217 ∧
      (Global.ofSpec "edge" (withLifetime (.ofSeconds 16777216 499999999))).map
        (fun g => g.fragment.statements) = .ok ["tune.ssl.lifetime 16777217"] := by
  decide +kernel

end Section

end ProxyFleet
