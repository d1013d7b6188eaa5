import Mathlib
import ProxyFleet.Significand

/-!
# How far numbers are rounded

A magnitude is rounded to fifty-three binary places, which moves it by no more than half of its last
place.

**Exponents.**  A positive number lies between two to its exponent and twice that
(`binaryExponent_spec`), and between no others (`binaryExponent_eq`), so that its last place is
small against it (`lastPlace_le`).

**Few places.**  Numbers of so few places stay as they are (`nearest_div_two_pow`), whole numbers
among them (`nearest_natCast`).

**Errors.**  `nearest_error` bounds what a rounding adds or takes away by a share of the magnitude,
`nearest_error_of_lt` by what the magnitude is less than, and `halfUp_eq_of_error` says when a
number that is nearly whole is rounded to that whole number.

**What is reached.**  `le_halfEven_iff` and `le_nearest_iff` say from where on a rounding comes to a
given number.
-/

namespace ProxyFleet

/-! ## Exponents -/

/-- A positive number as a fraction of positive whole numbers. -/
lemma eq_num_div_den {x : Rat} (h : 0 < x) : x = (x.num.toNat : Rat) / x.den := by
  have hnum : ((x.num.toNat : Int) : Rat) = x.num := by
    rw [Int.toNat_of_nonneg (Rat.num_pos.2 h).le]
  rw [← Int.cast_natCast, hnum, Rat.num_div_den]

/-- The number of places of a whole number. -/
lemma two_zpow_log2_le {n : Nat} (h : n ≠ 0) :
    (2 : Rat) ^ (n.log2 : Int) ≤ n ∧ (n : Rat) < 2 ^ (n.log2 + 1 : Int) := by
  constructor
  · exact_mod_cast Nat.log2_self_le h
  · exact_mod_cast Nat.lt_log2_self

/-- The difference of the numbers of places is nearly the exponent. -/
lemma two_zpow_log2_sub {x : Rat} (h : 0 < x) :
    let e : Int := (x.num.toNat.log2 : Int) - (x.den.log2 : Int)
    (2 : Rat) ^ (e - 1) ≤ x ∧ x < 2 ^ (e + 1) := by
  intro e
  have hnum : x.num.toNat ≠ 0 := by
    have hpos := Rat.num_pos.2 h
    omega
  obtain ⟨hlow, hhigh⟩ := two_zpow_log2_le hnum
  obtain ⟨hlow', hhigh'⟩ := two_zpow_log2_le x.den_ne_zero
  have hden : (0 : Rat) < x.den := by exact_mod_cast x.den_pos
  constructor
  · calc (2 : Rat) ^ (e - 1) = 2 ^ (x.num.toNat.log2 : Int) / 2 ^ (x.den.log2 + 1 : Int) := by
          rw [← zpow_sub₀ two_ne_zero]
          congr 1
          omega
      _ ≤ x.num.toNat / x.den := by gcongr
      _ = x := (eq_num_div_den h).symm
  · calc x = x.num.toNat / x.den := eq_num_div_den h
      _ < 2 ^ (x.num.toNat.log2 + 1 : Int) / 2 ^ (x.den.log2 : Int) := by gcongr
      _ = 2 ^ (e + 1) := by
          rw [← zpow_sub₀ two_ne_zero]
          congr 1
          omega

/-- **A positive number lies between two to its exponent and twice that.** -/
lemma binaryExponent_spec {x : Rat} (h : 0 < x) :
    (2 : Rat) ^ binaryExponent x ≤ x ∧ x < 2 ^ (binaryExponent x + 1) := by
  obtain ⟨hlow, hhigh⟩ := two_zpow_log2_sub h
  rw [binaryExponent]
  split
  · rename_i hle
    exact ⟨hle, hhigh⟩
  · rename_i hlt
    rw [sub_add_cancel]
    exact ⟨hlow, not_le.1 hlt⟩

/-- Only one exponent puts a number between two to it and twice that. -/
lemma binaryExponent_eq {x : Rat} {e : Int} (hlow : (2 : Rat) ^ e ≤ x) (hhigh : x < 2 ^ (e + 1)) :
    binaryExponent x = e := by
  have hx : 0 < x := (zpow_pos two_pos e).trans_le hlow
  obtain ⟨hlow', hhigh'⟩ := binaryExponent_spec hx
  have hle := (zpow_lt_zpow_iff_right₀ (one_lt_two (α := Rat))).1 (hlow.trans_lt hhigh')
  have hge := (zpow_lt_zpow_iff_right₀ (one_lt_two (α := Rat))).1 (hlow'.trans_lt hhigh)
  omega

lemma lastPlace_pos (x : Rat) : 0 < lastPlace x := zpow_pos two_pos _

/-- The last place is small against the number. -/
lemma lastPlace_le {x : Rat} (h : 0 < x) : lastPlace x ≤ x / 2 ^ 52 := by
  have hsplit : lastPlace x = (2 : Rat) ^ binaryExponent x / 2 ^ 52 := by
    rw [lastPlace, zpow_sub₀ two_ne_zero]
    rfl
  rw [hsplit]
  exact div_le_div_of_nonneg_right (binaryExponent_spec h).1 (by positivity)

/-! ## Few places -/

/-- What is a whole multiple of its last place stays as it is. -/
lemma nearest_eq_self {x : Rat} (h : 0 < x) {k : Int} (hk : x / lastPlace x = k) :
    nearest x = x := by
  rw [nearest, if_neg (not_le.2 h), hk, halfEven_intCast, ← hk,
    div_mul_cancel₀ _ (lastPlace_pos _).ne']

/-- A power of two has no other places than its first one. -/
lemma nearest_two_pow (k : Nat) : nearest ((2 ^ k : Nat) : Rat) = (2 ^ k : Nat) := by
  have hpos : (0 : Rat) < (2 ^ k : Nat) := by positivity
  have hexponent : binaryExponent ((2 ^ k : Nat) : Rat) = k := by
    obtain ⟨hlow, hhigh⟩ := binaryExponent_spec hpos
    have hcast : ((2 ^ k : Nat) : Rat) = 2 ^ (k : Int) := by
      push_cast
      rfl
    rw [hcast] at hlow hhigh
    have hle := (zpow_le_zpow_iff_right₀ one_lt_two).1 hlow
    have hlt := (zpow_lt_zpow_iff_right₀ one_lt_two).1 hhigh
    rw [hcast]
    omega
  have hplaces : ((2 ^ k : Nat) : Rat) / lastPlace (2 ^ k : Nat) = ((2 ^ 52 : Nat) : Int) := by
    rw [lastPlace, hexponent, zpow_sub₀ two_ne_zero]
    push_cast
    field_simp
    rfl
  exact nearest_eq_self hpos hplaces

/-- **A number of few enough places stays as it is**, wherever its point stands. -/
lemma nearest_div_two_pow {n : Nat} (h : n < 2 ^ 53) (k : Nat) :
    nearest ((n : Rat) / 2 ^ k) = n / 2 ^ k := by
  rcases n.eq_zero_or_pos with rfl | hpos
  · simp [nearest]
  · have hx : (0 : Rat) < n / 2 ^ k := by positivity
    have hhigh : (n : Rat) / 2 ^ k < 2 ^ (53 - k : Int) := by
      have hn : (n : Rat) < 2 ^ (53 : Int) := by exact_mod_cast h
      rw [zpow_sub₀ two_ne_zero, zpow_natCast]
      gcongr
    have hexponent := (zpow_lt_zpow_iff_right₀ (one_lt_two (α := Rat))).1
      ((binaryExponent_spec hx).1.trans_lt hhigh)
    obtain ⟨m, hm⟩ : ∃ m : Nat, 52 - binaryExponent ((n : Rat) / 2 ^ k) - k = m :=
      ⟨(52 - binaryExponent ((n : Rat) / 2 ^ k) - k).toNat, by omega⟩
    have hplace : lastPlace ((n : Rat) / 2 ^ k) = (2 ^ k)⁻¹ * (2 ^ m)⁻¹ := by
      have hsum : binaryExponent ((n : Rat) / 2 ^ k) - 52 = -(k : Int) + -(m : Int) := by omega
      rw [lastPlace, hsum, zpow_add₀ two_ne_zero, zpow_neg, zpow_neg, zpow_natCast, zpow_natCast]
    have hquotient : (n : Rat) / 2 ^ k / lastPlace (n / 2 ^ k) = ((n * 2 ^ m : Nat) : Int) := by
      rw [hplace]
      push_cast
      field_simp
    exact nearest_eq_self hx hquotient

/-- **A whole number that fits into fifty-three places stays as it is**, and so does the first one
that does not. -/
lemma nearest_natCast {n : Nat} (h : n ≤ 2 ^ 53) : nearest n = n := by
  rcases h.eq_or_lt with rfl | h
  · exact nearest_two_pow 53
  · simpa using nearest_div_two_pow h 0

/-! ## Errors -/

/-- A number is rounded by no more than a half. -/
lemma halfEven_error (x : Rat) : |(halfEven x : Rat) - x| ≤ 1 / 2 := by
  have hlow : (x.floor : Rat) ≤ x := Rat.floor_le x
  have hhigh : x < x.floor + 1 := by exact_mod_cast Rat.lt_floor_add_one x
  have hparity : x.floor % 2 = 0 ∨ x.floor % 2 = 1 := Int.emod_two_eq x.floor
  rw [halfEven, abs_le]
  split_ifs with hless hmore
  · constructor <;> linarith
  · push_cast
    constructor <;> linarith
  · rcases hparity with h | h
    · rw [h]
      push_cast
      constructor <;> linarith
    · rw [h]
      push_cast
      constructor <;> linarith

/-- A rounding moves a magnitude by no more than half of its last place. -/
lemma nearest_error_place {x : Rat} (h : 0 < x) : |nearest x - x| ≤ lastPlace x / 2 := by
  have hplace := lastPlace_pos x
  have herror : nearest x - x = (halfEven (x / lastPlace x) - x / lastPlace x) * lastPlace x := by
    rw [nearest, if_neg (not_le.2 h), sub_mul, div_mul_cancel₀ _ hplace.ne']
  rw [herror, abs_mul, abs_of_pos hplace]
  calc _ ≤ 1 / 2 * lastPlace x := mul_le_mul_of_nonneg_right (halfEven_error _) hplace.le
    _ = lastPlace x / 2 := by ring

/-- **A rounding moves a magnitude by no more than a small share of it.** -/
lemma nearest_error {x : Rat} (h : 0 ≤ x) : |nearest x - x| ≤ x / 2 ^ 53 := by
  rcases h.eq_or_lt with rfl | hpos
  · simp [nearest]
  · have hplace := lastPlace_le hpos
    calc |nearest x - x| ≤ lastPlace x / 2 := nearest_error_place hpos
      _ ≤ x / 2 ^ 52 / 2 := by linarith
      _ = x / 2 ^ 53 := by ring

/-- A rounding moves what is less than a power of two by no more than half of the last place below
that power. -/
lemma nearest_error_of_lt {x : Rat} {e : Int} (h : 0 ≤ x) (hx : x < 2 ^ e) :
    |nearest x - x| ≤ 2 ^ (e - 54) := by
  rcases h.eq_or_lt with rfl | hpos
  · simp [nearest, zpow_nonneg]
  · have hexponent := (zpow_lt_zpow_iff_right₀ (one_lt_two (α := Rat))).1
      ((binaryExponent_spec hpos).1.trans_lt hx)
    calc |nearest x - x| ≤ lastPlace x / 2 := nearest_error_place hpos
      _ ≤ 2 ^ (e - 53) / 2 :=
          div_le_div_of_nonneg_right (zpow_le_zpow_right₀ one_le_two (by omega)) two_pos.le
      _ = 2 ^ (e - 54) := by
          rw [show e - 53 = e - 54 + 1 by ring, zpow_add_one₀ two_ne_zero]
          ring

/-- What is closer than a half to a whole number is rounded to that number. -/
lemma halfUp_eq_of_error {x : Rat} {n : Int} (h : |x - n| < 1 / 2) : halfUp x = n := by
  obtain ⟨hlow, hhigh⟩ := abs_lt.1 h
  change ⌊x + 1 / 2⌋ = n
  rw [Int.floor_eq_iff]
  constructor <;> linarith

/-! ## What is reached -/

/-- **When a whole number is reached** by rounding: from half a unit below on, and at that half only
if the number is even. -/
lemma le_halfEven_iff {x : Rat} {n : Int} :
    n ≤ halfEven x ↔ (n : Rat) - 1 / 2 < x ∨ x = n - 1 / 2 ∧ 2 ∣ n := by
  have hlow : (x.floor : Rat) ≤ x := Rat.floor_le x
  have hhigh : x < x.floor + 1 := by exact_mod_cast Rat.lt_floor_add_one x
  have hcast : ∀ {a b : Int}, a ≤ b → (a : Rat) ≤ b := fun h => by exact_mod_cast h
  rw [halfEven]
  rcases lt_trichotomy n (x.floor + 1) with hn | rfl | hn
  · -- the floor itself is reached
    have hn' := hcast (Int.lt_add_one_iff.1 hn)
    have hreach : (n : Rat) - 1 / 2 < x := by linarith
    simp only [hreach, true_or, iff_true]
    split_ifs <;> omega
  · -- the number above it is reached by more than a half
    push_cast
    split_ifs with hless hmore
    · constructor
      · intro h
        omega
      · rintro (h | ⟨h, -⟩) <;> linarith
    · simp only [le_refl, true_iff]
      left
      linarith
    · have hhalf : x = x.floor + 1 - 1 / 2 := by linarith
      constructor
      · intro h
        exact .inr ⟨hhalf, by omega⟩
      · rintro (h | ⟨-, h⟩)
        · linarith
        · omega
  · have hn' := hcast (Int.add_one_le_iff.2 hn)
    push_cast at hn'
    constructor
    · intro h
      split_ifs at h <;> omega
    · rintro (h | ⟨h, -⟩) <;> linarith

/-- **When a multiple of the last place is reached** by rounding a number: from half a place below
it on, and at that half only if the multiple is even. -/
lemma le_nearest_iff {x c : Rat} {e n : Int} (hlow : (2 : Rat) ^ e ≤ x) (hhigh : x < 2 ^ (e + 1))
    (hc : c = n * 2 ^ (e - 52)) :
    c ≤ nearest x ↔ c - 2 ^ (e - 53) < x ∨ x = c - 2 ^ (e - 53) ∧ 2 ∣ n := by
  have hx : 0 < x := (zpow_pos two_pos e).trans_le hlow
  have hplace : (0 : Rat) < 2 ^ (e - 52) := zpow_pos two_pos _
  have hhalf : (2 : Rat) ^ (e - 53) = 1 / 2 * 2 ^ (e - 52) := by
    rw [show e - 52 = e - 53 + 1 by ring, zpow_add_one₀ two_ne_zero]
    ring
  have hbelow : c - 2 ^ (e - 53) = ((n : Rat) - 1 / 2) * 2 ^ (e - 52) := by
    rw [hc, hhalf]
    ring
  rw [nearest, if_neg (not_le.2 hx), lastPlace, binaryExponent_eq hlow hhigh, hc,
    mul_le_mul_iff_left₀ hplace, Int.cast_le, le_halfEven_iff, ← hc, hbelow, lt_div_iff₀ hplace,
    div_eq_iff hplace.ne']

/-- What is nearer than a half to a whole number is rounded to it. -/
lemma halfEven_eq_of_error {x : Rat} {n : Int} (h : |x - n| < 1 / 2) : halfEven x = n := by
  obtain ⟨hless, hmore⟩ := abs_lt.1 h
  have hreached : n ≤ halfEven x := le_halfEven_iff.2 (.inl (by linarith))
  have hnext : ¬ n + 1 ≤ halfEven x := by
    rw [le_halfEven_iff]
    push_cast
    rintro (h | ⟨h, -⟩) <;> linarith
  omega

/-- What is nearer than half a place to a multiple of its last place is rounded to it. -/
lemma nearest_eq_of_error {x c : Rat} {e n : Int} (hlow : (2 : Rat) ^ e ≤ x)
    (hhigh : x < 2 ^ (e + 1)) (hc : c = n * 2 ^ (e - 52)) (h : |x - c| < 2 ^ (e - 52) / 2) :
    nearest x = c := by
  have hx : 0 < x := (zpow_pos two_pos e).trans_le hlow
  have hplace : (0 : Rat) < 2 ^ (e - 52) := zpow_pos two_pos _
  have herror : |x / 2 ^ (e - 52) - n| < 1 / 2 := by
    have hquotient : x / 2 ^ (e - 52) - n = (x - c) / 2 ^ (e - 52) := by
      rw [hc]
      field_simp
    rw [hquotient, abs_div, abs_of_pos hplace, div_lt_iff₀ hplace]
    linarith
  rw [nearest, if_neg (not_le.2 hx), lastPlace, binaryExponent_eq hlow hhigh,
    halfEven_eq_of_error herror, hc]

/-- A magnitude is rounded to a number of fifty-three places, or to the one after them. -/
lemma exists_nearest_eq {x : Rat} (h : 0 < x) :
    ∃ n : Int, nearest x = n * lastPlace x ∧ 2 ^ 52 ≤ n ∧ n ≤ 2 ^ 53 := by
  obtain ⟨hlow, hhigh⟩ := binaryExponent_spec h
  have hplace := lastPlace_pos x
  have hpower : ∀ j : Nat, (2 : Rat) ^ (binaryExponent x - 52 + j) / lastPlace x = 2 ^ j := by
    intro j
    rw [zpow_add₀ two_ne_zero, ← lastPlace, mul_div_cancel_left₀ _ hplace.ne', zpow_natCast]
  have hlow' : (2 : Rat) ^ 52 ≤ x / lastPlace x := by
    rw [← hpower]
    refine div_le_div_of_nonneg_right ?_ hplace.le
    simpa using hlow
  have hhigh' : x / lastPlace x < 2 ^ 53 := by
    rw [← hpower]
    refine div_lt_div_of_pos_right (hhigh.trans_eq ?_) hplace
    congr 1
    push_cast
    ring
  refine ⟨halfEven (x / lastPlace x), by rw [nearest, if_neg (not_le.2 h)], ?_, ?_⟩
  · rw [le_halfEven_iff]
    left
    push_cast
    linarith
  · have hnext : ¬ (2 ^ 53 + 1 : Int) ≤ halfEven (x / lastPlace x) := by
      rw [le_halfEven_iff]
      push_cast
      rintro (h | ⟨h, -⟩) <;> linarith
    omega

/-- **What is less than half a place counts for nothing** behind a number of fifty-three places. -/
lemma nearest_add {n z : Int} {d : Rat} (hlow : 2 ^ 52 ≤ n) (hhigh : n ≤ 2 ^ 53) (hd : 0 ≤ d)
    (hd' : d < 2 ^ z / 2) : nearest (n * 2 ^ z + d) = n * 2 ^ z := by
  have hplace : (0 : Rat) < 2 ^ z := zpow_pos two_pos z
  have hpower : ∀ j : Nat, (2 : Rat) ^ (z + j) = 2 ^ j * 2 ^ z := by
    intro j
    rw [zpow_add₀ two_ne_zero, zpow_natCast, mul_comm]
  rcases hhigh.eq_or_lt with rfl | hhigh
  · -- the number is a power of two, behind which places are twice as long
    have hnext := hpower 1
    have hlow' := hpower 53
    have hhigh' := hpower 54
    push_cast at hnext hlow' hhigh' ⊢
    refine nearest_eq_of_error (e := z + 53) (n := 2 ^ 52) ?_ ?_ ?_ ?_
    · linarith
    · rw [add_assoc]
      norm_num
      linarith
    · rw [show z + 53 - 52 = z + 1 by ring, hnext]
      push_cast
      ring
    · rw [add_sub_cancel_left, abs_of_nonneg hd, show z + 53 - 52 = z + 1 by ring, hnext]
      linarith
  · have hlow' := hpower 52
    have hhigh' := hpower 53
    have hn : (2 ^ 52 : Rat) ≤ n := by exact_mod_cast hlow
    have hn' : (n : Rat) + 1 ≤ 2 ^ 53 := by exact_mod_cast hhigh
    push_cast at hlow' hhigh'
    refine nearest_eq_of_error (e := z + 52) (n := n) ?_ ?_ ?_ ?_
    · nlinarith
    · rw [add_assoc]
      norm_num
      nlinarith
    · rw [add_sub_cancel_right]
    · rw [add_sub_cancel_left, abs_of_nonneg hd, add_sub_cancel_right]
      exact hd'

end ProxyFleet
