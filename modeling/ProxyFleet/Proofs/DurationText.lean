import ProxyFleet.Duration.Parse
import ProxyFleet.Proofs.Rounding

/-!
# Reading written durations

A duration is written in the largest unit that it reaches, with a fraction that has as many places
as the unit needs.  Reading scales the whole part and the fraction apart from each other, and in
numbers of fifty-three places.

**Digits.**  `DecimalNumber.digitsValue_toDigits` and its companions say what a row of digits stands
for, with zeros added in front or taken off at the end.

**Scaling.**  A whole part that fits is scaled exactly, and a fraction with an error that the
rounding to whole nanoseconds takes away (`DecimalNumber.nanos_eq`).

**Texts.**  `Duration.sumTerms_scaled` reads one written term, `Duration.sumTerms_magnitudeText` a
magnitude.

Main statement: `Duration.parse_text`.
-/

namespace ProxyFleet

/-! ## Digits -/

namespace DecimalNumber

lemma digitsValue_eq (l : List Char) : digitsValue l = Nat.ofDigitChars 10 l 0 := by
  simp only [digitsValue, Nat.ofDigitChars, mul_comm]

@[simp] lemma digitsValue_toDigits (n : Nat) : digitsValue (Nat.toDigits 10 n) = n := by
  rw [digitsValue_eq, Nat.ofDigitChars_ten_toDigits]

lemma digitsValue_append (a b : List Char) :
    digitsValue (a ++ b) = digitsValue a * 10 ^ b.length + digitsValue b := by
  rw [digitsValue_eq, digitsValue_eq, digitsValue_eq, Nat.ofDigitChars_append,
    Nat.ofDigitChars_eq_ofDigitChars_zero, mul_comm]

@[simp] lemma digitsValue_replicate_zero (n : Nat) : digitsValue (List.replicate n '0') = 0 := by
  rw [digitsValue_eq, Nat.ofDigitChars_replicate_zero]
  simp

end DecimalNumber

lemma isDigit_of_mem_toDigits {n : Nat} {c : Char} (h : c ∈ Nat.toDigits 10 n) :
    c.isDigit = true :=
  Nat.isDigit_of_mem_toDigits (by decide) (by decide) h

namespace Duration

open DecimalNumber

lemma isDigit_of_mem_paddedDigits {places rest : Nat} {c : Char}
    (h : c ∈ paddedDigits places rest) : c.isDigit = true := by
  rcases List.mem_append.1 h with h | h
  · rw [List.eq_of_mem_replicate h]
    rfl
  · exact isDigit_of_mem_toDigits h

lemma digitsValue_paddedDigits (places rest : Nat) :
    digitsValue (paddedDigits places rest) = rest := by
  rw [paddedDigits, digitsValue_append, digitsValue_replicate_zero, digitsValue_toDigits, zero_mul,
    zero_add]

lemma length_paddedDigits {places rest : Nat} (hplaces : 0 < places) (h : rest < 10 ^ places) :
    (paddedDigits places rest).length = places := by
  have hle := (Nat.length_toDigits_le_iff (by decide) hplaces).2 h
  rw [paddedDigits, List.length_append, List.length_replicate]
  omega

/-- A fraction is written without the zeros at its end. -/
lemma exists_paddedDigits_eq (places rest : Nat) :
    ∃ zeros, paddedDigits places rest = fractionDigits places rest ++ List.replicate zeros '0' := by
  have hsplit : paddedDigits places rest = fractionDigits places rest ++
      ((paddedDigits places rest).reverse.takeWhile (· == '0')).reverse := by
    rw [fractionDigits, ← List.reverse_append, List.takeWhile_append_dropWhile,
      List.reverse_reverse]
  have hzeros : ((paddedDigits places rest).reverse.takeWhile (· == '0')).reverse =
      List.replicate _ '0' := List.eq_replicate_of_mem fun c hc => by
    simpa using List.mem_takeWhile_imp (List.mem_reverse.1 hc)
  exact ⟨_, hzeros ▸ hsplit⟩

lemma isDigit_of_mem_fractionDigits {places rest : Nat} {c : Char}
    (h : c ∈ fractionDigits places rest) : c.isDigit = true := by
  obtain ⟨zeros, heq⟩ := exists_paddedDigits_eq places rest
  have hpadded : c ∈ paddedDigits places rest := heq ▸ List.mem_append_left _ h
  exact isDigit_of_mem_paddedDigits hpadded

/-- **What a written fraction stands for.** -/
lemma digitsValue_fractionDigits {places rest : Nat} (h : rest < 10 ^ places) :
    (digitsValue (fractionDigits places rest) : Rat) / 10 ^ (fractionDigits places rest).length =
      rest / 10 ^ places := by
  rcases places.eq_zero_or_pos with rfl | hplaces
  · obtain rfl : rest = 0 := by simpa using h
    rfl
  · obtain ⟨zeros, heq⟩ := exists_paddedDigits_eq places rest
    have hvalue := digitsValue_paddedDigits places rest
    have hlength := length_paddedDigits hplaces h
    rw [heq, digitsValue_append, digitsValue_replicate_zero, List.length_replicate] at hvalue
    rw [heq, List.length_append, List.length_replicate] at hlength
    generalize fractionDigits places rest = fraction at hvalue hlength ⊢
    subst hvalue hlength
    push_cast
    field_simp
    ring

end Duration

/-! ## Scaling -/

namespace DecimalNumber

/-- A whole part that fits is scaled exactly. -/
lemma wholeNanos_eq {n : DecimalNumber} {unit : Nat} (hunit : 0 < unit)
    (h : unit * digitsValue n.whole ≤ 2 ^ 53) :
    n.wholeNanos unit = (unit * digitsValue n.whole : Nat) := by
  have hle : digitsValue n.whole ≤ unit * digitsValue n.whole := Nat.le_mul_of_pos_left _ hunit
  rw [wholeNanos, nearest_natCast (hle.trans h), ← Nat.cast_mul, nearest_natCast h]

/-- A fraction of a second or less that comes to whole nanoseconds is scaled to those. -/
lemma fractionNanos_eq {n : DecimalNumber} {unit rest : Nat} (hunit : 0 < unit)
    (hrest : rest ≤ secondNanos)
    (h : (digitsValue n.fraction : Rat) / 10 ^ n.fraction.length = rest / unit) :
    n.fractionNanos unit = rest := by
  have hunit' : (0 : Rat) < unit := by exact_mod_cast hunit
  have hrest' : (rest : Rat) ≤ 10 ^ 9 := by exact_mod_cast hrest
  have hpos : (0 : Rat) ≤ rest := by positivity
  have hquotient : |nearest (rest / unit : Rat) - rest / unit| ≤ rest / unit / 2 ^ 53 :=
    nearest_error (by positivity)
  -- scaling the rounded fraction scales its error as well
  have hscaled : |unit * nearest (rest / unit : Rat) - rest| ≤ rest / 2 ^ 53 := by
    calc |unit * nearest (rest / unit : Rat) - rest|
        = unit * |nearest (rest / unit : Rat) - rest / unit| := by
          rw [← abs_of_pos hunit', ← abs_mul, abs_of_pos hunit', mul_sub,
            mul_div_cancel₀ _ hunit'.ne']
      _ ≤ unit * (rest / unit / 2 ^ 53) := by gcongr
      _ = rest / 2 ^ 53 := by field_simp
  obtain ⟨hlow, hhigh⟩ := abs_le.1 hscaled
  have hnonneg : (0 : Rat) ≤ unit * nearest (rest / unit : Rat) := by linarith
  obtain ⟨hlow', hhigh'⟩ := abs_le.1 (nearest_error hnonneg)
  have herror : |nearest (unit * nearest (rest / unit : Rat)) - (rest : Int)| < 1 / 2 := by
    rw [abs_lt]
    push_cast
    constructor <;> linarith
  have hpow : ((Nat.pow 10 n.fraction.length : Nat) : Rat) = 10 ^ n.fraction.length :=
    Nat.cast_pow 10 _
  rw [fractionNanos, hpow, h, halfUp_eq_of_error herror, Int.cast_natCast]

/-- **Scaling gives the exact number of nanoseconds.** -/
lemma nanos_eq {n : DecimalNumber} {unit rest : Nat} (hunit : 0 < unit)
    (hnegative : n.negative = false) (hrest : rest ≤ secondNanos)
    (hfraction : (digitsValue n.fraction : Rat) / 10 ^ n.fraction.length = rest / unit)
    (h : unit * digitsValue n.whole + rest ≤ 2 ^ 53) :
    n.nanos unit = unit * digitsValue n.whole + rest := by
  have hwhole : n.wholeNanos unit = (unit * digitsValue n.whole : Nat) :=
    wholeNanos_eq hunit (by omega)
  have hsum : nearest ((unit * digitsValue n.whole : Nat) + (rest : Rat)) =
      (unit * digitsValue n.whole + rest : Nat) := by
    rw [← Nat.cast_add, nearest_natCast h]
  have hmax : unit * digitsValue n.whole + rest ≤ maxCount := by
    rw [maxCount]
    omega
  have hfloor : ((unit * digitsValue n.whole + rest : Nat) : Rat).floor =
      (unit * digitsValue n.whole + rest : Nat) := by
    exact_mod_cast Rat.floor_intCast (unit * digitsValue n.whole + rest : Nat)
  rw [nanos, hnegative]
  simp only [Bool.false_eq_true, if_false]
  rw [hwhole, fractionNanos_eq hunit hrest hfraction, hsum, hfloor, Int.toNat_natCast,
    min_eq_left hmax]

end DecimalNumber

/-! ## Texts -/

/-- No digit is a letter. -/
lemma isLetter_of_isDigit {c : Char} (h : c.isDigit = true) : Text.isLetter c = false := by
  have hrange : 48 ≤ c.toNat ∧ c.toNat ≤ 57 := by
    simpa [Char.isDigit, UInt32.le_iff_toNat_le] using h
  have hascii : c.toNat < 128 := by omega
  have halpha : c.isAlpha = false := by
    rw [Bool.eq_false_iff]
    intro halpha
    simp [Char.isAlpha, Char.isUpper, Char.isLower, UInt32.le_iff_toNat_le] at halpha
    rcases halpha with halpha | halpha
    all_goals
      have hsame : c.val.toNat = c.toNat := rfl
      omega
  rw [Text.isLetter, if_pos hascii, halpha]

/-- The name of a unit is made of letters. -/
lemma TimeUnit.isLetter_of_ofName? {name : List Char} {u : TimeUnit} (h : ofName? name = some u)
    {c : Char} (hc : c ∈ name) : Text.isLetter c = true := by
  have hmicro : Text.isLetter '\u00b5' = true := by decide +kernel
  have hmu : Text.isLetter '\u03bc' = true := by decide +kernel
  rw [ofName?] at h
  split_ifs at h with hns hus hms hs hm hh
  · subst hns
    fin_cases hc <;> rfl
  · rcases hus with rfl | rfl | rfl <;> fin_cases hc
    exacts [rfl, rfl, hmicro, rfl, hmu, rfl]
  · subst hms
    fin_cases hc <;> rfl
  · subst hs
    fin_cases hc
    rfl
  · subst hm
    fin_cases hc
    rfl
  · subst hh
    fin_cases hc
    rfl

lemma ne_of_isDigit {c d : Char} (h : c.isDigit = true) (hd : d.isDigit = false) : c ≠ d := by
  rintro rfl
  rw [h] at hd
  cases hd

namespace Duration

open DecimalNumber

/-- The characters of a written number. -/
def numberChars (whole places rest : Nat) : List Char :=
  let fraction := fractionDigits places rest
  Nat.toDigits 10 whole ++ if fraction.isEmpty then [] else '.' :: fraction

lemma toList_scaled (whole places rest : Nat) (unit : String) :
    (scaled whole places rest unit).toList = numberChars whole places rest ++ unit.toList := by
  simp [scaled, numberChars]

/-- A written number begins with a digit. -/
lemma exists_numberChars_cons (whole places rest : Nat) :
    ∃ c later, numberChars whole places rest = c :: later ∧ c.isDigit = true := by
  cases hdigits : Nat.toDigits 10 whole with
  | nil => exact absurd hdigits Nat.toDigits_ne_nil
  | cons c later =>
    refine ⟨c, _, by rw [numberChars, hdigits]; rfl, ?_⟩
    exact isDigit_of_mem_toDigits (hdigits ▸ List.mem_cons_self)

lemma isLetter_of_mem_numberChars {whole places rest : Nat} {c : Char}
    (h : c ∈ numberChars whole places rest) : Text.isLetter c = false := by
  rcases List.mem_append.1 h with h | h
  · exact isLetter_of_isDigit (isDigit_of_mem_toDigits h)
  · split at h
    · cases h
    · rcases List.mem_cons.1 h with rfl | h
      · rfl
      · exact isLetter_of_isDigit (isDigit_of_mem_fractionDigits h)

/-- A written number falls apart at its point. -/
lemma splitPoint_numberChars (whole places rest : Nat) :
    splitPoint (numberChars whole places rest) =
      (Nat.toDigits 10 whole, fractionDigits places rest) := by
  have hpoint : ∀ c ∈ Nat.toDigits 10 whole, (c != '.') = true := fun c hc =>
    bne_iff_ne.2 (ne_of_isDigit (isDigit_of_mem_toDigits hc) rfl)
  rw [splitPoint, numberChars]
  simp only [List.takeWhile_append_of_pos hpoint, List.dropWhile_append_of_pos hpoint]
  cases fractionDigits places rest <;> simp

/-- A written number is read as its two rows of digits. -/
lemma parse?_numberChars (whole places rest : Nat) :
    DecimalNumber.parse? (numberChars whole places rest) =
      some ⟨false, Nat.toDigits 10 whole, fractionDigits places rest⟩ := by
  obtain ⟨c, later, hchars, hdigit⟩ := exists_numberChars_cons whole places rest
  have hplus : c ≠ '+' := ne_of_isDigit hdigit rfl
  have hminus : c ≠ '-' := ne_of_isDigit hdigit rfl
  have hhead : (numberChars whole places rest).head? = some c := by rw [hchars]; rfl
  have hwhole : (Nat.toDigits 10 whole).all Char.isDigit = true :=
    List.all_eq_true.2 fun _ => isDigit_of_mem_toDigits
  have hfraction : (fractionDigits places rest).all Char.isDigit = true :=
    List.all_eq_true.2 fun _ => isDigit_of_mem_fractionDigits
  have hsome : (Nat.toDigits 10 whole).isEmpty = false :=
    List.isEmpty_eq_false_iff.2 Nat.toDigits_ne_nil
  simp [DecimalNumber.parse?, hhead, hplus, hminus, splitPoint_numberChars, hwhole, hfraction,
    hsome]

lemma sumTerms_nil : sumTerms [] = .ok 0 := by
  rw [sumTerms]
  rfl

/-- A term is read up to the end of its unit, and what follows is read as further terms. -/
lemma sumTerms_append {number unit rest : List Char}
    (hnumber : ∀ c ∈ number, Text.isLetter c = false)
    (hunit : ∀ c ∈ unit, Text.isLetter c = true) (hne : unit ≠ [])
    (hrest : ∀ c ∈ rest.head?, Text.isLetter c = false) :
    sumTerms (number ++ unit ++ rest) = (do
      let first ← termNanos number unit
      let others ← sumTerms rest
      return first + others) := by
  obtain ⟨u, later, rfl⟩ := List.exists_cons_of_ne_nil hne
  have hnumber' : ∀ c ∈ number, (!Text.isLetter c) = true := fun c hc => by simp [hnumber c hc]
  have hlater : ∀ c ∈ later, Text.isLetter c = true := fun c hc =>
    hunit c (List.mem_cons_of_mem _ hc)
  have hfirst : Text.isLetter u = true := hunit u List.mem_cons_self
  have hassoc : number ++ u :: later ++ rest = number ++ u :: (later ++ rest) := by simp
  have hdrop : (number ++ u :: (later ++ rest)).dropWhile (fun c => !Text.isLetter c) =
      u :: (later ++ rest) := by
    rw [List.dropWhile_append_of_pos hnumber', List.dropWhile_cons_of_neg (by simp [hfirst])]
  have htake : (number ++ u :: (later ++ rest)).takeWhile (fun c => !Text.isLetter c) =
      number := by
    rw [List.takeWhile_append_of_pos hnumber', List.takeWhile_cons_of_neg (by simp [hfirst]),
      List.append_nil]
  -- the unit goes on as long as there are letters, and none follow it
  have hstop : rest.takeWhile Text.isLetter = [] ∧ rest.dropWhile Text.isLetter = rest := by
    cases rest with
    | nil => exact ⟨rfl, rfl⟩
    | cons c rest =>
      have hc : Text.isLetter c = false := hrest c rfl
      exact ⟨by simp [hc], by simp [hc]⟩
  have hall : (later ++ rest).takeWhile Text.isLetter = later := by
    rw [List.takeWhile_append_of_pos hlater, hstop.1, List.append_nil]
  have hremains : (later ++ rest).dropWhile Text.isLetter = rest := by
    rw [List.dropWhile_append_of_pos hlater, hstop.2]
  rw [hassoc, sumTerms, if_neg (by simp)]
  split
  · rename_i hnil
    rw [hdrop] at hnil
    cases hnil
  · rename_i c rest' hcons
    rw [hdrop] at hcons
    cases hcons
    simp only [htake, hall, hremains]

/-- A number that is written with its fraction is scaled back to its nanoseconds. -/
lemma nanos_numberParts {unit places n : Nat} (hunit : unit = 10 ^ places)
    (hsecond : unit ≤ secondNanos) (h : n < 2 ^ 53) :
    (DecimalNumber.mk false (Nat.toDigits 10 (n / unit)) (fractionDigits places (n % unit))).nanos
      unit = n := by
  have hpos : 0 < unit := hunit ▸ Nat.pow_pos (by decide)
  have hrest : n % unit < unit := Nat.mod_lt n hpos
  have hfraction : (digitsValue (fractionDigits places (n % unit)) : Rat) /
      10 ^ (fractionDigits places (n % unit)).length = (n % unit : Nat) / (unit : Nat) := by
    rw [digitsValue_fractionDigits (hunit ▸ hrest), hunit, Nat.cast_pow, Nat.cast_ofNat]
  have hparts : unit * digitsValue (Nat.toDigits 10 (n / unit)) + n % unit = n := by
    rw [digitsValue_toDigits, Nat.div_add_mod]
  have hle : n % unit ≤ secondNanos := hrest.le.trans hsecond
  generalize Nat.toDigits 10 (n / unit) = whole at hparts ⊢
  generalize fractionDigits places (n % unit) = fraction at hfraction ⊢
  have hsum : unit * digitsValue whole + n % unit ≤ 2 ^ 53 := by
    rw [hparts]
    exact h.le
  exact (nanos_eq (n := ⟨false, whole, fraction⟩) hpos rfl hle hfraction hsum).trans hparts

/-- **Reading a written term**, whose whole part and fraction make up some nanoseconds. -/
lemma sumTerms_scaled (u : TimeUnit) {name : String} {places n : Nat}
    (hname : TimeUnit.ofName? name.toList = some u) (hunit : u.nanos = 10 ^ places)
    (hsecond : u.nanos ≤ secondNanos) (h : n < 2 ^ 53) :
    sumTerms (scaled (n / u.nanos) places (n % u.nanos) name).toList = .ok n := by
  have hne : name.toList ≠ [] := by
    intro hnil
    rw [hnil] at hname
    cases hname
  obtain ⟨c, later, hchars, -⟩ := exists_numberChars_cons (n / u.nanos) places (n % u.nanos)
  have hsome : (numberChars (n / u.nanos) places (n % u.nanos)).isEmpty = false := by
    rw [hchars, List.isEmpty_cons]
  have hterm : termNanos (numberChars (n / u.nanos) places (n % u.nanos)) name.toList = .ok n := by
    rw [termNanos, hname]
    simp only [hsome, parse?_numberChars, nanos_numberParts hunit hsecond h, Bool.false_eq_true,
      if_false]
  rw [toList_scaled, ← List.append_nil (_ ++ name.toList),
    sumTerms_append (fun _ => isLetter_of_mem_numberChars)
      (fun _ => TimeUnit.isLetter_of_ofName? hname) hne (by simp), hterm, sumTerms_nil]
  rfl

/-- A written magnitude is read as it was, in each of the four units. -/
lemma sumTerms_magnitudeText {n : Nat} (h : n < 2 ^ 53) :
    sumTerms (magnitudeText n).toList = .ok n := by
  have hmilli : milliNanos ≤ secondNanos := by norm_num [milliNanos, secondNanos]
  have hmicro : microNanos ≤ secondNanos := by norm_num [microNanos, secondNanos]
  have hnano : 1 ≤ secondNanos := by norm_num [secondNanos]
  rw [magnitudeText]
  split_ifs
  · exact sumTerms_scaled .second rfl rfl le_rfl h
  · exact sumTerms_scaled .millisecond rfl rfl hmilli h
  · exact sumTerms_scaled .microsecond rfl rfl hmicro h
  · have hread : sumTerms (scaled (n / 1) 0 (n % 1) "ns").toList = .ok n :=
      sumTerms_scaled .nanosecond rfl rfl hnano h
    rwa [Nat.div_one, Nat.mod_one] at hread

/-- A written magnitude begins with a digit. -/
lemma exists_magnitudeText_cons (n : Nat) :
    ∃ c later, (magnitudeText n).toList = c :: later ∧ c.isDigit = true := by
  have hscaled : ∀ whole places rest unit,
      ∃ c later, (scaled whole places rest unit).toList = c :: later ∧ c.isDigit = true := by
    intro whole places rest unit
    obtain ⟨c, later, hchars, hdigit⟩ := exists_numberChars_cons whole places rest
    exact ⟨c, later ++ unit.toList, by rw [toList_scaled, hchars, List.cons_append], hdigit⟩
  rw [magnitudeText]
  split_ifs <;> exact hscaled _ _ _ _

/-- A written magnitude is read as it was, under the sign that stands in front of it. -/
lemma parse_magnitudeText (negative : Bool) {n : Nat} (h : n < 2 ^ 53) :
    parse ((if negative then "-" else "") ++ magnitudeText n) = .ok ⟨negative, n⟩ := by
  obtain ⟨c, later, hchars, hdigit⟩ := exists_magnitudeText_cons n
  have hplus : c ≠ '+' := ne_of_isDigit hdigit rfl
  have hminus : c ≠ '-' := ne_of_isDigit hdigit rfl
  have hsum := sumTerms_magnitudeText h
  rw [hchars] at hsum
  -- a zero without a unit would be no term
  have hunit : c :: later ≠ ['0'] := by
    intro hzero
    rw [hzero, sumTerms] at hsum
    cases hsum
  rw [parse, String.toList_append, hchars]
  cases negative with
  | false => simp [hplus, hminus, hunit, hsum]
  | true => simp [hminus, hunit, hsum]

/-- **A written duration is read as it was**, with its sign. -/
theorem parse_text {d : Duration} (h : d.nanos < 2 ^ 53) : parse d.text = .ok d :=
  parse_magnitudeText d.negative h

/-- So it is with a negative duration of one and a half microseconds. -/
theorem parse_text_negative_microseconds :
    let d : Duration := ⟨true, 1500⟩
    d.nanos < 2 ^ 53 ∧ d.text = "-1.5\u00b5s" ∧ parse d.text = .ok d :=
  ⟨by decide, by decide, parse_text (by decide)⟩

end Duration

end ProxyFleet
