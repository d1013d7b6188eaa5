import ProxyFleet.Proofs.DurationText
import ProxyFleet.Timestamp

/-!
# Reading written moments

A moment is written in whole seconds, at no offset, with all the zeros that a number may have in
front.

**Numbers.**  The digits of a number are read back whatever follows them
(`Timestamp.number_paddedDigits`), and those of a year also if there are more than four after a sign
(`Timestamp.year_yearDigits`).

**Moments.**  A day and a time of day are read back part by part (`Timestamp.day_dayDigits`,
`Timestamp.clockTime_clockDigits`), and at no offset they are those of the moment.

Main statement: `Timestamp.parse?_text`.
-/

namespace ProxyFleet.Timestamp

open Duration
  (paddedDigits isDigit_of_mem_paddedDigits digitsValue_paddedDigits length_paddedDigits)

variable {most n : Nat} {c : Char} {rest : List Char}

/-! ## Numbers -/

lemma isBlank_of_isDigit (h : c.isDigit = true) : Text.isBlank c = false := by
  obtain ⟨hlow, hhigh⟩ : 48 ≤ c.toNat ∧ c.toNat ≤ 57 := by
    simpa [Char.isDigit, UInt32.le_iff_toNat_le] using h
  simp [Text.isBlank, Text.inRanges, Text.blankRanges]
  omega

/-- Nothing is passed over before a character that is not blank. -/
lemma skip_cons (h : Text.isBlank c = false) : skip (c :: rest) = c :: rest := by
  rw [skip, List.dropWhile_cons, h]
  rfl

lemma exists_paddedDigits_eq_cons (hmost : 0 < most) (h : n < 10 ^ most) :
    ∃ c digits, paddedDigits most n = c :: digits ∧ c.isDigit = true := by
  have hlength := length_paddedDigits hmost h
  cases hdigits : paddedDigits most n with
  | nil =>
    rw [hdigits, List.length_nil] at hlength
    omega
  | cons c digits =>
    exact ⟨c, digits, rfl, isDigit_of_mem_paddedDigits (by rw [hdigits]; exact List.mem_cons_self)⟩

/-- Nor is it before a number. -/
lemma skip_paddedDigits (hmost : 0 < most) (h : n < 10 ^ most) :
    skip (paddedDigits most n ++ rest) = paddedDigits most n ++ rest := by
  obtain ⟨c, digits, hdigits, hdigit⟩ := exists_paddedDigits_eq_cons hmost h
  rw [hdigits]
  exact skip_cons (isBlank_of_isDigit hdigit)

/-- **The digits of a number are read back**, whatever follows them. -/
lemma number_paddedDigits (hmost : 0 < most) (h : n < 10 ^ most) :
    number most (paddedDigits most n ++ rest) = some (n, rest) := by
  have hlength := length_paddedDigits hmost h
  have htake : (paddedDigits most n ++ rest).take most = paddedDigits most n :=
    List.take_left' hlength
  have hdigits : (paddedDigits most n).takeWhile Char.isDigit = paddedDigits most n :=
    List.takeWhile_eq_self_iff.2 fun _ => isDigit_of_mem_paddedDigits
  have hne : (paddedDigits most n).isEmpty = false := by
    obtain ⟨c, digits, heq, -⟩ := exists_paddedDigits_eq_cons hmost h
    rw [heq, List.isEmpty_cons]
  simp only [number, htake, hdigits, hne, digitsValue_paddedDigits, List.drop_left]
  rfl

/-- Without a limit they end where something else follows. -/
lemma number_length (hc : c.isDigit = false) :
    number (paddedDigits most n ++ c :: rest).length (paddedDigits most n ++ c :: rest) =
      some (n, c :: rest) := by
  have hdigits : (paddedDigits most n ++ c :: rest).takeWhile Char.isDigit =
      paddedDigits most n := by
    rw [List.takeWhile_append_of_pos fun _ => isDigit_of_mem_paddedDigits, List.takeWhile_cons, hc]
    simp
  have hne : (paddedDigits most n).isEmpty = false := by
    simp [paddedDigits, Nat.toDigits_ne_nil]
  rw [number, List.take_length, hdigits]
  simp only [hne, digitsValue_paddedDigits, List.drop_left]
  rfl

/-- **The digits of a year are read back.** -/
lemma year_yearDigits (y : Int) :
    year (skip (yearDigits y ++ '-' :: rest)) = some (y, '-' :: rest) := by
  rw [yearDigits]
  split
  · rename_i hshort
    have hbound : y.toNat < 10 ^ 4 := by omega
    have hnumber : number 4 (paddedDigits 4 y.toNat ++ '-' :: rest) = some (y.toNat, '-' :: rest) :=
      number_paddedDigits (by decide) hbound
    obtain ⟨c, digits, hdigits, hdigit⟩ := exists_paddedDigits_eq_cons (by decide) hbound
    rw [skip_paddedDigits (by decide) hbound]
    rw [hdigits, List.cons_append] at hnumber ⊢
    rw [year, hnumber]
    · simp only [Option.map_some, Int.toNat_of_nonneg hshort.1]
    -- a digit is no sign
    · rintro s ⟨⟩
      cases hdigit
    · rintro s ⟨⟩
      cases hdigit
  · have hnumber : number (paddedDigits 4 y.natAbs ++ '-' :: rest).length
        (paddedDigits 4 y.natAbs ++ '-' :: rest) = some (y.natAbs, '-' :: rest) :=
      number_length (by decide)
    split
    · rename_i hnegative
      rw [List.cons_append, skip_cons (by decide), year, hnumber]
      simp only [Option.map_some, Int.ofNat_natAbs_of_nonpos hnegative.le, neg_neg]
    · rename_i hnegative
      rw [List.cons_append, skip_cons (by decide), year, hnumber]
      simp only [Option.map_some, Int.natAbs_of_nonneg (not_lt.1 hnegative)]

/-! ## Moments -/

/-- A moment without its fraction of a second. -/
def whole (t : Timestamp) : Timestamp := ⟨t.date, { t.time with nanos := 0 }⟩

lemma whole_eq_self_iff {t : Timestamp} : t.whole = t ↔ t.time.nanos = 0 := by
  constructor
  · intro h
    rw [← h]
    rfl
  · intro h
    rw [whole, ← h]

/-- Nothing is passed over before a mark. -/
lemma mark_skip (hc : Text.isBlank c = false) : Address.mark c (skip (c :: rest)) = some rest := by
  rw [skip_cons hc, Address.mark, if_pos rfl]

lemma number_two (h : n < 10 ^ 2) :
    number 2 (skip (paddedDigits 2 n ++ rest)) = some (n, rest) := by
  rw [skip_paddedDigits (by decide) h, number_paddedDigits (by decide) h]

lemma day_dayDigits (d : Date) : day (dayDigits d ++ rest) = some (d, rest) := by
  have hmonth : d.month < 10 ^ 2 := by
    have hdate := d.isDate.2.1
    omega
  have hday : d.day < 10 ^ 2 := by
    have hdate := d.isDate.2.2
    have hdays : daysIn d.year d.month ≤ 31 := by
      rw [daysIn]
      split_ifs <;> decide
    omega
  have hdate : Date.ofParts? d.year d.month d.day = some d := dif_pos d.isDate
  simp only [dayDigits, List.append_assoc, List.cons_append]
  refine Option.bind_eq_some_iff.2 ⟨_, year_yearDigits d.year, ?_⟩
  refine Option.bind_eq_some_iff.2 ⟨_, mark_skip (by decide), ?_⟩
  refine Option.bind_eq_some_iff.2 ⟨_, number_two hmonth, ?_⟩
  refine Option.bind_eq_some_iff.2 ⟨_, mark_skip (by decide), ?_⟩
  refine Option.bind_eq_some_iff.2 ⟨_, number_two hday, ?_⟩
  exact Option.bind_eq_some_iff.2 ⟨d, hdate, rfl⟩

lemma clockTime_clockDigits (t : ClockTime) :
    clockTime (clockDigits t ++ ['Z']) = some ({ t with nanos := 0 }, ['Z']) := by
  obtain ⟨minute, second, nanos⟩ := t
  have hsum : (minute : Nat) / 60 * 60 + (minute : Nat) % 60 = minute := by omega
  simp only [clockDigits, List.append_assoc, List.cons_append]
  refine Option.bind_eq_some_iff.2 ⟨_, number_two (by omega), ?_⟩
  refine Option.bind_eq_some_iff.2 ⟨_, mark_skip (by decide), ?_⟩
  refine Option.bind_eq_some_iff.2 ⟨_, number_two (by omega), ?_⟩
  refine Option.bind_eq_some_iff.2 ⟨_, mark_skip (by decide), ?_⟩
  refine Option.bind_eq_some_iff.2 ⟨_, number_two (by omega), ?_⟩
  refine Option.bind_eq_some_iff.2 ⟨(0, ['Z']), rfl, ?_⟩
  have hbounds : (minute : Nat) / 60 < 24 ∧ (minute : Nat) % 60 < 60 ∧ (second : Nat) ≤ 60 ∧
      0 < 1000000000 := ⟨by omega, by omega, by omega, by decide⟩
  simp only [dif_pos hbounds, hsum]
  rfl

/-- At no offset the time is the one that is read. -/
lemma ofLocal?_zero (date : Date) (time : ClockTime) :
    ofLocal? date time 0 = some ⟨date, time⟩ := by
  have hlow : ¬ (time.minute : Int) - 0 < 0 := by omega
  have hhigh : (time.minute : Int) - 0 < 1440 := by omega
  have hminute : (((time.minute : Int) - 0) % 1440).toNat = time.minute := by omega
  simp only [ofLocal?, if_neg hlow, if_pos hhigh, Option.map_some, hminute]

/-- **A moment is read back in whole seconds.** -/
theorem parse?_text (t : Timestamp) : parse? t.text = some t.whole := by
  have hoffset : offset (skip ['Z']) = some (0, []) := by decide
  rw [parse?, text, String.toList_ofList]
  refine Option.bind_eq_some_iff.2 ⟨_, day_dayDigits t.date, ?_⟩
  refine Option.bind_eq_some_iff.2 ⟨_, rfl, ?_⟩
  refine Option.bind_eq_some_iff.2 ⟨_, clockTime_clockDigits t.time, ?_⟩
  refine Option.bind_eq_some_iff.2 ⟨_, hoffset, ?_⟩
  exact (if_pos (by decide)).trans (ofLocal?_zero t.date _)

end ProxyFleet.Timestamp
