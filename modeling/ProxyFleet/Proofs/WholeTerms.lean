import ProxyFleet.Proofs.DurationGrammar

/-!
# Durations in whole units

A row of whole numbers of units is read as their sum, to the nanosecond, as long as every term by
itself fits into fifty-three binary places.  Terms are scaled one by one in such numbers and added
up exactly, so that the sum itself may be larger.

**Terms.**  `WholeTerm` is a whole number with any zeros in front of it and a unit under one of its
names.  Its number is read as it was written (`DecimalNumber.parse?_digits`) and scaled without a
loss (`Duration.WholeTerm.termNanos_eq`).

**Rows.**  `Duration.sumTerms_terms` : the terms of a row are told apart and added up.

Main statement: `Duration.parse_whole_terms`.
-/

namespace ProxyFleet

/-! ## Units -/

namespace TimeUnit

/-- The ways to write a unit. -/
def spellings : TimeUnit → List String
  | .nanosecond => ["ns"]
  | .microsecond => ["us", "\u00b5s", "\u03bcs"]
  | .millisecond => ["ms"]
  | .second => ["s"]
  | .minute => ["m"]
  | .hour => ["h"]

lemma nanos_pos (u : TimeUnit) : 0 < u.nanos := by
  cases u <;> decide

/-- A name stands for the unit that is written so. -/
lemma ofName?_eq_some_iff {name : String} {u : TimeUnit} :
    ofName? name.toList = some u ↔ name ∈ u.spellings := by
  constructor
  · intro h
    rw [ofName?] at h
    split_ifs at h with hns hus hms hs hm hh
    all_goals cases h
    · exact List.mem_singleton.2 (String.toList_inj.1 hns)
    · simpa [spellings, ← String.toList_inj] using hus
    · exact List.mem_singleton.2 (String.toList_inj.1 hms)
    · exact List.mem_singleton.2 (String.toList_inj.1 hs)
    · exact List.mem_singleton.2 (String.toList_inj.1 hm)
    · exact List.mem_singleton.2 (String.toList_inj.1 hh)
  · intro h
    cases u <;> fin_cases h <;> rfl

end TimeUnit

/-- A number that is all digits has nothing but a whole part. -/
lemma DecimalNumber.parse?_digits {s : List Char} (h : ∀ c ∈ s, c.isDigit = true) (hne : s ≠ []) :
    parse? s = some ⟨false, s, []⟩ := by
  have hpoint : ∀ c ∈ s, (c != '.') = true := fun c hc => bne_iff_ne.2 (ne_of_isDigit (h c hc) rfl)
  have hsplit : splitPoint s = (s, []) := by
    rw [splitPoint, List.takeWhile_eq_self_iff.2 hpoint, List.dropWhile_eq_nil_iff.2 hpoint]
    rfl
  have hsign : ∀ sign : Char, sign.isDigit = false → (s.head? == some sign) = false := by
    intro sign hsign
    rw [beq_eq_false_iff_ne]
    intro hhead
    exact ne_of_isDigit (h sign (List.mem_of_mem_head? hhead)) hsign rfl
  have hsome : s.isEmpty = false := List.isEmpty_eq_false_iff.2 hne
  have hall : s.all Char.isDigit = true := List.all_eq_true.2 h
  simp [parse?, hsign '+' rfl, hsign '-' rfl, hsplit, hall, hsome]

namespace Duration

open DecimalNumber

/-! ## Terms -/

/-- A whole number of units as it is written: zeros, the digits of the number, and a name of the
unit. -/
structure WholeTerm where
  zeros : Nat
  count : Nat
  unit : TimeUnit
  spelling : String
  spelled : spelling ∈ unit.spellings

namespace WholeTerm

/-- The digits of a term. -/
def digits (t : WholeTerm) : List Char := List.replicate t.zeros '0' ++ Nat.toDigits 10 t.count

/-- The written form of a term. -/
def text (t : WholeTerm) : String := String.ofList t.digits ++ t.spelling

/-- The length of a term in nanoseconds. -/
def nanos (t : WholeTerm) : Nat := t.count * t.unit.nanos

@[simp] lemma toList_text (t : WholeTerm) : t.text.toList = t.digits ++ t.spelling.toList := by
  simp [text]

lemma isDigit_of_mem_digits {t : WholeTerm} {c : Char} (h : c ∈ t.digits) : c.isDigit = true := by
  rcases List.mem_append.1 h with h | h
  · rw [List.eq_of_mem_replicate h]
    rfl
  · exact isDigit_of_mem_toDigits h

lemma digits_ne_nil (t : WholeTerm) : t.digits ≠ [] :=
  List.append_ne_nil_of_right_ne_nil _ Nat.toDigits_ne_nil

/-- Zeros in front of a number do not count. -/
@[simp] lemma digitsValue_digits (t : WholeTerm) : digitsValue t.digits = t.count := by
  rw [digits, digitsValue_append, digitsValue_replicate_zero, digitsValue_toDigits, zero_mul,
    zero_add]

lemma isUnsigned_digits (t : WholeTerm) : IsUnsigned t.digits :=
  .whole (fun _ => isDigit_of_mem_digits) t.digits_ne_nil

lemma spelling_mem_names (t : WholeTerm) : t.spelling.toList ∈ TimeUnit.names := by
  rw [← TimeUnit.isSome_ofName?_iff, TimeUnit.ofName?_eq_some_iff.2 t.spelled, Option.isSome_some]

/-- **A term that fits is read without a loss.** -/
lemma termNanos_eq {t : WholeTerm} (h : t.nanos ≤ 2 ^ 53) :
    termNanos t.digits t.spelling.toList = .ok t.nanos := by
  have hsome : t.digits.isEmpty = false := List.isEmpty_eq_false_iff.2 t.digits_ne_nil
  have hparts : t.unit.nanos * digitsValue t.digits + 0 = t.nanos := by
    rw [digitsValue_digits, add_zero, mul_comm, nanos]
  have hscaled : (DecimalNumber.mk false t.digits []).nanos t.unit.nanos = t.nanos := by
    have hfraction : (digitsValue [] : Rat) / 10 ^ ([] : List Char).length =
        (0 : Nat) / t.unit.nanos := by simp [digitsValue]
    exact (nanos_eq (n := ⟨false, t.digits, []⟩) t.unit.nanos_pos rfl (Nat.zero_le _) hfraction
      (hparts.trans_le h)).trans hparts
  rw [termNanos, TimeUnit.ofName?_eq_some_iff.2 t.spelled]
  simp only [hsome, Bool.false_eq_true, if_false, parse?_digits (fun _ => isDigit_of_mem_digits)
    t.digits_ne_nil, hscaled]

end WholeTerm

/-! ## Rows -/

/-- The characters of a row of terms. -/
def rowChars (terms : List WholeTerm) : List Char :=
  terms.flatMap (fun t => t.digits ++ t.spelling.toList)

lemma toList_join_terms (terms : List WholeTerm) :
    (String.join (terms.map WholeTerm.text)).toList = rowChars terms := by
  simp [rowChars, String.toList_join, List.flatMap_map]

lemma isRow_rowChars (terms : List WholeTerm) : IsRow IsUnsigned (rowChars terms) := by
  induction terms with
  | nil => exact .nil
  | cons t rest ih => exact .cons t.isUnsigned_digits t.spelling_mem_names ih

/-- **The terms of a row are added up.** -/
lemma sumTerms_terms {terms : List WholeTerm} (h : ∀ t ∈ terms, t.nanos ≤ 2 ^ 53) :
    sumTerms (rowChars terms) = .ok (terms.map WholeTerm.nanos).sum := by
  induction terms with
  | nil => exact sumTerms_nil
  | cons t rest ih =>
    obtain ⟨ht, hrest⟩ := List.forall_mem_cons.1 h
    rw [rowChars, List.flatMap_cons, ← rowChars,
      sumTerms_append (fun _ => t.isUnsigned_digits.not_isLetter)
        (fun _ => isLetter_of_mem_names t.spelling_mem_names)
        (ne_nil_of_mem_names t.spelling_mem_names) (isRow_rowChars rest).isNumber.not_isLetter_head,
      WholeTerm.termNanos_eq ht, ih hrest]
    rfl

/-- A sign in front of a row of unsigned numbers is passed over. -/
lemma withoutSigns_row {sign : String} (hsign : sign ∈ ["", "+", "-"]) {row : List Char}
    (h : IsRow IsUnsigned row) : withoutSigns (sign.toList ++ row) = row := by
  have hplain : ∀ c ∈ row, isSign c = false := fun c hc => h.not_isSign hc
  fin_cases hsign
  · exact withoutSigns_eq_self hplain
  · exact withoutSigns_cons rfl hplain
  · exact withoutSigns_cons rfl hplain

/-- A row whose terms can be added up is no zero without a unit. -/
lemma ne_zero_of_sumTerms {row : List Char} {n : Nat} (h : sumTerms row = .ok n) : row ≠ ['0'] := by
  rintro rfl
  rw [sumTerms] at h
  cases h

/-- **Whole terms are read as their sum.**  Each of them has to fit into fifty-three binary places
of nanoseconds, their sum has not; in milliseconds, what is left over is dropped. -/
theorem parse_whole_terms {sign : String} (hsign : sign ∈ ["", "+", "-"]) {terms : List WholeTerm}
    (h : ∀ t ∈ terms, t.nanos ≤ 2 ^ 53) :
    ∃ d, parse (sign ++ String.join (terms.map WholeTerm.text)) = .ok d ∧
      d.nanos = (terms.map WholeTerm.nanos).sum ∧
      d.millis = min ((terms.map WholeTerm.nanos).sum / 10 ^ 6) (2 ^ 64 - 1) ∧
      (d.negative = true ↔ sign = "-") := by
  have hsum := sumTerms_terms h
  have hrow := isRow_rowChars terms
  have hread : parse (sign ++ String.join (terms.map WholeTerm.text)) =
      .ok ⟨(sign.toList ++ rowChars terms).head? == some '-', (terms.map WholeTerm.nanos).sum⟩ := by
    rw [parse, ← withoutSigns, String.toList_append, toList_join_terms, withoutSigns_row hsign hrow,
      if_neg (ne_zero_of_sumTerms hsum), hsum]
    rfl
  refine ⟨_, hread, rfl, rfl, ?_⟩
  have hhead : (rowChars terms).head? ≠ some '-' := fun hminus => by
    have hplain := hrow.not_isSign (List.mem_of_mem_head? hminus)
    cases hplain
  rw [beq_iff_eq]
  fin_cases hsign
  · simpa using hhead
  · simp
  · simp

/-- An hour with a zero in front, the largest term in nanoseconds that fits, and three microseconds
under their Greek name, with a minus sign. -/
theorem parse_whole_terms_mixed_units :
    let terms : List WholeTerm :=
      [⟨1, 1, .hour, "h", by decide⟩, ⟨0, 9007199254740992, .nanosecond, "ns", by decide⟩,
        ⟨0, 3, .microsecond, "\u03bcs", by decide⟩]
    "-" ∈ ["", "+", "-"] ∧ (∀ t ∈ terms, t.nanos ≤ 2 ^ 53) ∧
      "-" ++ String.join (terms.map WholeTerm.text) = "-01h9007199254740992ns3\u03bcs" ∧
      ∃ d, parse "-01h9007199254740992ns3\u03bcs" = .ok d ∧ d.nanos = 9010799254743992 ∧
        d.millis = 9010799254 ∧ d.negative = true := by
  intro terms
  have hsign : "-" ∈ ["", "+", "-"] := by decide
  have hfits : ∀ t ∈ terms, t.nanos ≤ 2 ^ 53 := by decide
  have htext : "-" ++ String.join (terms.map WholeTerm.text) =
      "-01h9007199254740992ns3\u03bcs" := by cbv
  obtain ⟨d, hread, hnanos, hmillis, hnegative⟩ := parse_whole_terms hsign hfits
  have hsum : (terms.map WholeTerm.nanos).sum = 9010799254743992 := by decide
  rw [htext] at hread
  rw [hsum] at hnanos hmillis
  exact ⟨hsign, hfits, htext, d, hread, hnanos, hmillis, hnegative.2 rfl⟩

end Duration

end ProxyFleet
