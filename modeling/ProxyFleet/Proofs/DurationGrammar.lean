import ProxyFleet.Proofs.Checks
import ProxyFleet.Proofs.DurationText

/-!
# Which texts are durations

A duration is written as an optional sign and a row of terms, each an unsigned decimal number and
a unit, or a zero that has none.  Reading takes every such text, and others beside it.

**Numbers.**  `DecimalNumber.isSome_parse?_iff` says which texts can stand in front of a unit: the
unsigned numbers, and a sign with a number that begins with a digit.

**Rows.**  `Duration.exists_sumTerms_iff` : what is read as a row of terms is one.  No character of
a number is a letter and all of a unit are, so that a row falls apart in one way only.

**Signs.**  Any number of plus signs is passed over in front of a row, and any number of minus signs
after them (`Duration.exists_parse_iff`).  What is read and is no duration can be told by its signs
alone (`Duration.isDurationText_iff`).

Main statement: `Duration.parse_follows_grammar`.
-/

namespace ProxyFleet

/-! ## Units -/

/-- The names of the units. -/
def TimeUnit.names : List (List Char) :=
  ["ns", "us", "\u00b5s", "\u03bcs", "ms", "s", "m", "h"].map String.toList

lemma TimeUnit.isSome_ofName?_iff (name : List Char) :
    (ofName? name).isSome = true ↔ name ∈ names := by
  have hnames : names = [['n', 's'], ['u', 's'], ['\u00b5', 's'], ['\u03bc', 's'], ['m', 's'],
    ['s'], ['m'], ['h']] := rfl
  simp only [hnames, List.mem_cons, List.not_mem_nil, or_false]
  rw [ofName?]
  split_ifs <;> simp_all only [Option.isSome_some, Option.isSome_none, Bool.false_eq_true,
    true_or, or_true, or_self, or_false, true_iff]
  tauto

/-! ## Numbers -/

/-- Whether a character is a sign. -/
def isSign (c : Char) : Bool := c == '+' || c == '-'

lemma isSign_iff (c : Char) : isSign c = true ↔ c = '+' ∨ c = '-' := by simp [isSign]

lemma isSign_of_isDigit {c : Char} (h : c.isDigit = true) : isSign c = false := by
  have hplus : c ≠ '+' := ne_of_isDigit h rfl
  have hminus : c ≠ '-' := ne_of_isDigit h rfl
  simp [isSign, hplus, hminus]

namespace DecimalNumber

/-- The texts of unsigned numbers: digits with at most one point, and at least one digit in all. -/
inductive IsUnsigned : List Char → Prop
  | whole {digits : List Char} (hdigits : ∀ c ∈ digits, c.isDigit = true) (hne : digits ≠ []) :
    IsUnsigned digits
  | point {digits fraction : List Char} (hdigits : ∀ c ∈ digits, c.isDigit = true)
    (hfraction : ∀ c ∈ fraction, c.isDigit = true) (hne : digits ≠ [] ∨ fraction ≠ []) :
    IsUnsigned (digits ++ '.' :: fraction)

/-- The texts that are read as a number in front of a unit. -/
inductive IsNumber : List Char → Prop
  | unsigned {s : List Char} (h : IsUnsigned s) : IsNumber s
  | signed {sign digit : Char} {later : List Char} (hsign : isSign sign = true)
    (hdigit : digit.isDigit = true) (h : IsUnsigned (digit :: later)) :
    IsNumber (sign :: digit :: later)

lemma IsUnsigned.ne_nil {s : List Char} (h : IsUnsigned s) : s ≠ [] := by
  cases h with
  | whole hdigits hne => exact hne
  | point => simp

lemma IsUnsigned.mem_cases {s : List Char} (h : IsUnsigned s) {c : Char} (hc : c ∈ s) :
    c.isDigit = true ∨ c = '.' := by
  cases h with
  | whole hdigits => exact .inl (hdigits c hc)
  | point hdigits hfraction =>
    simp only [List.mem_append, List.mem_cons] at hc
    rcases hc with hc | hc | hc
    · exact .inl (hdigits c hc)
    · exact .inr hc
    · exact .inl (hfraction c hc)

lemma IsUnsigned.not_isSign {s : List Char} (h : IsUnsigned s) {c : Char} (hc : c ∈ s) :
    isSign c = false := by
  rcases h.mem_cases hc with hdigit | rfl
  · exact isSign_of_isDigit hdigit
  · rfl

lemma IsUnsigned.not_isLetter {s : List Char} (h : IsUnsigned s) {c : Char} (hc : c ∈ s) :
    Text.isLetter c = false := by
  rcases h.mem_cases hc with hdigit | rfl
  · exact isLetter_of_isDigit hdigit
  · rfl

lemma IsNumber.ne_nil {s : List Char} (h : IsNumber s) : s ≠ [] := by
  cases h with
  | unsigned h => exact h.ne_nil
  | signed => simp

lemma IsNumber.not_isLetter {s : List Char} (h : IsNumber s) {c : Char} (hc : c ∈ s) :
    Text.isLetter c = false := by
  cases h with
  | unsigned h => exact h.not_isLetter hc
  | signed hsign hdigit h =>
    rcases List.mem_cons.1 hc with rfl | hc
    · rcases (isSign_iff c).1 hsign with rfl | rfl <;> rfl
    · exact h.not_isLetter hc

/-- A number in which no sign stands is unsigned. -/
lemma IsNumber.isUnsigned {s : List Char} (h : IsNumber s) (hsign : ∀ c ∈ s, isSign c = false) :
    IsUnsigned s := by
  cases h with
  | unsigned h => exact h
  | signed hsigned =>
    rw [hsign _ List.mem_cons_self] at hsigned
    cases hsigned

/-- An unsigned number is told by its parts before and after the point. -/
lemma isUnsigned_iff (s : List Char) :
    IsUnsigned s ↔ (∀ c ∈ (splitPoint s).1, c.isDigit = true) ∧
      (∀ c ∈ (splitPoint s).2, c.isDigit = true) ∧
      ((splitPoint s).1 ≠ [] ∨ (splitPoint s).2 ≠ []) := by
  have hpoint : ∀ {digits : List Char}, (∀ c ∈ digits, c.isDigit = true) →
      ∀ c ∈ digits, (c != '.') = true := fun h c hc => bne_iff_ne.2 (ne_of_isDigit (h c hc) rfl)
  constructor
  · intro h
    cases h with
    | whole hdigits hne =>
      have htake := List.takeWhile_eq_self_iff.2 (hpoint hdigits)
      have hdrop := List.dropWhile_eq_nil_iff.2 (hpoint hdigits)
      simp only [splitPoint, htake, hdrop]
      exact ⟨hdigits, by simp, .inl hne⟩
    | point hdigits hfraction hne =>
      simp only [splitPoint, List.takeWhile_append_of_pos (hpoint hdigits),
        List.dropWhile_append_of_pos (hpoint hdigits)]
      simpa using ⟨hdigits, hfraction, hne⟩
  · rintro ⟨hdigits, hfraction, hne⟩
    have hparts : s.takeWhile (· != '.') ++ s.dropWhile (· != '.') = s :=
      List.takeWhile_append_dropWhile
    simp only [splitPoint] at hdigits hfraction hne
    cases hrest : s.dropWhile (· != '.') with
    | nil =>
      rw [hrest] at hparts hne
      rw [List.append_nil] at hparts
      rw [hparts] at hdigits hne
      exact .whole hdigits (by simpa using hne)
    | cons c fraction =>
      obtain rfl : c = '.' := by
        have hhead := List.head?_dropWhile_not (· != '.') s
        rw [hrest] at hhead
        simpa using hhead
      rw [hrest] at hparts hne hfraction
      rw [← hparts]
      exact .point hdigits hfraction hne

/-- The part of a number before its point, if there are digits in it, begins the number. -/
lemma exists_digit_of_whole {s : List Char} (h : ∀ c ∈ (splitPoint s).1, c.isDigit = true)
    (hne : (splitPoint s).1 ≠ []) : ∃ digit later, s = digit :: later ∧ digit.isDigit = true := by
  cases s with
  | nil => exact absurd rfl hne
  | cons c later =>
    refine ⟨c, later, rfl, h c ?_⟩
    by_cases hc : c = '.'
    · simp [splitPoint, hc] at hne
    · simp [splitPoint, hc]

lemma whole_ne_nil {digit : Char} {later : List Char} (h : digit.isDigit = true) :
    (splitPoint (digit :: later)).1 ≠ [] := by
  have hpoint : digit ≠ '.' := ne_of_isDigit h rfl
  simp [splitPoint, hpoint]

/-- **Which texts are read as a number.** -/
lemma isSome_parse?_iff (s : List Char) : (parse? s).isSome = true ↔ IsNumber s := by
  cases s with
  | nil =>
    constructor
    · nofun
    · intro h
      exact absurd rfl h.ne_nil
  | cons c later =>
    cases hsign : isSign c with
    | false =>
      have hnumber : IsNumber (c :: later) ↔ IsUnsigned (c :: later) := by
        constructor
        · intro h
          cases h with
          | unsigned h => exact h
          | signed hsigned =>
            rw [hsign] at hsigned
            cases hsigned
        · exact .unsigned
      have hplain : ¬(c = '+' ∨ c = '-') := by
        rw [← isSign_iff, hsign]
        exact Bool.false_ne_true
      rw [not_or] at hplain
      rw [hnumber, isUnsigned_iff, parse?]
      simp [hplain, and_assoc]
    | true =>
      have hnumber : IsNumber (c :: later) ↔
          (∀ d ∈ (splitPoint later).1, d.isDigit = true) ∧
            (∀ d ∈ (splitPoint later).2, d.isDigit = true) ∧ (splitPoint later).1 ≠ [] := by
        constructor
        · intro h
          cases h with
          | unsigned h =>
            rw [h.not_isSign List.mem_cons_self] at hsign
            cases hsign
          | signed _ hdigit h =>
            obtain ⟨hwhole, hfraction, -⟩ := (isUnsigned_iff _).1 h
            exact ⟨hwhole, hfraction, whole_ne_nil hdigit⟩
        · rintro ⟨hwhole, hfraction, hne⟩
          obtain ⟨digit, rest, rfl, hdigit⟩ := exists_digit_of_whole hwhole hne
          exact .signed hsign hdigit ((isUnsigned_iff _).2 ⟨hwhole, hfraction, .inl hne⟩)
      rw [hnumber, parse?]
      rcases (isSign_iff c).1 hsign with rfl | rfl <;> simp [and_assoc]

end DecimalNumber

namespace Duration

open DecimalNumber

/-! ## Rows -/

/-- The texts of rows of terms, each a number of a kind directly followed by the name of a unit. -/
inductive IsRow (Number : List Char → Prop) : List Char → Prop
  | nil : IsRow Number []
  | cons {number unit rest : List Char} (hnumber : Number number)
    (hunit : unit ∈ TimeUnit.names) (hrest : IsRow Number rest) :
    IsRow Number (number ++ unit ++ rest)

lemma exists_termNanos_iff (number unit : List Char) :
    (∃ n, termNanos number unit = .ok n) ↔ IsNumber number ∧ unit ∈ TimeUnit.names := by
  rw [← isSome_parse?_iff, ← TimeUnit.isSome_ofName?_iff, termNanos]
  cases TimeUnit.ofName? unit with
  | none => simp
  | some u =>
    cases number with
    | nil => simp [DecimalNumber.parse?, splitPoint]
    | cons c later => cases DecimalNumber.parse? (c :: later) <;> simp

lemma ne_nil_of_mem_names {unit : List Char} (h : unit ∈ TimeUnit.names) : unit ≠ [] := by
  rintro rfl
  revert h
  decide

lemma isLetter_of_mem_names {unit : List Char} (h : unit ∈ TimeUnit.names) {c : Char}
    (hc : c ∈ unit) : Text.isLetter c = true := by
  obtain ⟨u, hu⟩ := Option.isSome_iff_exists.1 ((TimeUnit.isSome_ofName?_iff unit).2 h)
  exact TimeUnit.isLetter_of_ofName? hu hc

/-- A row does not begin with a letter. -/
lemma IsRow.not_isLetter_head {s : List Char} (h : IsRow IsNumber s) :
    ∀ c ∈ s.head?, Text.isLetter c = false := by
  cases h with
  | nil => simp
  | @cons number unit rest hnumber hunit hrest =>
    obtain ⟨d, later, rfl⟩ := List.exists_cons_of_ne_nil hnumber.ne_nil
    intro c hc
    cases hc
    exact hnumber.not_isLetter List.mem_cons_self

/-- A text that is read as a row, unless it is empty, is a term and what is read after it. -/
lemma exists_term_of_sumTerms {s : List Char} {n : Nat} (h : sumTerms s = .ok n) (hne : s ≠ []) :
    ∃ number unit rest first others, s = number ++ unit ++ rest ∧ rest.length < s.length ∧
      termNanos number unit = .ok first ∧ sumTerms rest = .ok others := by
  have hparts : s.takeWhile (fun c => !Text.isLetter c) ++
      s.dropWhile (fun c => !Text.isLetter c) = s := List.takeWhile_append_dropWhile
  rw [sumTerms, if_neg (by simpa using hne)] at h
  split at h
  · cases h
  · rename_i c rest hrest
    obtain ⟨first, hfirst, h⟩ := Check.bind_eq_ok_iff.1 h
    obtain ⟨others, hothers, -⟩ := Check.bind_eq_ok_iff.1 h
    have hletters : rest.takeWhile Text.isLetter ++ rest.dropWhile Text.isLetter = rest :=
      List.takeWhile_append_dropWhile
    have hsplit : s = s.takeWhile (fun c => !Text.isLetter c) ++
        (c :: rest.takeWhile Text.isLetter) ++ rest.dropWhile Text.isLetter := by
      rw [List.append_assoc, List.cons_append, hletters, ← hrest, hparts]
    refine ⟨_, _, _, first, others, hsplit, ?_, hfirst, hothers⟩
    have hlength := congrArg List.length hsplit
    simp only [List.length_append, List.length_cons] at hlength
    omega

/-- **What is read as a row of terms is one**, and every row is read. -/
lemma exists_sumTerms_iff (s : List Char) : (∃ n, sumTerms s = .ok n) ↔ IsRow IsNumber s := by
  constructor
  · rintro ⟨n, h⟩
    induction hlength : s.length using Nat.strong_induction_on generalizing s n with
    | _ length ih =>
      rcases eq_or_ne s [] with rfl | hne
      · exact .nil
      · obtain ⟨number, unit, rest, first, others, rfl, hshort, hfirst, hothers⟩ :=
          exists_term_of_sumTerms h hne
        obtain ⟨hnumber, hunit⟩ := (exists_termNanos_iff number unit).1 ⟨first, hfirst⟩
        exact .cons hnumber hunit (ih _ (hlength ▸ hshort) rest others hothers rfl)
  · intro h
    induction h with
    | nil => exact ⟨0, sumTerms_nil⟩
    | @cons number unit rest hnumber hunit hrest ih =>
      obtain ⟨first, hfirst⟩ := (exists_termNanos_iff number unit).2 ⟨hnumber, hunit⟩
      obtain ⟨others, hothers⟩ := ih
      refine ⟨first + others, ?_⟩
      rw [sumTerms_append (fun _ => hnumber.not_isLetter) (fun _ => isLetter_of_mem_names hunit)
        (ne_nil_of_mem_names hunit) hrest.not_isLetter_head, hfirst, hothers]
      rfl

/-- A row without signs has unsigned numbers. -/
lemma IsRow.isUnsigned {s : List Char} (h : IsRow IsNumber s)
    (hsign : ∀ c ∈ s, isSign c = false) : IsRow IsUnsigned s := by
  induction h with
  | nil => exact .nil
  | cons hnumber hunit hrest ih =>
    exact .cons (hnumber.isUnsigned fun c hc => hsign c (by simp [hc])) hunit
      (ih fun c hc => hsign c (by simp [hc]))

lemma IsRow.isNumber {s : List Char} (h : IsRow IsUnsigned s) : IsRow IsNumber s := by
  induction h with
  | nil => exact .nil
  | cons hnumber hunit hrest ih => exact .cons (.unsigned hnumber) hunit ih

/-- No sign stands in a row of unsigned numbers. -/
lemma IsRow.not_isSign {s : List Char} (h : IsRow IsUnsigned s) {c : Char} (hc : c ∈ s) :
    isSign c = false := by
  induction h with
  | nil => cases hc
  | @cons number unit rest hnumber hunit hrest ih =>
    simp only [List.mem_append] at hc
    rcases hc with (hc | hc) | hc
    · exact hnumber.not_isSign hc
    · have hletter := isLetter_of_mem_names hunit hc
      cases hsign : isSign c with
      | false => rfl
      | true =>
        rcases (isSign_iff c).1 hsign with rfl | rfl <;> cases hletter
    · exact ih hc

/-- A row is read as well without a sign that it begins with. -/
lemma IsRow.dropWhile_sign {s : List Char} (h : IsRow IsNumber s) {sign : Char}
    (hsign : isSign sign = true) : IsRow IsNumber (s.dropWhile (· == sign)) := by
  have hstays : ∀ {c : Char} {later : List Char}, isSign c = false →
      (c :: later).dropWhile (· == sign) = c :: later := by
    intro c later hc
    refine List.dropWhile_cons_of_neg ?_
    rw [beq_iff_eq]
    rintro rfl
    rw [hsign] at hc
    cases hc
  cases h with
  | nil => exact .nil
  | @cons number unit rest hnumber hunit hrest =>
    cases hnumber with
    | unsigned hnumber =>
      obtain ⟨c, later, rfl⟩ := List.exists_cons_of_ne_nil hnumber.ne_nil
      rw [List.cons_append, List.cons_append, hstays (hnumber.not_isSign List.mem_cons_self)]
      exact .cons (.unsigned hnumber) hunit hrest
    | @signed c digit later hc hdigit hnumber =>
      by_cases hsame : c = sign
      · have hdrop : (c :: digit :: later ++ unit ++ rest).dropWhile (· == sign) =
            digit :: later ++ unit ++ rest := by
          rw [List.cons_append, List.cons_append, List.dropWhile_cons_of_pos (by simp [hsame])]
          exact hstays (isSign_of_isDigit hdigit)
        rw [hdrop]
        exact .cons (.unsigned hnumber) hunit hrest
      · have hdrop : (c :: digit :: later ++ unit ++ rest).dropWhile (· == sign) =
            c :: digit :: later ++ unit ++ rest := by
          rw [List.cons_append, List.cons_append]
          exact List.dropWhile_cons_of_neg (by simp [hsame])
        rw [hdrop]
        exact .cons (.signed hc hdigit hnumber) hunit hrest

/-! ## Signs -/

/-- Whether a text is a zero that has no unit, or a row. -/
def IsBody (Number : List Char → Prop) (s : List Char) : Prop := s = ['0'] ∨ IsRow Number s

/-- **The texts of durations**: an optional sign, and then a zero or one or more terms with unsigned
numbers. -/
def IsDurationText (s : String) : Prop :=
  ∃ sign body, s.toList = sign ++ body ∧ (sign = [] ∨ sign = ['+'] ∨ sign = ['-']) ∧
    body ≠ [] ∧ IsBody IsUnsigned body

/-- The texts that are read: plus signs, minus signs, and then a zero or any number of terms, whose
numbers may have signs of their own. -/
def IsLooseText (s : String) : Prop :=
  ∃ plus minus body, s.toList = List.replicate plus '+' ++ (List.replicate minus '-' ++ body) ∧
    IsBody IsNumber body

/-- Whether a text holds signs alone, or a sign that does not stand at its beginning. -/
def SignsAstray (s : String) : Prop :=
  (∀ c ∈ s.toList, isSign c = true) ∨ ∃ c ∈ s.toList.tail, isSign c = true

/-- What is left of a text without the signs in front of it. -/
def withoutSigns (s : List Char) : List Char := (s.dropWhile (· == '+')).dropWhile (· == '-')

lemma exists_parse_iff_isBody (s : String) :
    (∃ d, parse s = .ok d) ↔ IsBody IsNumber (withoutSigns s.toList) := by
  rw [IsBody, ← exists_sumTerms_iff, parse, ← withoutSigns]
  by_cases hzero : withoutSigns s.toList = ['0']
  · simp [hzero]
  · cases sumTerms (withoutSigns s.toList) <;> simp [hzero, bind, Except.bind, pure, Except.pure]

lemma IsBody.dropWhile_sign {s : List Char} (h : IsBody IsNumber s) {sign : Char}
    (hsign : isSign sign = true) : IsBody IsNumber (s.dropWhile (· == sign)) := by
  rcases h with rfl | h
  · refine .inl (List.dropWhile_cons_of_neg ?_)
    rw [beq_iff_eq]
    rintro rfl
    cases hsign
  · exact .inr (h.dropWhile_sign hsign)

/-- **Which texts are read.** -/
lemma exists_parse_iff (s : String) : (∃ d, parse s = .ok d) ↔ IsLooseText s := by
  rw [exists_parse_iff_isBody]
  constructor
  · intro h
    have hplus : s.toList.takeWhile (· == '+') ++ s.toList.dropWhile (· == '+') = s.toList :=
      List.takeWhile_append_dropWhile
    have hminus : (s.toList.dropWhile (· == '+')).takeWhile (· == '-') ++ withoutSigns s.toList =
        s.toList.dropWhile (· == '+') := List.takeWhile_append_dropWhile
    have hall : ∀ (sign : Char) (l : List Char),
        l.takeWhile (· == sign) = List.replicate (l.takeWhile (· == sign)).length sign :=
      fun sign l => List.eq_replicate_of_mem fun c hc => by simpa using List.mem_takeWhile_imp hc
    refine ⟨(s.toList.takeWhile (· == '+')).length,
      ((s.toList.dropWhile (· == '+')).takeWhile (· == '-')).length, withoutSigns s.toList, ?_, h⟩
    rw [← hall '+' s.toList, ← hall '-' (s.toList.dropWhile (· == '+')), hminus, hplus]
  · rintro ⟨plus, minus, body, hs, hbody⟩
    have hdrop : ∀ (sign : Char) (n : Nat) (l : List Char),
        (List.replicate n sign ++ l).dropWhile (· == sign) = l.dropWhile (· == sign) :=
      fun sign n l => List.dropWhile_append_of_pos fun c hc => by
        simp [List.eq_of_mem_replicate hc]
    rw [withoutSigns, hs, hdrop]
    cases minus with
    | zero => exact (hbody.dropWhile_sign rfl).dropWhile_sign rfl
    | succ minus =>
      -- no plus sign is passed over after a minus sign
      have hstays : (List.replicate (minus + 1) '-' ++ body).dropWhile (· == '+') =
          List.replicate (minus + 1) '-' ++ body :=
        List.dropWhile_cons_of_neg (by decide)
      rw [hstays, hdrop]
      exact hbody.dropWhile_sign rfl

lemma IsBody.not_isSign {s : List Char} (h : IsBody IsUnsigned s) {c : Char} (hc : c ∈ s) :
    isSign c = false := by
  rcases h with rfl | h
  · rw [List.mem_singleton.1 hc]
    rfl
  · exact h.not_isSign hc

lemma withoutSigns_eq_self {s : List Char} (h : ∀ c ∈ s, isSign c = false) :
    withoutSigns s = s := by
  cases s with
  | nil => rfl
  | cons c later =>
    have hc := h c List.mem_cons_self
    simp only [isSign, Bool.or_eq_false_iff] at hc
    rw [withoutSigns, List.dropWhile_cons_of_neg (by simp [hc.1]),
      List.dropWhile_cons_of_neg (by simp [hc.2])]

lemma withoutSigns_cons {c : Char} {later : List Char} (hc : isSign c = true)
    (h : ∀ d ∈ later, isSign d = false) : withoutSigns (c :: later) = later := by
  have hlater := withoutSigns_eq_self h
  rcases (isSign_iff c).1 hc with rfl | rfl
  · rw [withoutSigns, List.dropWhile_cons_of_pos rfl]
    exact hlater
  · rw [withoutSigns, List.dropWhile_cons_of_neg (by decide), List.dropWhile_cons_of_pos rfl]
    cases later with
    | nil => rfl
    | cons d rest =>
      have hd := h d List.mem_cons_self
      simp only [isSign, Bool.or_eq_false_iff] at hd
      exact List.dropWhile_cons_of_neg (by simp [hd.2])

/-- **Durations are the texts that are read and have their signs in place.** -/
lemma isDurationText_iff (s : String) :
    IsDurationText s ↔ IsLooseText s ∧ ¬SignsAstray s := by
  rw [← exists_parse_iff, exists_parse_iff_isBody]
  constructor
  · rintro ⟨sign, body, hs, hsign, hne, hbody⟩
    have hplain : ∀ c ∈ body, isSign c = false := fun c hc => hbody.not_isSign hc
    have hrest : withoutSigns s.toList = body := by
      rw [hs]
      rcases hsign with rfl | rfl | rfl
      · exact withoutSigns_eq_self hplain
      · exact withoutSigns_cons rfl hplain
      · exact withoutSigns_cons rfl hplain
    have htail : ∀ c ∈ s.toList.tail, c ∈ body := by
      rw [hs]
      rcases hsign with rfl | rfl | rfl
      · exact fun c hc => List.mem_of_mem_tail hc
      · exact fun c hc => hc
      · exact fun c hc => hc
    refine ⟨hrest ▸ hbody.imp_right IsRow.isNumber, ?_⟩
    rintro (hall | ⟨c, hc, hsigned⟩)
    · obtain ⟨c, hc⟩ := List.exists_mem_of_ne_nil body hne
      have hsigned := hall c (hs ▸ List.mem_append_right sign hc)
      rw [hplain c hc] at hsigned
      cases hsigned
    · rw [hplain c (htail c hc)] at hsigned
      cases hsigned
  · rintro ⟨hbody, hplace⟩
    simp only [SignsAstray, not_or, not_forall, not_exists, not_and, Bool.not_eq_true] at hplace
    obtain ⟨⟨c, hc, hplain⟩, htail⟩ := hplace
    cases hs : s.toList with
    | nil =>
      rw [hs] at hc
      cases hc
    | cons first later =>
      rw [hs, List.tail_cons] at htail
      rw [hs] at hbody hc
      cases hfirst : isSign first with
      | true =>
        have hne : later ≠ [] := by
          rintro rfl
          rw [List.mem_singleton.1 hc, hfirst] at hplain
          cases hplain
        rw [withoutSigns_cons hfirst htail] at hbody
        have hsign : [first] = ['+'] ∨ [first] = ['-'] := by
          simpa using (isSign_iff first).1 hfirst
        exact ⟨[first], later, hs, .inr hsign, hne, hbody.imp_right (·.isUnsigned htail)⟩
      | false =>
        have hall : ∀ d ∈ first :: later, isSign d = false := by
          simpa using ⟨hfirst, htail⟩
        rw [withoutSigns_eq_self hall] at hbody
        exact ⟨[], first :: later, hs, .inl rfl, List.cons_ne_nil _ _,
          hbody.imp_right (·.isUnsigned hall)⟩

lemma negative_of_parse {s : String} {d : Duration} (h : parse s = .ok d) :
    d.negative = (s.toList.head? == some '-') := by
  rw [parse] at h
  split at h
  · cases h
    rfl
  · obtain ⟨n, -, h⟩ := Check.bind_eq_ok_iff.1 h
    cases h
    rfl

/-- **What is read and is no duration has its signs astray.**  A text is read exactly when it is a
duration, or else is made up like one but for its signs: it has nothing but signs, or further signs
after its first character.  The first character alone decides whether what is read is negative. -/
theorem parse_follows_grammar (s : String) :
    ((∃ d, parse s = .ok d) ↔ IsDurationText s ∨ IsLooseText s ∧ SignsAstray s) ∧
    ¬(IsDurationText s ∧ SignsAstray s) ∧
    ∀ d, parse s = .ok d → (d.negative = true ↔ s.toList.head? = some '-') := by
  rw [exists_parse_iff, isDurationText_iff, ← and_or_left]
  refine ⟨by simp [em'], fun h => h.1.2 h.2, fun d h => ?_⟩
  rw [negative_of_parse h, beq_iff_eq]

/-- A term that is taken away is read, and counts for nothing. -/
theorem subtracted_term_is_read :
    parse "1m-30s" = .ok ⟨false, 60 * secondNanos⟩ ∧ ¬IsDurationText "1m-30s" := by
  constructor
  · decide +kernel
  · rw [isDurationText_iff, not_and_not_right]
    exact fun _ => .inr ⟨'-', by decide, rfl⟩

end Duration

end ProxyFleet
