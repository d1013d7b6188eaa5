/-!
# Finding one text in another

* `occursIn_iff` : a pattern occurs in a text when the text is something, the pattern and something.
* `withoutEnd_eq_some_iff` : what is left without an ending, put before that ending, is the text.
-/

namespace ProxyFleet.Text

/-- Whether a pattern occurs in a list of characters. -/
def occursIn (pattern : List Char) : List Char → Bool
  | [] => pattern.isEmpty
  | c :: rest => pattern.isPrefixOf (c :: rest) || occursIn pattern rest

/-- Whether a pattern occurs in a text. -/
def contains (s pattern : String) : Bool := occursIn pattern.toList s.toList

/-- What stands after a beginning, if the list has that beginning. -/
def afterStart : List Char → List Char → Option (List Char)
  | [], s => some s
  | _ :: _, [] => none
  | a :: start, c :: s => if a = c then afterStart start s else none

/-- A list of characters with the first occurrence of a pattern replaced. -/
def replaceFirstChars (pattern image : List Char) : List Char → List Char
  | [] => if pattern.isEmpty then image else []
  | c :: rest =>
    match afterStart pattern (c :: rest) with
    | some after => image ++ after
    | none => c :: replaceFirstChars pattern image rest

/-- A text with the first occurrence of a pattern replaced. -/
def replaceFirst (s pattern image : String) : String :=
  String.ofList (replaceFirstChars pattern.toList image.toList s.toList)

/-- What stands before an ending, if the text has that ending. -/
def withoutEnd (ending s : String) : Option String :=
  (afterStart ending.toList.reverse s.toList.reverse).map (fun l => String.ofList l.reverse)

/-- What stands after a beginning, if the text has that beginning. -/
def withoutStart (start s : String) : Option String :=
  (afterStart start.toList s.toList).map String.ofList

/-- A pattern occurs in a text exactly when it stands somewhere inside it. -/
theorem occursIn_iff {pattern s : List Char} :
    occursIn pattern s = true ↔ ∃ before after, s = before ++ pattern ++ after := by
  induction s with
  | nil =>
    simp only [occursIn, List.isEmpty_iff]
    constructor
    · rintro rfl; exact ⟨[], [], rfl⟩
    · rintro ⟨before, after, h⟩
      have := (List.append_eq_nil_iff.1 h.symm).1
      exact (List.append_eq_nil_iff.1 this).2
  | cons c rest ih =>
    simp only [occursIn, Bool.or_eq_true, List.isPrefixOf_iff_prefix, ih]
    constructor
    · rintro (⟨after, h⟩ | ⟨before, after, rfl⟩)
      · exact ⟨[], after, by simpa using h.symm⟩
      · exact ⟨c :: before, after, by simp⟩
    · rintro ⟨before, after, h⟩
      cases before with
      | nil => exact .inl ⟨after, by simpa using h.symm⟩
      | cons b before =>
        simp only [List.cons_append, List.cons.injEq] at h
        exact .inr ⟨before, after, h.2⟩

/-- What is left after a beginning, put after that beginning, is the list. -/
theorem afterStart_eq_some_iff {start s rest : List Char} :
    afterStart start s = some rest ↔ s = start ++ rest := by
  induction start generalizing s with
  | nil => simp [afterStart]
  | cons a start ih =>
    cases s with
    | nil => simp [afterStart]
    | cons c s =>
      by_cases h : a = c
      · simp [afterStart, h, ih]
      · simp [afterStart, h, Ne.symm h]

/-- What is left of a text after a beginning, put after that beginning, is the text. -/
theorem withoutStart_eq_some_iff {start s rest : String} :
    withoutStart start s = some rest ↔ s = start ++ rest := by
  rw [withoutStart, Option.map_eq_some_iff]
  constructor
  · rintro ⟨l, h, rfl⟩
    apply String.toList_inj.1
    simpa using afterStart_eq_some_iff.1 h
  · rintro rfl
    exact ⟨rest.toList, afterStart_eq_some_iff.2 (by simp), by simp⟩

/-- What is left of a text before an ending, put before that ending, is the text. -/
theorem withoutEnd_eq_some_iff {ending s rest : String} :
    withoutEnd ending s = some rest ↔ s = rest ++ ending := by
  rw [withoutEnd, Option.map_eq_some_iff]
  constructor
  · rintro ⟨r, h, rfl⟩
    apply String.toList_inj.1
    have := congrArg List.reverse (afterStart_eq_some_iff.1 h)
    simpa using this
  · rintro rfl
    exact ⟨rest.toList.reverse, afterStart_eq_some_iff.2 (by simp), by simp⟩

end ProxyFleet.Text
