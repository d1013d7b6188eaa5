import Mathlib
import ProxyFleet.KeyMap
import ProxyFleet.Text.Utf8

/-!
# The order of bytes

Texts are ordered by their characters, and UTF-8 keeps that order: the bytes of a text stand before
those of another exactly if the text does.

**Characters.**  The bytes of a smaller character come first, whatever stands after either of them
(`Text.utf8EncodeChar_append_lt`).

**Texts.**  `Text.utf8_lt_iff` and `Text.utf8_le_iff`.

**Sorting.**  A comparison that decides an order sorts a list into that order
(`Text.pairwise_mergeSort_of_iff`), and texts that stand in ascending order are determined by which
texts they are (`Text.eq_of_ascending`).
-/

namespace ProxyFleet.Text

/-! ## Characters -/

/-- The first byte decides, and the bytes after it count where it does not. -/
lemma ofNat_cons_lt_iff {m n : ℕ} (hm : m < 256) (hn : n < 256) {x y : List UInt8} :
    UInt8.ofNat m :: x < UInt8.ofNat n :: y ↔ m < n ∨ m = n ∧ x < y := by
  rw [List.cons_lt_cons_iff, UInt8.lt_iff_toNat_lt, ← UInt8.toNat_inj,
    UInt8.toNat_ofNat_of_lt' hm, UInt8.toNat_ofNat_of_lt' hn]

/-- There is no character past the last code point. -/
lemma codePoint_lt (c : Char) : c.val.toNat < 0x110000 := by
  rcases c.valid with h | ⟨-, h⟩
  · exact h.trans (by decide)
  · exact h

/-- **The bytes of a smaller character come first**, whatever stands after them. -/
lemma utf8EncodeChar_append_lt {c d : Char} (h : c < d) (x y : List UInt8) :
    String.utf8EncodeChar c ++ x < String.utf8EncodeChar d ++ y := by
  have hlt : c.val.toNat < d.val.toNat := h
  have hd : d.val.toNat < 0x110000 := codePoint_lt d
  -- every byte after the first has six bits, so what stands before it is a quotient by 64
  have htwo : ∀ k : ℕ, k / 4096 = k / 64 / 64 := by omega
  have hthree : ∀ k : ℕ, k / 262144 = k / 64 / 64 / 64 := by omega
  simp only [String.utf8EncodeChar, htwo, hthree]
  generalize c.val.toNat = m at hlt
  generalize d.val.toNat = n at hlt hd
  split_ifs <;> simp (disch := omega) only [List.cons_append, ofNat_cons_lt_iff] <;> omega

/-! ## Texts -/

/-- The bytes of a smaller text come first. -/
lemma utf8_lt {s t : String} (h : s < t) : utf8 s < utf8 t := by
  have key : ∀ {l m : List Char}, List.Lex (· < ·) l m →
      l.flatMap String.utf8EncodeChar < m.flatMap String.utf8EncodeChar := by
    intro l m hlt
    induction hlt with
    | @nil c l =>
      obtain ⟨b, bytes, hc⟩ := List.exists_cons_of_ne_nil (String.utf8EncodeChar_ne_nil (c := c))
      rw [List.flatMap_nil, List.flatMap_cons, hc]
      exact List.nil_lt_cons b _
    | rel hcd => exact utf8EncodeChar_append_lt hcd _ _
    | cons _ ih => exact List.append_left_lt ih
  exact key (String.lt_iff_toList_lt.1 h)

/-- **Texts are ordered as their bytes are.** -/
lemma utf8_lt_iff {s t : String} : utf8 s < utf8 t ↔ s < t := by
  refine ⟨fun h => ?_, utf8_lt⟩
  by_contra hnot
  by_cases hts : t < s
  · exact List.lt_asymm h (utf8_lt hts)
  · rw [KeyMap.key_eq_of_not_lt hnot hts] at h
    exact List.lt_irrefl _ h

lemma utf8_le_iff {s t : String} : utf8 s ≤ utf8 t ↔ s ≤ t := by
  rw [← List.not_lt, ← String.not_lt, utf8_lt_iff]

/-! ## Sorting -/

/-- A comparison that decides an order sorts a list into that order. -/
lemma pairwise_mergeSort_of_iff {α : Type} {r : α → α → Prop} {le : α → α → Bool}
    (hle : ∀ a b, le a b = true ↔ r a b) (htrans : ∀ a b c, r a b → r b c → r a c)
    (htotal : ∀ a b, r a b ∨ r b a) (l : List α) : (l.mergeSort le).Pairwise r := by
  have hsorted : (l.mergeSort le).Pairwise (fun a b => le a b = true) := by
    refine List.pairwise_mergeSort (fun a b c hab hbc => ?_) (fun a b => ?_) l
    · rw [hle] at hab hbc ⊢
      exact htrans a b c hab hbc
    · rw [Bool.or_eq_true, hle, hle]
      exact htotal a b
  exact hsorted.imp (hle _ _).1

/-- That a text does not stand before another one is how lines are compared. -/
lemma not_before_iff (s t : String) : (!decide (s < t)) = true ↔ t ≤ s := by
  rw [Bool.not_eq_true', decide_eq_false_iff_not, String.not_lt]

/-- Texts in ascending order are determined by which texts they are. -/
lemma eq_of_ascending {l m : List String} (h : l.Perm m) (hl : l.Pairwise (· ≤ ·))
    (hm : m.Pairwise (· ≤ ·)) : l = m :=
  List.Perm.eq_of_pairwise (fun _ _ _ _ => String.le_antisymm) hl hm h

end ProxyFleet.Text
