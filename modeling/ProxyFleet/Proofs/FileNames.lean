import Mathlib
import ProxyFleet.Artifact
import ProxyFleet.Digest.Hex
import ProxyFleet.Section.Value

/-!
# Names of side files

The files beside the document have names of their own, told apart by how they end.  The last four
characters of a name are enough for that: they tell side files from the document, from the file of
the environment, and from files that are not in their place yet.
-/

namespace ProxyFleet.FileName

/-! ## Endings -/

/-- The last four characters of a text, from its end. -/
def ending (s : String) : List Char := s.toList.reverse.take 4

/-- A long enough extension decides how a name ends. -/
lemma ending_append {ext : String} (h : 4 ≤ ext.toList.length) (stem : String) :
    ending (stem ++ ext) = ending ext := by
  have hle : 4 ≤ ext.toList.reverse.length := by simpa using h
  rw [ending, ending, String.toList_append, List.reverse_append, List.take_append_of_le_length hle]

/-- What the names of side files end in. -/
def extensions : List String := [".crt", ".ocsp", ".map", ".http", ".txt", ".conf"]

/-- Whether a name ends like that of a side file. -/
def HasExtension (name : String) : Prop := ∃ stem, ∃ ext ∈ extensions, name = stem ++ ext

lemma HasExtension.ending_mem {name : String} (h : HasExtension name) :
    ending name ∈ extensions.map ending := by
  obtain ⟨stem, ext, hext, rfl⟩ := h
  have hlong : ∀ ext ∈ extensions, 4 ≤ ext.toList.length := by decide
  rw [ending_append (hlong ext hext)]
  exact List.mem_map_of_mem hext

/-- A name that ends otherwise is not that of a side file. -/
lemma HasExtension.ne {name other : String} (h : HasExtension name)
    (ho : ending other ∉ extensions.map ending) : name ≠ other := by
  rintro rfl
  exact ho h.ending_mem

/-! ## Plain names -/

/-- Whether a name leads into no folder and no zero byte stands in it. -/
def IsPlain (name : String) : Prop := '/' ∉ name.toList ∧ '\x00' ∉ name.toList

instance (name : String) : Decidable (IsPlain name) :=
  inferInstanceAs (Decidable ('/' ∉ name.toList ∧ '\x00' ∉ name.toList))

lemma isPlain_append {a b : String} : IsPlain (a ++ b) ↔ IsPlain a ∧ IsPlain b := by
  simp only [IsPlain, String.toList_append, List.mem_append, not_or]
  exact and_and_and_comm

/-- Hexadecimal digits are plain. -/
lemma isPlain_hex (bytes : List UInt8) : IsPlain (Digest.hex bytes) :=
  ⟨fun h => Digest.forall_mem_hex (p := (· ≠ '/')) (by decide) bytes _ h rfl,
    fun h => Digest.forall_mem_hex (p := (· ≠ '\x00')) (by decide) bytes _ h rfl⟩

/-- A name that was checked is plain. -/
lemma isPlain_of_fileName {field declared name : String}
    (h : Section.fileName field declared = .ok name) : IsPlain name := by
  rw [Section.fileName] at h
  split at h
  · cases h
  · rename_i hok
    cases h
    simp only [Bool.or_eq_true, List.contains_iff_mem, not_or] at hok
    exact hok.1

/-- A name that was checked is the declared one. -/
lemma eq_of_fileName {field declared name : String}
    (h : Section.fileName field declared = .ok name) : name = declared := by
  rw [Section.fileName] at h
  split at h
  · cases h
  · cases h
    rfl

/-! ## Paths -/

/-- Files with different names have different paths. -/
lemma inConfigDir_inj {a b : String} : inConfigDir a = inConfigDir b ↔ a = b := by
  constructor
  · intro h
    apply String.toList_inj.1
    have hl := congrArg String.toList h
    simp only [inConfigDir, String.toList_append] at hl
    exact List.append_cancel_left hl
  · rintro rfl
    rfl

/-- The name of a file with an extension: what the given name has before the extension, and the
extension. -/
lemma configPath_eq (name ext : String) : ∃ stem,
    configPath name ext = inConfigDir (stem ++ ("." ++ ext)) ∧
      (stem = name ∨ name = stem ++ ("." ++ ext)) := by
  rw [configPath]
  cases h : Text.withoutEnd ("." ++ ext) name with
  | none => exact ⟨name, by simp [String.append_assoc], .inl rfl⟩
  | some stem =>
    refine ⟨stem, by simp [String.append_assoc], .inr ?_⟩
    exact Text.withoutEnd_eq_some_iff.1 h

/-- A plain name with an extension is plain. -/
lemma isPlain_configPath {name ext : String} (h : IsPlain name) (hext : IsPlain ("." ++ ext)) :
    ∃ base, configPath name ext = inConfigDir base ∧ IsPlain base := by
  obtain ⟨stem, hpath, hstem⟩ := configPath_eq name ext
  refine ⟨_, hpath, isPlain_append.2 ⟨?_, hext⟩⟩
  rcases hstem with rfl | rfl
  · exact h
  · exact (isPlain_append.1 h).1

end ProxyFleet.FileName
