import Mathlib
import ProxyFleet.Fragment
import ProxyFleet.Proofs.FileNames
import ProxyFleet.Text.Blank
import ProxyFleet.Text.Case

/-!
# Texts on one line

Where line feeds in a document come from.

**Words.**  A statement stands on one line if all of its words do (`oneLine_statement`).  Digits
have no line feed, and what is made of a text that is not a number has one where the text does
(`oneLine_configPath`, `oneLine_upper`, `oneLine_replaceFirst`).

**Pieces.**  A text that is split at a character is its pieces with the character between them, and
the pieces are any texts without it (`Text.intercalate_splitOn`, `Text.splitOn_intercalate`).  It
may be cut where the character stands first (`Text.cut_eq_iff`).

**Documents.**  The text of a document is made of the lines of its sections with blank lines between
them, and these are its lines exactly if all of them stand on one line
(`Fragment.lines_render_iff`).
-/

namespace ProxyFleet

/-- Whether a text stands on one line. -/
def OneLine (s : String) : Prop := '\n' ∉ s.toList

instance (s : String) : Decidable (OneLine s) := inferInstanceAs (Decidable ('\n' ∉ s.toList))

/-- Whether all texts of a list stand on one line each. -/
def OneLines (l : List String) : Prop := ∀ s ∈ l, OneLine s

instance (l : List String) : Decidable (OneLines l) :=
  inferInstanceAs (Decidable (∀ s ∈ l, OneLine s))

/-! ## Texts -/

/-- A fixed text shows by itself that it stands on one line. -/
lemma oneLine_fixed {s : String} (h : decide (OneLine s) = true) : OneLine s := of_decide_eq_true h

@[simp] lemma oneLine_empty : OneLine "" := by decide

@[simp] lemma oneLine_append {a b : String} : OneLine (a ++ b) ↔ OneLine a ∧ OneLine b := by
  simp [OneLine]

@[simp] lemma oneLines_nil : OneLines [] := List.forall_mem_nil _

@[simp] lemma oneLines_cons {s : String} {l : List String} :
    OneLines (s :: l) ↔ OneLine s ∧ OneLines l := List.forall_mem_cons

@[simp] lemma oneLines_append {l r : List String} :
    OneLines (l ++ r) ↔ OneLines l ∧ OneLines r := List.forall_mem_append

@[simp] lemma oneLines_map {α : Type} {l : List α} {f : α → String} :
    OneLines (l.map f) ↔ ∀ a ∈ l, OneLine (f a) := List.forall_mem_map

@[simp] lemma oneLines_flatMap {α : Type} {l : List α} {f : α → List String} :
    OneLines (l.flatMap f) ↔ ∀ a ∈ l, OneLines (f a) := by
  simp only [OneLines, List.mem_flatMap]
  constructor
  · exact fun h a ha s hs => h s ⟨a, ha, hs⟩
  · rintro h s ⟨a, ha, hs⟩
    exact h a ha s hs

lemma oneLines_toList {o : Option String} :
    OneLines o.toList ↔ ∀ s, o = some s → OneLine s := by
  simp [OneLines]

@[simp] lemma oneLines_toList_map {α : Type} {o : Option α} {f : α → String} :
    OneLines (o.map f).toList ↔ ∀ a ∈ o, OneLine (f a) := by
  cases o <;> simp

@[simp] lemma oneLines_toList_bind {α : Type} {o : Option α} {f : α → Option String} :
    OneLines (o.bind f).toList ↔ ∀ a ∈ o, OneLines (f a).toList := by
  cases o <;> simp

/-- Texts that are joined on one line stand on one line each. -/
@[simp] lemma oneLine_intercalate {sep : String} (hsep : OneLine sep) {l : List String} :
    OneLine (String.intercalate sep l) ↔ OneLines l := by
  induction l with
  | nil => simp
  | cons s rest ih =>
    cases rest with
    | nil => simp
    | cons t rest =>
      rw [String.intercalate_cons_cons, oneLine_append, oneLine_append, ih, oneLines_cons]
      simp [hsep]

/-! ## Numbers and digests -/

lemma oneLine_natToString (n : Nat) : OneLine (toString n) := by
  rw [OneLine, Nat.toString_eq_ofList_toDigits, String.toList_ofList]
  intro h
  have hdigit := Nat.isDigit_of_mem_toDigits (by decide) (by decide) h
  exact absurd hdigit (by decide)

@[simp] lemma oneLine_repr (n : Nat) : OneLine n.repr := oneLine_natToString n

lemma oneLine_intToString (n : Int) : OneLine (toString n) := by
  cases n with
  | ofNat n => exact oneLine_natToString n
  | negSucc n =>
    have hneg : toString (Int.negSucc n) = "-" ++ toString (n + 1) := rfl
    rw [hneg, oneLine_append]
    exact ⟨by decide, oneLine_natToString _⟩

@[simp] lemma oneLine_hex (bytes : List UInt8) : OneLine (Digest.hex bytes) :=
  fun h => Digest.forall_mem_hex (p := (· ≠ '\n')) (by decide) bytes _ h rfl

/-! ## Paths -/

@[simp] lemma oneLine_inConfigDir {name : String} :
    OneLine (inConfigDir name) ↔ OneLine name := by
  simp (disch := decide) [inConfigDir, oneLine_fixed]

lemma oneLine_configPath {name ext : String} (hext : OneLine ("." ++ ext)) :
    OneLine (configPath name ext) ↔ OneLine name := by
  obtain ⟨stem, hpath, hstem⟩ := FileName.configPath_eq name ext
  rcases hstem with rfl | rfl
  · rw [hpath, oneLine_inConfigDir, oneLine_append]
    exact and_iff_left hext
  · rw [hpath, oneLine_inConfigDir]

/-! ## Images of texts -/

namespace Text

lemma eq_of_ofNat_eq_lineFeed {n : Nat} (h : Char.ofNat n = '\n') : n = 10 := by
  have hnat := congrArg Char.toNat h
  rw [Char.toNat_ofNat] at hnat
  split at hnat
  · exact hnat
  · exact absurd hnat (by decide)

/-- No other character has a line feed in its upper-case form. -/
lemma mem_upperChar {c : Char} : '\n' ∈ upperChar c ↔ c = '\n' := by
  have hbasic : ∀ n < 128, '\n' = (Char.ofNat n).toUpper → n = 10 := by decide
  have hmany : ∀ e ∈ upperMany, 10 ∉ e.2 := by decide +kernel
  have hruns : ∀ r ∈ upperRuns, 10 < r.image := by decide +kernel
  constructor
  · intro h
    rw [upperChar] at h
    split at h
    · rename_i hlt
      rw [List.mem_singleton, ← Char.ofNat_toNat c] at h
      rw [← Char.ofNat_toNat c, hbasic _ hlt h]
    · split at h
      · rename_i image hlookup
        obtain ⟨n, hn, heq⟩ := List.mem_map.1 h
        obtain ⟨front, back, hmem, -⟩ := List.lookup_eq_some_iff.1 hlookup
        rw [eq_of_ofNat_eq_lineFeed heq] at hn
        exact absurd hn (hmany (c.toNat, image) (by rw [hmem]; simp))
      · rw [List.mem_singleton] at h
        cases hfind : CaseRun.find? upperRuns c.toNat with
        | none =>
          rw [hfind] at h
          exact h.symm
        | some n =>
          rw [hfind] at h
          obtain ⟨r, hr, hn⟩ := Option.map_eq_some_iff.1 hfind
          have himage := hruns r (List.mem_of_find?_eq_some hr)
          have hten : n = 10 := eq_of_ofNat_eq_lineFeed h.symm
          omega
  · rintro rfl
    decide

@[simp] lemma oneLine_upper {s : String} : OneLine (upper s) ↔ OneLine s := by
  simp [OneLine, upper, mem_upperChar]

/-- What replaces a pattern is written if the pattern occurs. -/
lemma mem_replaceFirstChars {c : Char} {pattern image s : List Char} (hc : c ∉ pattern) :
    c ∈ replaceFirstChars pattern image s ↔
      c ∈ s ∨ occursIn pattern s = true ∧ c ∈ image := by
  induction s with
  | nil =>
    rw [replaceFirstChars, occursIn]
    cases pattern <;> simp
  | cons d rest ih =>
    rw [replaceFirstChars]
    split
    · rename_i after hafter
      have hsplit := afterStart_eq_some_iff.1 hafter
      have hoccurs : occursIn pattern (d :: rest) = true :=
        occursIn_iff.2 ⟨[], after, by simp [hsplit]⟩
      rw [hoccurs, hsplit]
      simp [hc, or_comm]
    · rename_i hnone
      have hoccurs : occursIn pattern (d :: rest) = occursIn pattern rest := by
        have hstart : pattern.isPrefixOf (d :: rest) = false := by
          by_contra hprefix
          rw [Bool.not_eq_false, List.isPrefixOf_iff_prefix] at hprefix
          obtain ⟨after, hafter⟩ := hprefix
          rw [afterStart_eq_some_iff.2 hafter.symm] at hnone
          cases hnone
        rw [occursIn, hstart, Bool.false_or]
      rw [List.mem_cons, List.mem_cons, ih, hoccurs, or_assoc]

lemma oneLine_replaceFirst {s pattern image : String} (h : OneLine pattern) :
    OneLine (replaceFirst s pattern image) ↔
      OneLine s ∧ (contains s pattern = true → OneLine image) := by
  rw [OneLine, replaceFirst, String.toList_ofList, mem_replaceFirstChars h, not_or, not_and]
  rfl

end Text

namespace Section

@[simp] lemma oneLine_statement {words : List String} :
    OneLine (statement words) ↔ OneLines words := oneLine_intercalate (by decide)

@[simp] lemma oneLines_clause {keyword : String} {value : Option String} :
    OneLines (clause keyword value) ↔ (value.isSome → OneLine keyword) ∧ OneLines value.toList := by
  cases value <;> simp [clause]

@[simp] lemma oneLine_digits (n : Int64) : OneLine (digits n) := oneLine_intToString n.toInt

@[simp] lemma oneLines_flag {word : String} {on : Bool} :
    OneLines (flag word on) ↔ (on = true → OneLine word) := by
  cases on <;> simp [flag]

@[simp] lemma oneLines_nonEmpty {s : String} : OneLines (nonEmpty s).toList ↔ OneLine s := by
  rw [nonEmpty]
  split
  · rename_i hempty
    rw [String.isEmpty_iff.1 hempty]
    simp
  · simp

end Section

/-! ## Pieces -/

/-- The lines that a text has. -/
def Text.lines (s : String) : List String := (s.toList.splitOn '\n').map String.ofList

lemma Text.not_mem_of_mem_splitOn {c : Char} {s piece : List Char} (h : piece ∈ s.splitOn c) :
    c ∉ piece := by
  induction s generalizing piece with
  | nil =>
    rw [List.splitOn_nil, List.mem_singleton] at h
    rw [h]
    exact List.not_mem_nil
  | cons d rest ih =>
    rw [List.splitOn_cons_eq_if_modifyHead] at h
    split at h
    · rcases List.mem_cons.1 h with rfl | h
      · exact List.not_mem_nil
      · exact ih h
    · rename_i hne
      obtain ⟨first, others, hsplit⟩ := List.exists_cons_of_ne_nil (List.splitOn_ne_nil c rest)
      rw [hsplit] at h ih
      rcases List.mem_cons.1 h with rfl | h
      · rw [List.mem_cons, not_or]
        exact ⟨fun heq => hne (by simp [heq]), ih List.mem_cons_self⟩
      · exact ih (List.mem_cons_of_mem _ h)

lemma Text.oneLines_lines (s : String) : OneLines (lines s) := by
  intro l hl
  obtain ⟨cs, hcs, rfl⟩ := List.mem_map.1 hl
  rw [OneLine, String.toList_ofList]
  exact not_mem_of_mem_splitOn hcs

/-- Lines that are trimmed have no line feed left. -/
lemma Text.oneLines_trimmedLines (s : String) : OneLines (trimmedLines s) := by
  intro l hl
  obtain ⟨cs, hcs, rfl⟩ := List.mem_map.1 hl
  obtain ⟨line, hline, rfl⟩ := List.mem_map.1 (List.mem_filter.1 hcs).1
  rw [OneLine, String.toList_ofList]
  exact fun h => not_mem_of_mem_splitOn hline (mem_of_mem_trimChars h)

/-- A text that is split at a character is its pieces with the character between them. -/
lemma Text.intercalate_splitOn (c : Char) (s : String) :
    String.intercalate (String.singleton c) ((s.toList.splitOn c).map String.ofList) = s := by
  have hid : String.toList ∘ String.ofList = id := funext fun cs => String.toList_ofList
  apply String.toList_inj.1
  rw [String.toList_intercalate, String.toList_singleton, List.map_map, hid, List.map_id,
    List.intercalate_splitOn]

/-- Texts without a character are the pieces of what they are put together to with it. -/
lemma Text.splitOn_intercalate {c : Char} {l : List String} (hne : l ≠ [])
    (h : ∀ s ∈ l, c ∉ s.toList) :
    ((String.intercalate (String.singleton c) l).toList.splitOn c).map String.ofList = l := by
  rw [String.toList_intercalate, String.toList_singleton,
    List.splitOn_intercalate c ?_ (by simpa using hne)]
  · simp
  · intro cs hcs
    obtain ⟨s, hs, rfl⟩ := List.mem_map.1 hcs
    exact h s hs

/-- A text before a character, and after it if it has one. -/
def Text.cut (c : Char) (s : String) : String × Option String :=
  (String.ofList (s.toList.takeWhile (· != c)),
    match s.toList.dropWhile (· != c) with
    | [] => none
    | _ :: after => some (String.ofList after))

/-- A text is cut where the character stands first. -/
lemma Text.cut_eq_iff {c : Char} {s before : String} {after : Option String} :
    cut c s = (before, after) ↔ c ∉ before.toList ∧
      s = after.elim before (fun rest => before ++ String.singleton c ++ rest) := by
  constructor
  · intro h
    obtain ⟨rfl, rfl⟩ := Prod.mk.inj h
    have hparts : s.toList.takeWhile (· != c) ++ s.toList.dropWhile (· != c) = s.toList :=
      List.takeWhile_append_dropWhile
    refine ⟨fun hmem => ?_, String.toList_inj.1 ?_⟩
    · rw [String.toList_ofList] at hmem
      simpa using List.mem_takeWhile_imp hmem
    · cases hdrop : s.toList.dropWhile (· != c) with
      | nil =>
        rw [hdrop, List.append_nil] at hparts
        simp [hparts]
      | cons d rest =>
        have hhead : (d != c) = false := by
          have hnot := List.head?_dropWhile_not (p := (· != c)) s.toList
          simpa [hdrop] using hnot
        obtain rfl : d = c := by simpa using hhead
        rw [hdrop] at hparts
        simp [hparts]
  · rintro ⟨hbefore, rfl⟩
    have hall : ∀ d ∈ before.toList, (d != c) = true := by
      intro d hd
      rw [bne_iff_ne]
      rintro rfl
      exact hbefore hd
    cases after with
    | none => simp [cut, List.takeWhile_eq_self_iff.2 hall, List.dropWhile_eq_nil_iff.2 hall]
    | some rest =>
      simp [cut, List.takeWhile_append_of_pos hall, List.dropWhile_append_of_pos hall]

/-- The lines of a text, joined by line feeds, are the text. -/
lemma Text.intercalate_lines (s : String) : String.intercalate "\n" (lines s) = s :=
  intercalate_splitOn '\n' s

/-- Texts that are joined by line feeds are the lines of the whole exactly if each of them stands on
one line. -/
lemma Text.lines_intercalate_iff {l : List String} (hne : l ≠ []) :
    lines (String.intercalate "\n" l) = l ↔ OneLines l := by
  constructor
  · intro h
    rw [← h]
    exact oneLines_lines _
  · exact splitOn_intercalate hne

/-! ## Documents -/

namespace Fragment

/-- Whether the header and all statements of a section stand on one line each. -/
def Clean (f : Fragment) : Prop := OneLine f.header ∧ OneLines f.statements

/-- The lines of a document that each stand on one line: those of its sections, with a blank line
between one section and the next. -/
def documentLines (fragments : List Fragment) : List String :=
  [""].intercalate (fragments.map lines)

lemma documentLines_cons_cons (f g : Fragment) (rest : List Fragment) :
    documentLines (f :: g :: rest) = f.lines ++ "" :: documentLines (g :: rest) := by
  simp [documentLines, List.intercalate_cons_cons]

/-- A blank line stands after the first section of a document, if there is another one. -/
lemma render_cons_cons (f g : Fragment) (rest : List Fragment) :
    render (f :: g :: rest) = f.text ++ "\n" ++ "\n" ++ render (g :: rest) := by
  rw [render, List.map_cons, String.intercalate_cons_of_ne_nil (by simp)]
  rfl

/-- The text of a document is its lines with line feeds between them, and one at the end. -/
lemma render_eq {fragments : List Fragment} (hne : fragments ≠ []) :
    render fragments = String.intercalate "\n" (documentLines fragments ++ [""]) := by
  induction fragments with
  | nil => exact absurd rfl hne
  | cons f rest ih =>
    cases rest with
    | nil =>
      have hlines : f.lines ≠ [] := by simp [lines]
      simp [render, documentLines, text, String.intercalate_append_of_ne_nil hlines]
    | cons g rest =>
      have hlines : f.lines ≠ [] := by simp [lines]
      rw [render_cons_cons, ih (by simp), documentLines_cons_cons, List.append_assoc,
        List.cons_append, String.intercalate_append_of_ne_nil hlines (by simp),
        String.intercalate_cons_of_ne_nil (by simp), String.empty_append, text]
      simp only [String.append_assoc]

lemma oneLines_lines {f : Fragment} : OneLines f.lines ↔ f.Clean := by
  simp (disch := decide) [lines, Clean, OneLines, oneLine_fixed]

lemma oneLines_documentLines {fragments : List Fragment} :
    OneLines (documentLines fragments) ↔ ∀ f ∈ fragments, f.Clean := by
  induction fragments with
  | nil => simp [documentLines]
  | cons f rest ih =>
    cases rest with
    | nil => simp [documentLines, oneLines_lines]
    | cons g rest =>
      rw [documentLines_cons_cons, oneLines_append, oneLines_cons, ih, oneLines_lines,
        List.forall_mem_cons]
      simp

/-- **A document has the lines of its sections** exactly if each of them stands on one line. -/
lemma lines_render_iff {fragments : List Fragment} (hne : fragments ≠ []) :
    Text.lines (render fragments) = documentLines fragments ++ [""] ↔
      ∀ f ∈ fragments, f.Clean := by
  rw [render_eq hne, Text.lines_intercalate_iff (by simp), oneLines_append, oneLines_documentLines]
  simp

end Fragment

end ProxyFleet
