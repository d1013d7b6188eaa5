import ProxyFleet.Proofs.Checks
import ProxyFleet.Proofs.FileNames
import ProxyFleet.Section.Acl
import ProxyFleet.Text.Blank

/-!
# Words on the line of a test

A line of the document is read word by word, and holds a limited number of words.  The values of a
test go into a file when there are too many of them for one line.  What decides is the number of
values, and the line has as many words as its texts have.

**Words and gaps.**  `Text.words` are the longest rows of characters that are not blank, and
`Text.gaps` the longest rows of blanks.  Both are counted by where they start (`Text.length_runs`).

**Texts put together.**  Blanks between texts keep their words apart
(`Section.length_words_statement`).  A text between two others without blanks has one word more than
it has gaps (`Text.length_words_between`), as in the path of the file with the values
(`Section.Acl.length_words_filePath`).

Main statement: `Section.Acl.words_fit_iff`.
-/

namespace ProxyFleet

namespace Text

/-- The longest rows of characters that are no separators. -/
def runs (isSeparator : Char → Bool) (s : List Char) : List (List Char) :=
  (s.splitOnP isSeparator).filter (fun run => !run.isEmpty)

/-- The words of a text: what stands between its blanks. -/
def words (s : String) : List String := (runs isBlank s.toList).map String.ofList

/-- The gaps of a text: the blanks that stand between its words, and at its ends. -/
def gaps (s : String) : List String := (runs (fun c => !isBlank c) s.toList).map String.ofList

/-- Whether a text is not broken by a blank. -/
def Unbroken (s : String) : Prop := ∀ c ∈ s.toList, isBlank c = false

instance (s : String) : Decidable (Unbroken s) := List.decidableBAll (isBlank · = false) s.toList

lemma unbroken_append {a b : String} : Unbroken (a ++ b) ↔ Unbroken a ∧ Unbroken b := by
  simp only [Unbroken, String.toList_append, List.forall_mem_append]

/-! ## Counting -/

/-- How many rows start in a text, after a separator or after another character. -/
def starts (isSeparator : Char → Bool) : Bool → List Char → Nat
  | _, [] => 0
  | after, c :: rest =>
    (if after && !isSeparator c then 1 else 0) + starts isSeparator (isSeparator c) rest

variable {isSeparator : Char → Bool}

/-- A row that stands at the beginning of a text starts there, unless it goes on from before. -/
lemma length_filter_splitOnP (s : List Char) :
    (runs isSeparator s).length = starts isSeparator true s ∧
      ((s.splitOnP isSeparator).tail.filter (fun run => !run.isEmpty)).length =
        starts isSeparator false s := by
  induction s with
  | nil => simp [runs, starts]
  | cons c rest ih =>
    rw [runs] at ih
    obtain ⟨first, others, hsplit⟩ :=
      List.exists_cons_of_ne_nil (List.splitOnP_ne_nil isSeparator rest)
    rw [runs, List.splitOnP_cons_eq_if_modifyHead, starts, starts]
    cases hc : isSeparator c with
    | true => simpa [hc] using ih.1
    | false =>
      rw [hsplit] at ih ⊢
      simp only [List.tail_cons] at ih
      simp [← ih.2, Nat.add_comm]

lemma length_runs (s : List Char) : (runs isSeparator s).length = starts isSeparator true s :=
  (length_filter_splitOnP s).1

/-- A row that goes on for a while starts no other one. -/
lemma starts_false_append {w : List Char} (h : ∀ c ∈ w, isSeparator c = false) (s : List Char) :
    starts isSeparator false (w ++ s) = starts isSeparator false s := by
  induction w with
  | nil => rfl
  | cons c w ih =>
    rw [List.cons_append, starts, h c List.mem_cons_self,
      ih fun d hd => h d (List.mem_cons_of_mem _ hd)]
    simp

/-- A row at the beginning of a text starts once. -/
lemma starts_true_append {w : List Char} (h : ∀ c ∈ w, isSeparator c = false) (hne : w ≠ [])
    (s : List Char) : starts isSeparator true (w ++ s) = starts isSeparator false s + 1 := by
  cases w with
  | nil => exact absurd rfl hne
  | cons c w =>
    rw [List.cons_append, starts, h c List.mem_cons_self,
      starts_false_append fun d hd => h d (List.mem_cons_of_mem _ hd)]
    simp [Nat.add_comm]

/-- **Rows and what is between them take turns.**  Before a row at the end of a text, as many rows
end as start. -/
lemma starts_append_row {w : List Char} (h : ∀ c ∈ w, isSeparator c = false) (hne : w ≠ [])
    (s : List Char) :
    starts isSeparator false (s ++ w) = starts (fun c => !isSeparator c) true s ∧
      starts isSeparator true (s ++ w) = starts (fun c => !isSeparator c) false s + 1 := by
  induction s with
  | nil =>
    have hfalse := starts_false_append h []
    have htrue := starts_true_append h hne []
    rw [List.append_nil] at hfalse htrue
    exact ⟨hfalse, htrue⟩
  | cons c rest ih =>
    rw [List.cons_append, starts, starts, starts, starts]
    cases hc : isSeparator c with
    | true => simp [ih.2, Nat.add_comm]
    | false => simp [ih.1, Nat.add_comm]

/-! ## Words of texts put together -/

lemma length_words (s : String) : (words s).length = starts isBlank true s.toList := by
  rw [words, List.length_map, length_runs]

/-- Blanks keep words apart. -/
lemma words_append_blank {c : Char} (hc : isBlank c = true) (a b : String) :
    words (a ++ String.singleton c ++ b) = words a ++ words b := by
  have hlist : (a ++ String.singleton c ++ b).toList = a.toList ++ c :: b.toList := by simp
  rw [words, runs, hlist, List.splitOnP_append_cons _ _ hc, List.filter_append, List.map_append]
  rfl

/-- A text without blanks is one word, or none. -/
lemma length_words_of_unbroken {s : String} (h : Unbroken s) :
    (words s).length = if s = "" then 0 else 1 := by
  rw [length_words]
  split
  · rename_i hempty
    rw [hempty]
    rfl
  · rename_i hne
    have hstarts := starts_true_append h (by simpa using hne) []
    rwa [List.append_nil] at hstarts

lemma length_words_le_of_unbroken {s : String} (h : Unbroken s) : (words s).length ≤ 1 := by
  rw [length_words_of_unbroken h]
  split <;> omega

lemma gaps_eq_nil_of_unbroken {s : String} (h : Unbroken s) : gaps s = [] := by
  have hstarts : ∀ l : List Char, (∀ c ∈ l, isBlank c = false) →
      starts (fun c => !isBlank c) true l = 0 := by
    intro l hl
    induction l with
    | nil => rfl
    | cons c rest ih =>
      rw [starts, hl c List.mem_cons_self]
      simpa using ih fun d hd => hl d (List.mem_cons_of_mem _ hd)
  rw [← List.length_eq_zero_iff, gaps, List.length_map, length_runs]
  exact hstarts s.toList h

/-- **A text between two others** that hold something and no blank: each gap ends a word and starts
another one. -/
lemma length_words_between {a b : String} (ha : Unbroken a) (ha' : a ≠ "") (hb : Unbroken b)
    (hb' : b ≠ "") (s : String) : (words (a ++ s ++ b)).length = (gaps s).length + 1 := by
  rw [length_words, String.toList_append, String.toList_append, List.append_assoc,
    starts_true_append ha (by simpa using ha'), (starts_append_row hb (by simpa using hb') _).1,
    gaps, List.length_map, length_runs]

end Text

namespace Section

open Text (words gaps Unbroken)

/-- The words of a statement are those of its texts. -/
lemma length_words_statement (texts : List String) :
    (words (statement texts)).length = (texts.map (fun s => (words s).length)).sum := by
  induction texts with
  | nil => rfl
  | cons s rest ih =>
    cases rest with
    | nil => simp [statement]
    | cons s' rest =>
      have hspace : " " = String.singleton ' ' := rfl
      rw [statement, String.intercalate_cons_of_ne_nil (by simp), hspace,
        Text.words_append_blank (by decide), List.length_append, ← hspace, ← statement, ih,
        List.map_cons (l := s' :: rest), List.sum_cons]

namespace Acl

variable {spec : Spec.Acl} {a : Acl}

/-- An accepted test is the declared one. -/
lemma eq_of_ofSpec (h : ofSpec spec = .ok a) : a = ⟨spec.name, spec.criterion, spec.values⟩ := by
  obtain ⟨name, hname, h⟩ := Check.bind_eq_ok_iff.1 h
  cases h
  rw [FileName.eq_of_fileName hname]

/-- The path of the file of values breaks where the name of the test does. -/
lemma length_words_filePath (a : Acl) : (words a.filePath).length = (gaps a.name).length + 1 := by
  have hdigits : Unbroken (Digest.md5Hex a.fileContent) := Digest.forall_mem_hex (by decide) _
  have hend : Unbroken ("-" ++ Digest.md5Hex a.fileContent ++ ".txt") := by
    rw [Text.unbroken_append, Text.unbroken_append]
    exact ⟨⟨by decide, hdigits⟩, by decide⟩
  have hpath : a.filePath =
      inConfigDir "acl-" ++ a.name ++ ("-" ++ Digest.md5Hex a.fileContent ++ ".txt") := by
    simp only [filePath, inConfigDir, String.append_assoc]
  rw [hpath]
  exact Text.length_words_between (by decide) (by decide) hend (by simp) a.name

/-- The words of the line of a test, by the texts that are declared for it. -/
lemma length_words_line (a : Acl) : (words a.statement).length =
    (words a.name).length + (words a.criterion).length +
      (if a.isExternalized then (gaps a.name).length + 2
        else (a.values.map (fun v => (words v).length)).sum) + 1 := by
  have hkeyword : (words "acl").length = 1 := by decide
  have hoption : (words "-f").length = 1 := by decide
  rw [statement, length_words_statement]
  split
  · simp [hkeyword, hoption, length_words_filePath]
    omega
  · simp [hkeyword]
    omega

/-- **When the line of a test fits.**  The line of an accepted test holds no more words than a line
may exactly if this holds of the words that its name, its criterion and its values have, or, if the
values are in a file, of the words and gaps of its name and the words of its criterion.  In
particular it fits if none of these texts is broken by a blank. -/
theorem words_fit_iff (h : ofSpec spec = .ok a) :
    ((words a.statement).length ≤ maxLineWords ↔
      (words spec.name).length + (words spec.criterion).length +
        (if maxLineWords - 3 < spec.values.length then (gaps spec.name).length + 2
          else (spec.values.map (fun v => (words v).length)).sum) < maxLineWords) ∧
    (Unbroken spec.name → Unbroken spec.criterion → (∀ v ∈ spec.values, Unbroken v) →
      (words a.statement).length ≤ maxLineWords) := by
  have hline := length_words_line a
  rw [eq_of_ofSpec h] at hline ⊢
  simp only [isExternalized, decide_eq_true_eq] at hline
  rw [hline]
  refine ⟨Nat.succ_le_iff, fun hname hcriterion hvalues => ?_⟩
  have hname' := Text.length_words_le_of_unbroken hname
  have hcriterion' := Text.length_words_le_of_unbroken hcriterion
  rw [Text.gaps_eq_nil_of_unbroken hname]
  split
  · simp only [List.length_nil, maxLineWords]
    omega
  · rename_i hfew
    have hsum : (spec.values.map (fun v => (words v).length)).sum ≤ spec.values.length * 1 := by
      have hone : ∀ n ∈ spec.values.map (fun v => (words v).length), n ≤ 1 := by
        intro n hn
        obtain ⟨v, hv, rfl⟩ := List.mem_map.1 hn
        exact Text.length_words_le_of_unbroken (hvalues v hv)
      simpa using List.sum_le_card_nsmul _ 1 hone
    simp only [maxLineWords] at hfew ⊢
    omega

/-- A test of the host against as many names as a line has room for. -/
def hostTest (criterion : String) : Spec.Acl :=
  ⟨"hosts", criterion, List.replicate 61 "shop.test"⟩

/-- The last test that has room for all of its values. -/
theorem words_fit_iff_full_line :
    ofSpec (hostTest "req.hdr(host)") =
        .ok ⟨"hosts", "req.hdr(host)", List.replicate 61 "shop.test"⟩ ∧
      Unbroken "hosts" ∧ Unbroken "req.hdr(host)" ∧
      (∀ v ∈ List.replicate 61 "shop.test", Unbroken v) ∧
      (words (statement ⟨"hosts", "req.hdr(host)", List.replicate 61 "shop.test"⟩)).length ≤
        maxLineWords := by
  have hspec : ofSpec (hostTest "req.hdr(host)") =
      .ok ⟨"hosts", "req.hdr(host)", List.replicate 61 "shop.test"⟩ := by decide
  have hname : Unbroken "hosts" := by decide
  have hcriterion : Unbroken "req.hdr(host)" := by decide
  have hvalues : ∀ v ∈ List.replicate 61 "shop.test", Unbroken v := by
    intro v hv
    rw [List.eq_of_mem_replicate hv]
    decide
  exact ⟨hspec, hname, hcriterion, hvalues, (words_fit_iff hspec).2 hname hcriterion hvalues⟩

/-- **A line that is too long.**  A flag behind the criterion is a word of its own, which nobody
counts: with as many values as there is room for, the line has one word more than it may hold. -/
theorem flag_exceeds_line :
    ofSpec (hostTest "req.hdr(host) -i") =
        .ok ⟨"hosts", "req.hdr(host) -i", List.replicate 61 "shop.test"⟩ ∧
      isExternalized ⟨"hosts", "req.hdr(host) -i", List.replicate 61 "shop.test"⟩ = false ∧
      (words (statement ⟨"hosts", "req.hdr(host) -i", List.replicate 61 "shop.test"⟩)).length =
        maxLineWords + 1 := by
  refine ⟨by decide, by decide, ?_⟩
  have hvalue : (words "shop.test").length = 1 := by decide
  have hname : (words "hosts").length = 1 := by decide
  have hcriterion : (words "req.hdr(host) -i").length = 2 := by decide
  have hfew : isExternalized ⟨"hosts", "req.hdr(host) -i", List.replicate 61 "shop.test"⟩ =
      false := by decide
  rw [length_words_line, hname, hcriterion, hfew, List.map_replicate, hvalue]
  decide

end Acl

end Section

end ProxyFleet
