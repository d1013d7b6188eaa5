import ProxyFleet.Controller
import ProxyFleet.Proofs.Places
import ProxyFleet.Proofs.Plain

/-!
# What a fingerprint tells apart

A fingerprint is taken over the paths and the contents of an artifact set, with a zero byte after
each of them.  No path has a zero byte of its own, but a content may have one, and then the bytes
do not say where the content ends.

**Bytes of texts.**  The front of a text can be cancelled from its bytes
(`Text.exists_of_utf8_eq_append`).  So where a zero byte follows two texts, they end at the same
place, or one of them at a zero character of the other (`Text.utf8_append_zero_cases`).

**Rows of entries.**  Two rows have the same bytes if they are the same, or if a content in one of
them takes in entries of the other (`ArtifactSet.Swallows`), and only then
(`ArtifactSet.rowBytes_eq_iff`).

**Entries.**  The entries determine the document and the side files (`ArtifactSet.entries_inj`).

Main statement: `ArtifactSet.fingerprint_eq_iff`.
-/

namespace ProxyFleet

namespace Text

/-! ## Bytes of texts -/

/-- The front of a text is cancelled from its bytes, and the rest is text again. -/
lemma exists_of_utf8_eq_append {s front : String} {bytes : List UInt8}
    (h : utf8 s = utf8 front ++ bytes) : ∃ rest, s = front ++ rest ∧ bytes = utf8 rest := by
  have hbytes : front.toList.utf8Encode ++ bytes.toByteArray = s.toList.utf8Encode := by
    rw [List.utf8Encode, List.utf8Encode, ← List.toByteArray_append]
    exact congrArg List.toByteArray h.symm
  obtain ⟨rest, hrest⟩ := List.isPrefix_of_utf8Encode_append_eq_utf8Encode _ hbytes
  have hs : s = front ++ String.ofList rest := by
    apply String.toList_inj.1
    rw [String.toList_append, String.toList_ofList, hrest]
  refine ⟨_, hs, ?_⟩
  rw [hs, utf8_append] at h
  exact (List.append_cancel_left h).symm

lemma utf8_inj {s t : String} : utf8 s = utf8 t ↔ s = t := by
  constructor
  · intro h
    obtain ⟨rest, hs, hrest⟩ := exists_of_utf8_eq_append (h.trans (List.append_nil _).symm)
    have hempty : rest = "" := by
      cases hl : rest.toList with
      | nil => exact String.toList_inj.1 hl
      | cons c cs =>
        rw [utf8, hl, List.flatMap_cons] at hrest
        exact absurd (List.append_eq_nil_iff.1 hrest.symm).1 String.utf8EncodeChar_ne_nil
    rw [hs, hempty, String.append_empty]
  · rintro rfl
    rfl

lemma utf8_append_zero (s t : String) : utf8 (s ++ "\x00" ++ t) = utf8 s ++ 0 :: utf8 t := by
  have hzero : utf8 "\x00" = [0] := by decide
  rw [utf8_append, utf8_append, hzero, List.append_assoc, List.singleton_append]

/-- Where two texts end that are followed by a zero byte: both at the same place, or one of them at
a zero character of the other. -/
lemma utf8_append_zero_cases {s t : String} {u v : List UInt8}
    (h : utf8 s ++ 0 :: u = utf8 t ++ 0 :: v) :
    (s = t ∧ u = v) ∨ (∃ more, s = t ++ "\x00" ++ more ∧ v = utf8 more ++ 0 :: u) ∨
      ∃ more, t = s ++ "\x00" ++ more ∧ u = utf8 more ++ 0 :: v := by
  -- one of two texts goes on after the other, by bytes that start with the zero byte or are none
  have hlonger : ∀ {s t : String} {u v between : List UInt8}, utf8 t = utf8 s ++ between →
      0 :: u = between ++ 0 :: v →
      (s = t ∧ u = v) ∨ ∃ more, t = s ++ "\x00" ++ more ∧ u = utf8 more ++ 0 :: v := by
    intro s t u v between ht hu
    cases between with
    | nil =>
      rw [List.append_nil, utf8_inj] at ht
      exact .inl ⟨ht.symm, List.tail_eq_of_cons_eq hu⟩
    | cons b between =>
      obtain ⟨rfl, htail⟩ := List.cons.inj hu
      have hzero : utf8 t = utf8 (s ++ "\x00") ++ between := by
        have hs := utf8_append_zero s ""
        rw [String.append_empty] at hs
        rw [hs, ht]
        simp [utf8]
      obtain ⟨more, hmore, hbetween⟩ := exists_of_utf8_eq_append hzero
      exact .inr ⟨more, hmore, hbetween ▸ htail⟩
  rcases List.append_eq_append_iff.1 h with ⟨between, ht, hu⟩ | ⟨between, hs, hv⟩
  · exact (hlonger ht hu).imp id .inr
  · rcases hlonger hs hv with ⟨hst, huv⟩ | hmore
    · exact .inl ⟨hst.symm, huv.symm⟩
    · exact .inr (.inl hmore)

end Text

namespace ArtifactSet

open Text (utf8)

/-! ## Rows of entries -/

/-- The bytes of a row of entries: each path and each content with a zero byte after it. -/
def rowBytes (row : List (String × String)) : List UInt8 :=
  row.flatMap (fun e => utf8 e.1 ++ [0] ++ utf8 e.2 ++ [0])

lemma rowBytes_cons (path text : String) (rest : List (String × String)) :
    rowBytes ((path, text) :: rest) = utf8 path ++ 0 :: (utf8 text ++ 0 :: rowBytes rest) := by
  simp [rowBytes]

lemma rowBytes_cons_ne_nil (e : String × String) (rest : List (String × String)) :
    rowBytes (e :: rest) ≠ [] := by
  simp [rowBytes]

/-- Whether a content in a row takes in entries of another one.  Up to it the rows are the same;
then it goes on after a zero character with bytes that belong to the next entries of the other
row. -/
inductive Swallows : List (String × String) → List (String × String) → Prop
  | content (path text more : String) {rest rest' : List (String × String)}
      (h : rowBytes rest' = utf8 more ++ [0] ++ rowBytes rest) :
      Swallows ((path, text ++ "\x00" ++ more) :: rest) ((path, text) :: rest')
  | later (e : String × String) {rest rest' : List (String × String)}
      (h : Swallows rest rest') : Swallows (e :: rest) (e :: rest')

variable {row other : List (String × String)}

lemma Swallows.rowBytes_eq (h : Swallows row other) : rowBytes row = rowBytes other := by
  induction h with
  | content path text more h =>
    rw [rowBytes_cons, rowBytes_cons, h, Text.utf8_append_zero]
    simp
  | later e h ih => rw [rowBytes_cons, rowBytes_cons, ih]

lemma Swallows.ne (h : Swallows row other) : row ≠ other := by
  induction h with
  | content path text more h =>
    intro heq
    have htext := congrArg (fun e => e.2.toList.length) (List.head_eq_of_cons_eq heq)
    simp at htext
  | later e h ih => exact fun heq => ih (List.tail_eq_of_cons_eq heq)

/-- Whether no path in a row has a zero character. -/
def PathsEnd (row : List (String × String)) : Prop := ∀ e ∈ row, '\x00' ∉ e.1.toList

instance (row : List (String × String)) : Decidable (PathsEnd row) :=
  inferInstanceAs (Decidable (∀ e ∈ row, '\x00' ∉ e.1.toList))

/-- What is taken in starts with a path. -/
lemma Swallows.exists_contains (h : Swallows row other) (hother : PathsEnd other) :
    ∃ e ∈ row, ∃ e' ∈ other, Text.contains e.2 ("\x00" ++ e'.1) = true := by
  induction h with
  | @content path text more rest rest' h =>
    cases rest' with
    | nil =>
      have hnil := congrArg List.length h
      simp [rowBytes] at hnil
    | cons e' rest' =>
      rw [rowBytes_cons, List.append_assoc, List.singleton_append] at h
      refine ⟨_, List.mem_cons_self, e', by simp, ?_⟩
      have hpath : '\x00' ∉ e'.1.toList := hother e' (by simp)
      have hmore : ∃ tail, more = e'.1 ++ tail := by
        rcases Text.utf8_append_zero_cases h with ⟨heq, -⟩ | ⟨tail, heq, -⟩ | ⟨tail, heq, -⟩
        · exact ⟨"", by rw [heq, String.append_empty]⟩
        · rw [heq] at hpath
          simp at hpath
        · exact ⟨"\x00" ++ tail, by rw [heq, String.append_assoc]⟩
      obtain ⟨tail, rfl⟩ := hmore
      rw [Text.contains, Text.occursIn_iff]
      exact ⟨text.toList, tail.toList, by simp⟩
  | later e h ih =>
    obtain ⟨d, hd, d', hd', hcontains⟩ := ih fun d hd => hother d (List.mem_cons_of_mem _ hd)
    exact ⟨d, List.mem_cons_of_mem _ hd, d', List.mem_cons_of_mem _ hd', hcontains⟩

/-- **What rows with the same bytes have in common**: they are the same, or a content in one of them
takes in entries of the other. -/
lemma rowBytes_eq_iff (hrow : PathsEnd row) (hother : PathsEnd other) :
    rowBytes row = rowBytes other ↔ row = other ∨ Swallows row other ∨ Swallows other row := by
  constructor
  · intro h
    induction row generalizing other with
    | nil =>
      cases other with
      | nil => exact .inl rfl
      | cons e rest' => exact absurd h.symm (rowBytes_cons_ne_nil e rest')
    | cons e rest ih =>
      cases other with
      | nil => exact absurd h (rowBytes_cons_ne_nil e rest)
      | cons e' rest' =>
        obtain ⟨path, text⟩ := e
        obtain ⟨path', text'⟩ := e'
        obtain ⟨hpath, hrest⟩ := List.forall_mem_cons.1 hrow
        obtain ⟨hpath', hrest'⟩ := List.forall_mem_cons.1 hother
        rw [rowBytes_cons, rowBytes_cons] at h
        -- a path ends at the first zero byte
        rcases Text.utf8_append_zero_cases h with ⟨rfl, htext⟩ | ⟨more, rfl, -⟩ | ⟨more, rfl, -⟩
        · rcases Text.utf8_append_zero_cases htext with
            ⟨rfl, hbytes⟩ | ⟨more, rfl, hbytes⟩ | ⟨more, rfl, hbytes⟩
          · rcases ih hrest hrest' hbytes with rfl | hlater | hlater
            · exact .inl rfl
            · exact .inr (.inl (.later _ hlater))
            · exact .inr (.inr (.later _ hlater))
          · exact .inr (.inl (.content path text' more (by simpa using hbytes)))
          · exact .inr (.inr (.content path text more (by simpa using hbytes)))
        · simp at hpath
        · simp at hpath'
  · rintro (rfl | h | h)
    · rfl
    · exact h.rowBytes_eq
    · exact h.rowBytes_eq.symm

/-! ## Entries -/

variable {a b : ArtifactSet}

lemma mem_entries {set : ArtifactSet} {e : String × String} :
    e ∈ set.entries ↔ e ∈ set.files.entries ∨ e = (configFile, set.document) := by
  rw [entries, List.mem_mergeSort, List.mem_append, List.mem_singleton]

/-- A side file that has the name of the document stays before it. -/
lemma filter_entries (set : ArtifactSet) :
    set.entries.filter (fun e => e.1 = configFile) =
      set.files.entries.filter (fun e => e.1 = configFile) ++ [(configFile, set.document)] := by
  let listed := set.files.entries ++ [(configFile, set.document)]
  let le (a b : String × String) : Bool := !decide (b.1 < a.1)
  have hle : ∀ a b, le a b = true ↔ a.1 ≤ b.1 := by
    intro a b
    simp only [le, Bool.not_eq_true', decide_eq_false_iff_not, String.not_lt]
  have hsorted : set.entries = listed.mergeSort le := rfl
  have hequal : (listed.filter (fun e => e.1 = configFile)).Pairwise
      (fun a b => le a b = true) := by
    refine List.pairwise_of_forall_mem_list fun a ha b hb => ?_
    have ha : a.1 = configFile := by simpa using (List.mem_filter.1 ha).2
    have hb : b.1 = configFile := by simpa using (List.mem_filter.1 hb).2
    rw [hle, ha, hb]
  have hsub : (listed.filter (fun e => e.1 = configFile)).Sublist (listed.mergeSort le) := by
    refine List.sublist_mergeSort (fun a b c h₁ h₂ => ?_) (fun a b => ?_) hequal
      List.filter_sublist
    · exact (hle a c).2 (String.le_trans ((hle a b).1 h₁) ((hle b c).1 h₂))
    · rw [Bool.or_eq_true, hle, hle]
      exact String.le_total a.1 b.1
  have hfilter : (listed.mergeSort le).filter (fun e => e.1 = configFile) =
      listed.filter (fun e => e.1 = configFile) := by
    refine (List.Sublist.eq_of_length ?_ ?_).symm
    · simpa only [List.filter_filter, Bool.and_self] using
        hsub.filter (fun e => e.1 = configFile)
    · exact ((List.mergeSort_perm listed le).filter _).length_eq.symm
  rw [hsorted, hfilter]
  simp [listed, List.filter_append]

/-- **The entries determine the document and the side files.** -/
lemma entries_inj : a.entries = b.entries ↔ a.document = b.document ∧ a.files = b.files := by
  constructor
  · intro h
    have hfilter := congrArg (List.filter (fun e => e.1 = configFile)) h
    rw [filter_entries, filter_entries] at hfilter
    obtain ⟨hsame, hdocument⟩ := List.append_inj' hfilter rfl
    have hdocument : a.document = b.document := by simpa using hdocument
    refine ⟨hdocument, KeyMap.ext_get? fun k => Option.ext fun v => ?_⟩
    rw [KeyMap.get?_eq_some_iff, KeyMap.get?_eq_some_iff]
    by_cases hk : k = configFile
    · have hmem := congrArg (fun l => (k, v) ∈ l) hsame
      simpa [hk] using hmem
    · have hmem := congrArg (fun l => (k, v) ∈ l) h
      simpa [mem_entries, hk] using hmem
  · rintro ⟨hdocument, hfiles⟩
    rw [entries, entries, hdocument, hfiles]

/-- Whether a content in one of two artifact sets takes in entries of the other. -/
def Confusable (a b : ArtifactSet) : Prop :=
  Swallows a.entries b.entries ∨ Swallows b.entries a.entries

lemma pathsEnd_entries (h : PathsEnd a.files.entries) : PathsEnd a.entries := by
  intro e he
  rcases mem_entries.1 he with he | rfl
  · exact h e he
  · have hname : '\x00' ∉ configFile.toList := by decide
    exact hname

lemma fingerprintBytes_eq_iff (ha : PathsEnd a.files.entries) (hb : PathsEnd b.files.entries) :
    a.fingerprintBytes = b.fingerprintBytes ↔
      (a.document = b.document ∧ a.files = b.files) ∨ Confusable a b := by
  rw [← entries_inj]
  exact rowBytes_eq_iff (pathsEnd_entries ha) (pathsEnd_entries hb)

end ArtifactSet

/-- Whether two messages are different and have the same SHA-256 digest. -/
def Digest.Collides (x y : List UInt8) : Prop := x ≠ y ∧ sha256 x = sha256 y

/-- A controller leaves an artifact set alone if it remembers its fingerprint, and only then. -/
lemma Controller.publish_eq_iff {c : Controller} {i : Interruption} {set : ArtifactSet}
    {s : ControllerState} :
    c.publish i set s = (s, .ok ()) ↔ s.written = some set.fingerprint := by
  rw [publish]
  constructor
  · intro h
    split at h
    · assumption
    · simp only at h
      split at h
      · exact congrArg (fun p => p.1.written) h.symm
      · cases (Prod.ext_iff.1 h).2
  · intro h
    rw [if_pos h]

namespace ArtifactSet

variable {a b : ArtifactSet}

/-- **What equal fingerprints leave open.**  Let no side file of two artifact sets have a zero
character in its path.  Their fingerprints are taken over the same bytes exactly if they have the
same document and the same side files, or are confusable; the fingerprints are equal exactly then,
or if the bytes collide.  In confusable artifact sets a content holds a zero character and then a
path of the other one.  A controller that has written one of the two leaves the other alone exactly
if the fingerprints are equal. -/
theorem fingerprint_eq_iff (ha : PathsEnd a.files.entries) (hb : PathsEnd b.files.entries) :
    (a.fingerprintBytes = b.fingerprintBytes ↔
        (a.document = b.document ∧ a.files = b.files) ∨ Confusable a b) ∧
      (a.fingerprint = b.fingerprint ↔
        (a.document = b.document ∧ a.files = b.files) ∨ Confusable a b ∨
          Digest.Collides a.fingerprintBytes b.fingerprintBytes) ∧
      (Confusable a b → ¬(a.document = b.document ∧ a.files = b.files) ∧
        ((∃ e ∈ a.entries, ∃ e' ∈ b.entries, Text.contains e.2 ("\x00" ++ e'.1) = true) ∨
          ∃ e ∈ b.entries, ∃ e' ∈ a.entries, Text.contains e.2 ("\x00" ++ e'.1) = true)) ∧
      ∀ (c : Controller) (i : Interruption) (s : ControllerState),
        s.written = some a.fingerprint →
          (c.publish i b s = (s, .ok ()) ↔ a.fingerprint = b.fingerprint) := by
  have hbytes := fingerprintBytes_eq_iff ha hb
  refine ⟨hbytes, ?_, ?_, ?_⟩
  · rw [fingerprint, fingerprint, Digest.hex_inj, ← or_assoc, ← hbytes, Digest.Collides]
    constructor
    · intro hdigest
      by_cases heq : a.fingerprintBytes = b.fingerprintBytes
      · exact .inl heq
      · exact .inr ⟨heq, hdigest⟩
    · rintro (heq | ⟨-, hdigest⟩)
      · rw [heq]
      · exact hdigest
  · rintro (hab | hba)
    · rw [← entries_inj]
      exact ⟨hab.ne, .inl (hab.exists_contains (pathsEnd_entries hb))⟩
    · rw [← entries_inj]
      exact ⟨hba.ne.symm, .inr (hba.exists_contains (pathsEnd_entries ha))⟩
  · intro c i s hwritten
    rw [Controller.publish_eq_iff, hwritten, Option.some.injEq]

/-- A character that moves from a content to its path changes the bytes. -/
theorem fingerprint_eq_iff_moved_character :
    let a : ArtifactSet := ⟨"global\n", .ofList [("/a", "1")]⟩
    let b : ArtifactSet := ⟨"global\n", .ofList [("/a1", "")]⟩
    PathsEnd a.files.entries ∧ PathsEnd b.files.entries ∧
      a.fingerprintBytes ≠ b.fingerprintBytes ∧ ¬Confusable a b ∧
      (a.fingerprint = b.fingerprint → Digest.Collides a.fingerprintBytes b.fingerprintBytes) := by
  intro a b
  have ha : PathsEnd a.files.entries := by decide
  have hb : PathsEnd b.files.entries := by decide
  have hentries : a.entries = [("/a", "1"), (configFile, "global\n")] := by cbv
  have hentries' : b.entries = [("/a1", ""), (configFile, "global\n")] := by cbv
  have hne : a.fingerprintBytes ≠ b.fingerprintBytes := by
    rw [fingerprintBytes, fingerprintBytes, hentries, hentries']
    decide
  obtain ⟨hbytes, hfingerprint, -⟩ := fingerprint_eq_iff ha hb
  have hdiffer := fun h => hne (hbytes.2 h)
  refine ⟨ha, hb, hne, fun h => hdiffer (.inr h), fun h => ?_⟩
  rcases hfingerprint.1 h with hsame | hconfusable | hcollides
  · exact absurd (.inl hsame) hdiffer
  · exact absurd (.inr hconfusable) hdiffer
  · exact hcollides

end ArtifactSet

/-! ## Passes -/

namespace Pass

open ArtifactSet (PathsEnd)

variable {store : Store} {cancel : Cancellation} {i : InstanceRecord} {records : Records}
  {set : ArtifactSet}

/-- **No side file of a pass has a zero character in its path.** -/
lemma pathsEnd_of_ok (h : (run store cancel i records).result = .ok set) :
    PathsEnd set.files.entries := by
  intro e he
  obtain ⟨hpath, hne⟩ := isEntryPath_of_get? h (KeyMap.get?_eq_some_iff.2 he)
  have hname : Directory.relative e.1 ≠ configFile := by
    intro heq
    rw [hpath.path_eq, if_pos heq] at hne
    exact hne rfl
  have hdirectory : '\x00' ∉ (configDir ++ "/").toList := by decide
  rw [hpath.path_eq, if_neg hname, inConfigDir, String.toList_append, List.mem_append]
  exact not_or.2 ⟨hdirectory, hpath.name.plain.2⟩

/-- An instance with a certificate whose content takes in another one. -/
def joinedCertificate : InstanceRecord :=
  .plain (some "edge") "fleet"
    (.withCertificate "web" ("one\x00" ++ inConfigDir "zone.crt" ++ "\x00two"))

/-- An instance with the two certificates that it is confused with. -/
def twoCertificates : InstanceRecord :=
  let spec := Spec.Instance.none
  .plain (some "edge") "fleet"
    { spec with configuration.global.additionalCertificates :=
        [⟨"web", some "one", []⟩, ⟨"zone", some "two", []⟩] }

/-- What a pass over the first one gives. -/
def joinedSet : ArtifactSet :=
  ⟨"global\n\ndefaults\n", .ofList
    [(inConfigDir "web.crt", "one\x00" ++ inConfigDir "zone.crt" ++ "\x00two")]⟩

/-- What a pass over the second one gives. -/
def twoSet : ArtifactSet :=
  ⟨"global\n\ndefaults\n", .ofList
    [(inConfigDir "web.crt", "one"), (inConfigDir "zone.crt", "two")]⟩

/-- Two passes with different side files and the same bytes: a controller that has written the
first artifact set leaves the second one alone. -/
theorem joined_certificate_confused :
    let store : Store := fun _ => .ok none
    ∃ joined two : ArtifactSet,
      (run store .never joinedCertificate ⟨[], [], [], []⟩).result = .ok joined ∧
      (run store .never twoCertificates ⟨[], [], [], []⟩).result = .ok two ∧
      PathsEnd joined.files.entries ∧ PathsEnd two.files.entries ∧
      joined.fingerprintBytes = two.fingerprintBytes ∧
      joined.files ≠ two.files ∧
      ∀ (c : Controller) (i : Interruption) (s : ControllerState),
        s.written = some joined.fingerprint → c.publish i two s = (s, .ok ()) := by
  intro store
  have hjoined : (run store .never joinedCertificate ⟨[], [], [], []⟩).result = .ok joinedSet := by
    cbv
  have htwo : (run store .never twoCertificates ⟨[], [], [], []⟩).result = .ok twoSet := by cbv
  have hentries : joinedSet.entries =
      [(inConfigDir "web.crt", "one\x00" ++ inConfigDir "zone.crt" ++ "\x00two"),
        (configFile, "global\n\ndefaults\n")] := by cbv
  have hentries' : twoSet.entries =
      [(inConfigDir "web.crt", "one"), (inConfigDir "zone.crt", "two"),
        (configFile, "global\n\ndefaults\n")] := by cbv
  have hbytes : joinedSet.fingerprintBytes = twoSet.fingerprintBytes := by
    rw [ArtifactSet.fingerprintBytes, ArtifactSet.fingerprintBytes, hentries, hentries']
    decide
  refine ⟨joinedSet, twoSet, hjoined, htwo, pathsEnd_of_ok hjoined, pathsEnd_of_ok htwo, hbytes,
    by decide, ?_⟩
  intro c i s hwritten
  rw [Controller.publish_eq_iff, hwritten, ArtifactSet.fingerprint, ArtifactSet.fingerprint, hbytes]

end Pass

end ProxyFleet
