import ProxyFleet.Proofs.ByteOrder
import ProxyFleet.Proofs.DeclaredFiles
import ProxyFleet.Proofs.SectionOrder

/-!
# Files of host patterns

A mapping of a frontend becomes a file with one line for each backend that its selector selects.

**Anchors.**  `SideFile.Bare` says what a pattern is without its anchors.  Every pattern has exactly
one bare form, which is the one that is written (`SideFile.bare_iff`).

**Lines.**  If all backends have a pattern, each of them gives its line
(`SideFile.regexLines_eq_ok`), and otherwise the first one without a pattern is found
(`SideFile.regexLines_eq_error`).

**Files.**  The lines of a file stand in descending order of their bytes, and the file is the same
whatever their order was (`SideFile.patternContent_perm`).  `SideFile.Mapped` is what becomes of a
mapping.

**Backends.**  The backends of a pass are those of its records, one for each and in ascending order
(`Entry.hosts_of_ofRecords`).

Main statement: `SideFile.mapping_writes_patterns`.
-/

namespace ProxyFleet

namespace SideFile

open Section (RegexMapping)

/-! ## Anchors -/

/-- **A pattern without its anchors**: without one `^` at its start and one `$` at its end, if they
are there. -/
def Bare (regex bare : String) : Prop :=
  ∃ front back, regex = front ++ bare ++ back ∧
    (front = "^" ∨ front = "" ∧ regex.toList.head? ≠ some '^') ∧
    (back = "$" ∨ back = "" ∧ regex.toList.getLast? ≠ some '$')

/-- A text that does not end with `$` has no such end to lose. -/
lemma withoutEnd_dollar {s : String} (h : s.toList.getLast? ≠ some '$') :
    Text.withoutEnd "$" s = none := by
  rw [Option.eq_none_iff_forall_ne_some]
  intro rest hrest
  rw [Text.withoutEnd_eq_some_iff] at hrest
  exact h (by simp [hrest])

/-- A text that does not start with `^` has no such start to lose. -/
lemma withoutStart_caret {s : String} (h : s.toList.head? ≠ some '^') :
    Text.withoutStart "^" s = none := by
  rw [Option.eq_none_iff_forall_ne_some]
  intro rest hrest
  rw [Text.withoutStart_eq_some_iff] at hrest
  exact h (by simp [hrest])

/-- The bare form of a pattern is what is written. -/
lemma Bare.bareRegex_eq {regex bare : String} (h : Bare regex bare) : bareRegex regex = bare := by
  obtain ⟨front, back, hregex, hfront, hback⟩ := h
  have hend : (Text.withoutEnd "$" regex).getD regex = front ++ bare := by
    rcases hback with rfl | ⟨rfl, hback⟩
    · rw [Text.withoutEnd_eq_some_iff.2 hregex, Option.getD_some]
    · rw [withoutEnd_dollar hback, Option.getD_none, hregex, String.append_empty]
  rw [bareRegex, hend]
  rcases hfront with rfl | ⟨rfl, hfront⟩
  · rw [Text.withoutStart_eq_some_iff.2 rfl, Option.getD_some]
  · rw [String.empty_append] at hregex ⊢
    have hbare : bare.toList.head? ≠ some '^' := by
      intro hbare
      rw [hregex, String.toList_append, List.head?_append, hbare] at hfront
      exact hfront rfl
    rw [withoutStart_caret hbare, Option.getD_none]

/-- Every pattern has a bare form. -/
lemma exists_bare (regex : String) : ∃ bare, Bare regex bare := by
  obtain ⟨rest, back, hregex, hback⟩ : ∃ rest back, regex = rest ++ back ∧
      (back = "$" ∨ back = "" ∧ regex.toList.getLast? ≠ some '$') := by
    by_cases h : regex.toList.getLast? = some '$'
    · obtain ⟨front, hfront⟩ := List.getLast?_eq_some_iff.1 h
      exact ⟨String.ofList front, "$", String.toList_inj.1 (by simp [hfront]), .inl rfl⟩
    · exact ⟨regex, "", (String.append_empty).symm, .inr ⟨rfl, h⟩⟩
  by_cases h : rest.toList.head? = some '^'
  · obtain ⟨bare, hbare⟩ := List.head?_eq_some_iff.1 h
    have hrest : rest = "^" ++ String.ofList bare := String.toList_inj.1 (by simp [hbare])
    exact ⟨String.ofList bare, "^", back, by rw [hregex, hrest], .inl rfl, hback⟩
  · refine ⟨rest, "", back, by rw [hregex, String.empty_append], .inr ⟨rfl, ?_⟩, hback⟩
    -- a start of the whole pattern is one of the rest, since the end is no `^`
    rw [hregex, String.toList_append, List.head?_append]
    cases hrest : rest.toList.head? with
    | some c => rwa [hrest] at h
    | none => rcases hback with rfl | ⟨rfl, -⟩ <;> simp

/-- **Every pattern has exactly one bare form**, the one that is written. -/
lemma bare_iff {regex bare : String} : Bare regex bare ↔ bareRegex regex = bare := by
  refine ⟨Bare.bareRegex_eq, ?_⟩
  rintro rfl
  obtain ⟨bare, h⟩ := exists_bare regex
  rwa [h.bareRegex_eq]

/-- A pattern without anchors is the bare form of all its spellings. -/
lemma bare_of_spelling {bare front back : String} (hstart : bare.toList.head? ≠ some '^')
    (hend : bare.toList.getLast? ≠ some '$') (hfront : front = "" ∨ front = "^")
    (hback : back = "" ∨ back = "$") : Bare (front ++ bare ++ back) bare := by
  refine ⟨front, back, rfl, hfront.symm.imp_right ?_, hback.symm.imp_right ?_⟩
  · rintro rfl
    refine ⟨rfl, ?_⟩
    rw [String.empty_append, String.toList_append, List.head?_append]
    cases h : bare.toList.head? with
    | some c => rwa [h] at hstart
    | none => rcases hback with rfl | rfl <;> simp
  · rintro rfl
    refine ⟨rfl, ?_⟩
    rw [String.append_empty, String.toList_append, List.getLast?_append]
    cases h : bare.toList.getLast? with
    | some c => rwa [h] at hend
    | none => rcases hfront with rfl | rfl <;> simp

/-! ## Lines -/

/-- What a backend gives to a file of patterns: its host pattern, if there is one, and its name. -/
structure Host where
  ref : RecordRef
  regex : Option String
  name : String

/-- What a checked backend gives to a file of patterns. -/
def host (e : Entry Section.Backend) : Host := ⟨e.ref, e.content.hostRegex, e.content.name⟩

/-- The backends that a mapping selects from a list. -/
def hosts (m : RegexMapping) (backends : List (Entry Section.Backend)) : List Host :=
  (backends.filter (fun e => m.selector.selects e.labels)).map host

/-- **The line of a backend**: its bare pattern between anchors, and its name. -/
def Host.IsLine (h : Host) (line : String) : Prop :=
  ∃ regex bare, h.regex = some regex ∧ Bare regex bare ∧ line = "^" ++ bare ++ "$ " ++ h.name

/-- The line that is written for a backend with a pattern. -/
def Host.line (h : Host) : String := regexLine (h.regex.getD "") h.name

lemma Host.isLine_line {h : Host} (hr : h.regex ≠ none) : h.IsLine h.line := by
  obtain ⟨regex, hregex⟩ := Option.ne_none_iff_exists'.1 hr
  exact ⟨regex, bareRegex regex, hregex, bare_iff.2 rfl, by rw [line, hregex]; rfl⟩

/-- A backend has one line at most. -/
lemma Host.IsLine.eq_line {h : Host} {line : String} (hl : h.IsLine line) : line = h.line := by
  obtain ⟨regex, bare, hregex, hbare, rfl⟩ := hl
  rw [Host.line, hregex, ← hbare.bareRegex_eq]
  rfl

/-- Backends that all have a pattern give each their line. -/
lemma regexLines_eq_ok {l : List (Entry Section.Backend)}
    (h : ∀ b ∈ l.map host, b.regex ≠ none) :
    regexLines l = .ok ((l.map host).map Host.line) := by
  induction l with
  | nil => rfl
  | cons e rest ih =>
    obtain ⟨hregex, hrest⟩ := List.forall_mem_cons.1 h
    obtain ⟨regex, hregex⟩ := Option.ne_none_iff_exists'.1 hregex
    have hpattern : e.content.hostRegex = some regex := hregex
    have ih := ih hrest
    rw [regexLines] at ih ⊢
    rw [List.mapM_cons, ih, hpattern, List.map_cons, List.map_cons, Host.line, hregex]
    rfl

/-- The first backend without a pattern is found. -/
lemma regexLines_eq_error {l : List (Entry Section.Backend)} {before after : List Host} {b : Host}
    (heq : l.map host = before ++ b :: after) (h : ∀ b ∈ before, b.regex ≠ none)
    (hb : b.regex = none) : regexLines l = .error b.ref := by
  obtain ⟨first, second, rfl, rfl, hsecond⟩ := List.map_eq_append_iff.1 heq
  obtain ⟨e, rest, rfl, rfl, rfl⟩ := List.map_eq_cons_iff.1 hsecond
  have hfirst := regexLines_eq_ok h
  have hpattern : e.content.hostRegex = none := hb
  rw [regexLines] at hfirst ⊢
  rw [List.mapM_append, hfirst, List.mapM_cons, hpattern]
  rfl

/-! ## Files -/

/-- The lines of a file stand in descending order. -/
lemma pairwise_descending (lines : List String) :
    (lines.mergeSort (fun a b => !decide (a < b))).Pairwise (fun a b => b ≤ a) :=
  Text.pairwise_mergeSort_of_iff Text.not_before_iff (fun _ _ _ hab hbc => String.le_trans hbc hab)
    (fun a b => String.le_total b a) lines

/-- A file does not tell in which order its lines were found. -/
lemma patternContent_perm {given other : List String} (h : given.Perm other) :
    patternContent given = patternContent other := by
  have hsorted : given.mergeSort (fun a b => !decide (a < b)) =
      other.mergeSort (fun a b => !decide (a < b)) :=
    List.Perm.eq_of_pairwise (fun a b _ _ hba hab => String.le_antisymm hab hba)
      (pairwise_descending given) (pairwise_descending other)
      ((List.mergeSort_perm given _).trans (h.trans (List.mergeSort_perm other _).symm))
  rw [patternContent, patternContent, hsorted]

/-- **The text of a file of patterns**: the line of each backend, in descending order of bytes. -/
def Patterns (hosts : List Host) (text : String) : Prop :=
  ∃ given lines : List String, List.Forall₂ Host.IsLine hosts given ∧ lines.Perm given ∧
    lines.Pairwise (fun a b => Text.utf8 b ≤ Text.utf8 a) ∧ text = String.intercalate "\n" lines

lemma patterns_patternContent {row : List Host} (h : ∀ b ∈ row, b.regex ≠ none) :
    Patterns row (patternContent (row.map Host.line)) := by
  refine ⟨row.map Host.line, _, ?_, List.mergeSort_perm _ _,
    (pairwise_descending _).imp Text.utf8_le_iff.2, rfl⟩
  rw [List.forall₂_map_right_iff, List.forall₂_same]
  exact fun b hb => Host.isLine_line (h b hb)

/-- **What becomes of a mapping**, given the backends that it selects: a file with their patterns if
all of them have one, and otherwise the end of the pass, for the first backend without a pattern. -/
structure Mapped (owner : RecordRef) (m : RegexMapping) (hosts : List Host) (t : Task) :
    Prop where
  succeeds_iff : ∀ (store : Store) (cancel : Cancellation) (p : Progress) (c : Course),
    (∃ q d, Reading.exec (Reading.task store cancel p t) c = (.ok q, d)) ↔
      ∀ h ∈ hosts, h.regex ≠ none
  file : (∀ h ∈ hosts, h.regex ≠ none) → ∃ text, Patterns hosts text ∧
    ∀ (store : Store) (cancel : Cancellation) (p : Progress) (c : Course),
      Reading.exec (Reading.task store cancel p t) c =
        (.ok { p with files := p.files.insert m.path text }, c)
  refused : ∀ before h after, hosts = before ++ h :: after → (∀ b ∈ before, b.regex ≠ none) →
    h.regex = none →
    ∀ (store : Store) (cancel : Cancellation) (p : Progress) (c : Course),
      Reading.exec (Reading.task store cancel p t) c = (.error (.sideFile owner h.ref), c)

variable {owner : RecordRef} {m : RegexMapping} {backends others : List (Entry Section.Backend)}

/-- Selected backends that all have a pattern lead to a file. -/
lemma mapping_eq_put (h : ∀ b ∈ hosts m backends, b.regex ≠ none) :
    mapping owner backends m = .put m.path (patternContent ((hosts m backends).map Host.line)) := by
  rw [mapping, regexLines_eq_ok h]
  rfl

/-- The first selected backend without a pattern ends the pass. -/
lemma mapping_eq_refuse {before after : List Host} {b : Host}
    (heq : hosts m backends = before ++ b :: after) (h : ∀ b ∈ before, b.regex ≠ none)
    (hb : b.regex = none) : mapping owner backends m = .refuse owner b.ref := by
  rw [mapping, regexLines_eq_error heq h hb]

/-- Where not all of a row have a pattern, there is a first one without. -/
lemma exists_first_none {row : List Host} (h : ¬∀ b ∈ row, b.regex ≠ none) :
    ∃ before b after, row = before ++ b :: after ∧ (∀ b ∈ before, b.regex ≠ none) ∧
      b.regex = none := by
  cases hfind : row.find? (fun b => b.regex.isNone) with
  | none =>
    rw [List.find?_eq_none] at hfind
    exact absurd (fun b hb hnone => hfind b hb (Option.isNone_iff_eq_none.2 hnone)) h
  | some b =>
    obtain ⟨hb, before, after, heq, hbefore⟩ := List.find?_eq_some_iff_append.1 hfind
    refine ⟨before, b, after, heq, fun a ha hnone => ?_, Option.isNone_iff_eq_none.1 hb⟩
    simpa [hnone] using hbefore a ha

/-- **A mapping is made from the backends that it selects.** -/
lemma mapped (owner : RecordRef) (m : RegexMapping) (backends : List (Entry Section.Backend)) :
    Mapped owner m (hosts m backends) (mapping owner backends m) := by
  have hrefused : ∀ before b after, hosts m backends = before ++ b :: after →
      (∀ b ∈ before, b.regex ≠ none) → b.regex = none →
      ∀ (store : Store) (cancel : Cancellation) (p : Progress) (c : Course),
        Reading.exec (Reading.task store cancel p (mapping owner backends m)) c =
          (.error (.sideFile owner b.ref), c) := by
    intro before b after heq h hb store cancel p c
    rw [mapping_eq_refuse heq h hb]
    rfl
  refine ⟨fun store cancel p c => ⟨?_, fun h => ?_⟩, fun h => ?_, hrefused⟩
  · rintro ⟨q, d, hok⟩
    by_contra hnot
    obtain ⟨before, b, after, heq, hbefore, hb⟩ := exists_first_none hnot
    rw [hrefused before b after heq hbefore hb] at hok
    cases hok
  · rw [mapping_eq_put h]
    exact ⟨_, _, rfl⟩
  · refine ⟨_, patterns_patternContent h, fun store cancel p c => ?_⟩
    rw [mapping_eq_put h]
    rfl

/-- The file of a mapping does not tell in which order its backends were listed. -/
lemma mapping_perm (hperm : backends.Perm others) (h : ∀ b ∈ hosts m backends, b.regex ≠ none) :
    mapping owner others m = mapping owner backends m := by
  have hhosts : (hosts m others).Perm (hosts m backends) := ((hperm.filter _).map host).symm
  rw [mapping_eq_put h, mapping_eq_put fun b hb => h b (hhosts.mem_iff.1 hb),
    patternContent_perm (hhosts.map Host.line)]

end SideFile

/-! ## Backends of a pass -/

/-- What a declared backend gives to a file of patterns.  An empty pattern counts as none. -/
def Record.host (space : String) (r : BackendRecord) : SideFile.Host :=
  ⟨r.ref .backend space, if r.spec.hostRegex = "" then none else some r.spec.hostRegex,
    r.metadata.anyName⟩

/-- The declared backends that a mapping selects from a list. -/
def Record.hosts (space : String) (m : Section.RegexMapping) (records : List BackendRecord) :
    List SideFile.Host :=
  (records.filter (fun r => m.selector.selects r.metadata.allLabels)).map (Record.host space)

/-- **The backends of a pass are those of its records**, in their order. -/
lemma Entry.hosts_of_ofRecords {cancel : Cancellation} {space : String} {claims after : Claims}
    {l : List BackendRecord} {entries : List (Entry Section.Backend)}
    (h : Entry.ofRecords cancel .backend space (Section.Backend.ofSpec space) claims l =
      .ok (entries, after)) (m : Section.RegexMapping) :
    SideFile.hosts m entries = Record.hosts space m l := by
  have hentries := Entry.forall₂_entries_of_ofRecords h
  rw [SideFile.hosts, Record.hosts]
  clear h
  induction hentries with
  | nil => rfl
  | @cons r e l entries hentry _ ih =>
    obtain ⟨content, hcheck, rfl⟩ := hentry
    obtain ⟨-, -, -, hname, hregex⟩ := Section.Backend.ofSpec_eq_ok_iff.1 hcheck
    have hhost : SideFile.host ⟨r.ref .backend space, r.metadata.allLabels, content⟩ =
        r.host space := by
      rw [SideFile.host, Record.host, hname, hregex]
      simp only [Section.nonEmpty, String.isEmpty_iff]
    rw [List.filter_cons, List.filter_cons]
    split
    · rw [List.map_cons, List.map_cons, hhost, ih]
    · exact ih

namespace Pass

variable {store : Store} {cancel : Cancellation} {i : InstanceRecord} {records : Records}
  {content : Section.Instance} {fleet : Fleet} {m : Section.RegexMapping}

/-- The backends that a mapping selects in a pass, in ascending order. -/
lemma exists_order_of_prepare (h : prepare cancel i records = .ok (content, fleet))
    (m : Section.RegexMapping) :
    ∃ order, order.Perm records.backends ∧ order.Pairwise Record.Precedes ∧
      SideFile.hosts m fleet.backends = Record.hosts (instanceRef i).space m order := by
  obtain ⟨c₁, c₂, c₃, c₄, -, -, hbackends, -⟩ := Fleet.ofRecords_eq_ok (prepare_eq_ok h).2
  have hascending := Record.ascending_sorted (Entry.nodup_key_of_ofRecords hbackends)
  exact ⟨Record.sorted records.backends, Record.sorted_perm _,
    hascending.imp Record.before_iff.1, Entry.hosts_of_ofRecords hbackends m⟩

/-- A pass that succeeds has a pattern for every backend that one of its mappings selects. -/
lemma regex_ne_none_of_ok {set : ArtifactSet} (h : prepare cancel i records = .ok (content, fleet))
    (hset : (run store cancel i records).result = .ok set) {e : Entry Section.Frontend}
    (he : e ∈ fleet.frontends) (hm : m ∈ e.content.mappings) :
    ∀ b ∈ SideFile.hosts m fleet.backends, b.regex ≠ none := by
  obtain ⟨content', fleet', p, course, hprepare, hwork, -⟩ := run_eq_ok hset
  cases h.symm.trans hprepare
  obtain ⟨lines, hlines⟩ := exists_regexLines_of_tasks hwork he hm
  by_contra hnot
  obtain ⟨before, first, after, heq, hbefore, hfirst⟩ := SideFile.exists_first_none hnot
  rw [Fleet.selectedBy, SideFile.regexLines_eq_error heq hbefore hfirst] at hlines
  cases hlines

/-- The patterns of a mapping are generated, and its path holds them unless something else with that
path is generated with another content. -/
lemma exists_patterns_of_ok {set : ArtifactSet}
    (h : prepare cancel i records = .ok (content, fleet))
    (hset : (run store cancel i records).result = .ok set) {e : Entry Section.Frontend}
    (he : e ∈ fleet.frontends) (hm : m ∈ e.content.mappings) :
    ∃ text, SideFile.Patterns (SideFile.hosts m fleet.backends) text ∧
      SideFile.Declares content fleet ⟨m.path, .inline text⟩ ∧
      ((∀ d, SideFile.Declares content fleet d → d.path = m.path →
          d.source.resolve store = some text) → set.files.get? m.path = some text) := by
  have hregex := regex_ne_none_of_ok h hset he hm
  have hdeclared : SideFile.Declares content fleet ⟨m.path, .inline
      (SideFile.patternContent ((SideFile.hosts m fleet.backends).map SideFile.Host.line))⟩ :=
    .mapping he hm (SideFile.regexLines_eq_ok hregex)
  exact ⟨_, SideFile.patterns_patternContent hregex, hdeclared, get?_of_declares hset h hdeclared⟩

end Pass

namespace SideFile

/-- **What a mapping writes.**  Doing the task of a mapping succeeds exactly if every backend that
its selector selects has a host pattern; then its file has one line for each of them, in descending
order of bytes, whatever their order was, and otherwise the pass ends for the first one without a
pattern.  In a pass these are the declared backends in ascending order, whatever the order was that
they were handed in, and no pass succeeds in which a mapping selects one without a pattern.  If it
succeeds, the path of the mapping holds the lines, unless something else with that path is generated
with another content.  Every pattern has one bare form, and it is the same for all spellings with
and without anchors. -/
theorem mapping_writes_patterns (owner : RecordRef) (m : Section.RegexMapping)
    (backends : List (Entry Section.Backend)) :
    Mapped owner m (hosts m backends) (mapping owner backends m) ∧
    (∀ others, backends.Perm others → (∀ b ∈ hosts m backends, b.regex ≠ none) →
      mapping owner others m = mapping owner backends m) ∧
    (∀ cancel i records content fleet, Pass.prepare cancel i records = .ok (content, fleet) →
      fleet.backends = backends →
      (∃ order, order.Perm records.backends ∧ order.Pairwise Record.Precedes ∧
        hosts m backends = Record.hosts (Pass.instanceRef i).space m order) ∧
      (∀ others, records.Perm others → Pass.prepare cancel i others = .ok (content, fleet)) ∧
      ∀ e ∈ fleet.frontends, m ∈ e.content.mappings →
        mapping e.ref backends m ∈ tasks (Pass.instanceRef i) content fleet ∧
        ∀ store set, (Pass.run store cancel i records).result = .ok set →
          (∀ b ∈ hosts m backends, b.regex ≠ none) ∧
          ∃ text, Patterns (hosts m backends) text ∧
            Declares content fleet ⟨m.path, .inline text⟩ ∧
            ((∀ d, Declares content fleet d → d.path = m.path →
                d.source.resolve store = some text) → set.files.get? m.path = some text)) ∧
    (∀ regex, ∃! bare, Bare regex bare) ∧
    ∀ bare front back : String, bare.toList.head? ≠ some '^' → bare.toList.getLast? ≠ some '$' →
      front = "" ∨ front = "^" → back = "" ∨ back = "$" → Bare (front ++ bare ++ back) bare := by
  refine ⟨mapped owner m backends, fun others => mapping_perm, ?_, fun regex => ?_,
    fun bare front back => bare_of_spelling⟩
  · rintro cancel i records content fleet hprepare rfl
    exact ⟨Pass.exists_order_of_prepare hprepare m, fun others h => Pass.prepare_of_perm h hprepare,
      fun e he hm => ⟨mapping_mem_tasks he hm, fun store set hset =>
        ⟨Pass.regex_ne_none_of_ok hprepare hset he hm,
          Pass.exists_patterns_of_ok hprepare hset he hm⟩⟩⟩
  · exact ⟨bareRegex regex, bare_iff.2 rfl, fun bare h => h.bareRegex_eq.symm⟩

/-- A frontend that maps hosts to the backends of a shop. -/
def mappingFrontend : FrontendRecord :=
  .plain (some "edge") "web"
    { Spec.Frontend.none with
      switching := [⟨⟨none, none⟩, ⟨none, some ⟨"hosts", "req.hdr(host)",
        .ofLabels (KeyMap.empty.insert "app" "shop")⟩⟩⟩] }

/-- A backend of the shop with a host pattern. -/
def patternBackend (name regex : String) : BackendRecord :=
  ⟨{ Metadata.named (some "edge") name with labels := some (KeyMap.empty.insert "app" "shop") },
    { Spec.Backend.none with hostRegex := regex }, none⟩

/-- Patterns with and without anchors: the later line comes first. -/
theorem mapping_writes_patterns_two_spellings :
    let store : Store := fun _ => .ok none
    let i : InstanceRecord := .plain (some "edge") "fleet" .none
    let records : Records := ⟨[], [mappingFrontend],
      [patternBackend "cart" "^cart[.]test", patternBackend "shop" "shop[.]test$"], []⟩
    (∃ content fleet, Pass.prepare .never i records = .ok (content, fleet) ∧
      ∃ t ∈ tasks (Pass.instanceRef i) content fleet,
        ∀ (store : Store) (cancel : Cancellation) (p : Progress) (c : Course),
          Reading.exec (Reading.task store cancel p t) c =
            (.ok ⟨p.files.insert (inConfigDir "hosts.map")
              "^shop[.]test$ shop\n^cart[.]test$ cart", p.environment⟩, c)) ∧
    ∃ set, (Pass.run store .never i records).result = .ok set ∧
      set.files.get? (inConfigDir "hosts.map") =
        some "^shop[.]test$ shop\n^cart[.]test$ cart" := by
  intro store i records
  let m : Section.RegexMapping :=
    ⟨"hosts", "req.hdr(host)", .ofLabels (KeyMap.empty.insert "app" "shop")⟩
  let cart : Host := ⟨⟨.backend, "edge", "cart"⟩, some "^cart[.]test", "cart"⟩
  let shop : Host := ⟨⟨.backend, "edge", "shop"⟩, some "shop[.]test$", "shop"⟩
  have hread : (Pass.prepare .never i records).map
      (fun r => (r.2.frontends.map (·.content.mappings), hosts m r.2.backends)) =
        .ok ([[m]], [cart, shop]) := by cbv
  have hsorted : Record.sorted records.backends = records.backends :=
    List.mergeSort_of_pairwise (by decide)
  have hok : (Pass.run store .never i records).result.map (fun _ => ()) = .ok () := by
    simp only [Pass.run, Pass.prepare, Fleet.ofRecords, hsorted]
    decide +kernel
  have hpaths : (Pass.prepare .never i records).map
      (fun r => (declarations (Pass.instanceRef i) r.1 r.2).map (·.path)) = .ok [m.path] := by
    simp only [Pass.prepare, Fleet.ofRecords, hsorted]
    decide +kernel
  have hpath : m.path = inConfigDir "hosts.map" := by decide
  obtain ⟨⟨content, fleet⟩, hprepare, hread⟩ := Check.map_eq_ok_iff.1 hread
  have hfrontends : fleet.frontends.map (·.content.mappings) = [[m]] := (Prod.mk.inj hread).1
  have hhosts : hosts m fleet.backends = [cart, shop] := (Prod.mk.inj hread).2
  obtain ⟨e, hfrontend, hmappings⟩ := List.map_eq_singleton_iff.1 hfrontends
  have he : e ∈ fleet.frontends := by simp [hfrontend]
  have hm : m ∈ e.content.mappings := by simp [hmappings]
  have htext : ∀ text, Patterns [cart, shop] text →
      text = "^shop[.]test$ shop\n^cart[.]test$ cart" := by
    rintro _ ⟨given, lines, hgiven, hperm, hdescending, rfl⟩
    cases hgiven with
    | cons hfirst hrest =>
      cases hrest with
      | cons hsecond hrest =>
        cases hrest
        rw [hfirst.eq_line, hsecond.eq_line, List.perm_pair] at hperm
        rcases hperm with rfl | rfl
        · rw [List.pairwise_pair] at hdescending
          revert hdescending
          decide
        · decide
  obtain ⟨hmapped, -, hpass, -⟩ := mapping_writes_patterns e.ref m fleet.backends
  obtain ⟨-, -, htasks⟩ := hpass .never i records content fleet hprepare rfl
  rw [hhosts] at hmapped htasks
  constructor
  · obtain ⟨text, hpatterns, hrun⟩ := hmapped.file (by simp [cart, shop])
    refine ⟨content, fleet, hprepare, _, (htasks e he hm).1, ?_⟩
    rw [htext text hpatterns, hpath] at hrun
    exact hrun
  · obtain ⟨set, hset, -⟩ := Check.map_eq_ok_iff.1 hok
    obtain ⟨-, text, hpatterns, hdeclares, -⟩ := (htasks e he hm).2 store set hset
    rw [hprepare, Except.map, Except.ok.injEq] at hpaths
    have hfile := Pass.get?_of_distinct hset hprepare (by rw [hpaths]; decide) hdeclares
    rw [htext text hpatterns, hpath] at hfile
    exact ⟨set, hset, hfile⟩

end SideFile

end ProxyFleet
