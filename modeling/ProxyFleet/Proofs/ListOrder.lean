import ProxyFleet.Proofs.CertificateLists

/-!
# Certificate lists and the order of paths

The lines of a certificate list are sorted as a whole.  Each of them starts with the path of a
certificate, but the order of the lines is not always that of the paths.

**Texts.**  A greater text comes first, when something is added to both, exactly if it goes on where
the other one ends, and what it goes on with comes before what was added to the other one
(`Text.lt_and_append_lt_iff`).

**Elements.**  `CertificateElement.Overtakes` says this about the paths of two elements and what
follows them in their lines.  What a path goes on with then starts with a character up to the space
(`CertificateElement.Overtakes.exists_low`), so that a name without such characters overtakes
nothing.

**Lists.**  A list can be shown in the order of the paths exactly if no element overtakes another
one (`SideFile.exists_lists_by_path_iff`).

Main statement: `Pass.lists_follow_paths_iff`.
-/

namespace ProxyFleet

open Section (CertificateElement)

/-! ## Texts -/

namespace Text

/-- **When additions turn the order of two texts around.** -/
lemma lt_and_append_lt_iff {s t a b : String} :
    t < s ∧ s ++ a < t ++ b ↔ ∃ tail, tail ≠ "" ∧ s = t ++ tail ∧ tail ++ a < b := by
  -- on characters, by induction on the smaller text
  have key : ∀ l m x y : List Char, m < l ∧ l ++ x < m ++ y ↔
      ∃ tail, tail ≠ [] ∧ l = m ++ tail ∧ tail ++ x < y := by
    intro l m x y
    induction m generalizing l with
    | nil => cases l <;> simp
    | cons d m ih =>
      cases l with
      | nil => simp
      | cons c l =>
        rw [List.cons_append, List.cons_append, List.cons_lt_cons_iff, List.cons_lt_cons_iff]
        constructor
        · rintro ⟨hdc | ⟨rfl, hml⟩, hcd | ⟨hsame, hlm⟩⟩
          · exact absurd hcd (lt_asymm hdc)
          · exact absurd hsame hdc.ne'
          · exact absurd hcd (lt_irrefl d)
          · obtain ⟨tail, hne, rfl, hlt⟩ := (ih l).1 ⟨hml, hlm⟩
            exact ⟨tail, hne, rfl, hlt⟩
        · rintro ⟨tail, hne, heq, hlt⟩
          rw [List.cons_append, List.cons.injEq] at heq
          obtain ⟨rfl, heq⟩ := heq
          obtain ⟨hml, hlm⟩ := (ih l).2 ⟨tail, hne, heq, hlt⟩
          exact ⟨.inr ⟨rfl, hml⟩, .inr ⟨rfl, hlm⟩⟩
  rw [String.lt_iff_toList_lt, String.lt_iff_toList_lt, String.toList_append, String.toList_append,
    key]
  constructor
  · rintro ⟨tail, hne, heq, hlt⟩
    refine ⟨String.ofList tail, ?_, ?_, ?_⟩
    · rwa [Ne, ← String.toList_eq_nil_iff, String.toList_ofList]
    · rw [← String.toList_inj, heq, String.toList_append, String.toList_ofList]
    · rwa [String.lt_iff_toList_lt, String.toList_append, String.toList_ofList]
  · rintro ⟨tail, hne, rfl, hlt⟩
    rw [String.lt_iff_toList_lt, String.toList_append] at hlt
    exact ⟨tail.toList, mt String.toList_eq_nil_iff.1 hne, String.toList_append, hlt⟩

end Text

/-! ## Elements -/

namespace Section.CertificateElement

variable {e f : CertificateElement}

/-- What follows the path in the line of an element. -/
def afterPath (e : CertificateElement) : String :=
  " " ++ statement [e.settings, e.sniFilter, "\n"]

lemma line_eq (e : CertificateElement) : e.line = e.certificate.path ++ e.afterPath := by
  simp [line, afterPath, statement, String.append_assoc]

/-- A space follows the path. -/
lemma toList_afterPath (e : CertificateElement) :
    e.afterPath.toList = ' ' :: (statement [e.settings, e.sniFilter, "\n"]).toList := by
  rw [afterPath, String.toList_append]
  rfl

/-- **Whether an element comes before another one in spite of its path**: the path goes on where the
other one ends, with something that comes before what follows the other one in its line. -/
def Overtakes (f e : CertificateElement) : Prop :=
  ∃ tail, tail ≠ "" ∧ f.certificate.path = e.certificate.path ++ tail ∧
    Text.utf8 (tail ++ f.afterPath) < Text.utf8 e.afterPath

/-- An element overtakes another one if it has the greater path and the smaller line. -/
lemma overtakes_iff :
    f.Overtakes e ↔ e.certificate.path < f.certificate.path ∧ f.line < e.line := by
  simp only [Overtakes, Text.utf8_lt_iff]
  rw [line_eq, line_eq, Text.lt_and_append_lt_iff]

/-- A path has no character up to the space but those of its name. -/
lemma mem_name_of_mem_path {c : Char} (hc : c ≤ ' ') (h : c ∈ e.certificate.path.toList) :
    c ∈ e.certificate.name.toList := by
  obtain ⟨stem, hpath, hstem⟩ := FileName.configPath_eq e.certificate.name "crt"
  have hname : c ∈ stem.toList → c ∈ e.certificate.name.toList := by
    intro hmem
    rcases hstem with rfl | hstem
    · exact hmem
    · rw [hstem, String.toList_append]
      exact List.mem_append_left _ hmem
  have hfront : (configDir ++ "/").toList.all (' ' < ·) = true := by decide
  have hend : ("." ++ "crt").toList.all (' ' < ·) = true := by decide
  have hsplit : e.certificate.path.toList =
      (configDir ++ "/").toList ++ (stem.toList ++ ("." ++ "crt").toList) := by
    rw [Certificate.path, hpath, inConfigDir, String.toList_append,
      String.toList_append (s := stem)]
  rw [hsplit, List.mem_append, List.mem_append] at h
  rw [List.all_eq_true] at hfront hend
  rcases h with h | h | h
  · exact absurd hc (not_le.2 (of_decide_eq_true (hfront c h)))
  · exact hname h
  · exact absurd hc (not_le.2 (of_decide_eq_true (hend c h)))

/-- **A name that overtakes has a character up to the space**: its path goes on with one, since a
space follows the other path. -/
lemma Overtakes.exists_low (h : f.Overtakes e) : ∃ c ∈ f.certificate.name.toList, c ≤ ' ' := by
  obtain ⟨tail, hne, hpath, hlt⟩ := h
  rw [Text.utf8_lt_iff, String.lt_iff_toList_lt, String.toList_append, toList_afterPath f,
    toList_afterPath e] at hlt
  cases htail : tail.toList with
  | nil => exact absurd (String.toList_eq_nil_iff.1 htail) hne
  | cons c rest =>
    have hmem : c ∈ f.certificate.path.toList := by
      rw [hpath, String.toList_append, htail]
      simp
    have hlow : c ≤ ' ' := by
      rw [htail, List.cons_append, List.cons_lt_cons_iff] at hlt
      rcases hlt with hlt | ⟨rfl, -⟩
      · exact hlt.le
      · exact le_refl _
    exact ⟨c, mem_name_of_mem_path hlow hmem, hlow⟩

end Section.CertificateElement

/-! ## Lists -/

namespace SideFile

variable {elements order : List CertificateElement} {text : String}

/-- Whether elements stand in the order of their paths. -/
def ByPath (order : List CertificateElement) : Prop :=
  order.Pairwise (fun a b => Text.utf8 a.certificate.path ≤ Text.utf8 b.certificate.path)

/-- Where the lines are in the order of the paths, no element overtakes another one. -/
lemma Lists.not_overtakes (h : Lists elements order text) (hpath : ByPath order)
    {e f : CertificateElement} (he : e ∈ elements) (hf : f ∈ elements) : ¬f.Overtakes e := by
  have hlines : order.Pairwise (fun a b => a.line ≤ b.line) :=
    (List.pairwise_map.1 h.ascending).imp Text.utf8_le_iff.1
  have hpaths : order.Pairwise (fun a b => a.certificate.path ≤ b.certificate.path) :=
    List.Pairwise.imp Text.utf8_le_iff.1 hpath
  have hneither : order.Pairwise (fun a b => ¬a.Overtakes b ∧ ¬b.Overtakes a) := by
    refine (hlines.and hpaths).imp ?_
    rintro a b ⟨hline, hpath⟩
    rw [Section.CertificateElement.overtakes_iff, Section.CertificateElement.overtakes_iff]
    exact ⟨fun hover => String.not_lt.2 hpath hover.1, fun hover => String.not_lt.2 hline hover.2⟩
  have hself : ∀ a ∈ order, ¬a.Overtakes a ∧ ¬a.Overtakes a := by
    intro a _
    rw [and_self, Section.CertificateElement.overtakes_iff]
    exact fun hover => String.lt_irrefl _ hover.1
  have hall := hneither.forall_of_forall_of_flip hself (hneither.imp And.symm)
  exact (hall (h.perm.mem_iff.2 he) (h.perm.mem_iff.2 hf)).2

/-- The order of the lines, and that of the paths where the lines are the same. -/
def byLine (a b : CertificateElement) : Bool :=
  decide (a.line < b.line ∨ a.line = b.line ∧ a.certificate.path ≤ b.certificate.path)

lemma byLine_iff {a b : CertificateElement} : byLine a b = true ↔
    toLex (a.line, a.certificate.path) ≤ toLex (b.line, b.certificate.path) := by
  rw [Prod.Lex.toLex_le_toLex, byLine, decide_eq_true_iff]

/-- **When a list follows the paths**: exactly if no element overtakes another one. -/
lemma exists_lists_by_path_iff (elements : List CertificateElement) :
    (∃ order, Lists elements order (listContent elements) ∧ ByPath order) ↔
      ∀ e ∈ elements, ∀ f ∈ elements, ¬f.Overtakes e := by
  constructor
  · rintro ⟨order, hlists, hpath⟩ e he f hf
    exact hlists.not_overtakes hpath he hf
  · intro hnone
    have hsorted : (elements.mergeSort byLine).Pairwise (fun a b =>
        toLex (a.line, a.certificate.path) ≤ toLex (b.line, b.certificate.path)) := by
      apply Text.pairwise_mergeSort_of_iff (fun a b => byLine_iff)
      · intro a b c hab hbc
        exact le_trans hab hbc
      · intro a b
        exact le_total _ _
    have hperm : (elements.mergeSort byLine).Perm elements := List.mergeSort_perm _ _
    refine ⟨elements.mergeSort byLine, lists_of_ascending hperm (hsorted.imp ?_), ?_⟩
    · intro a b hab
      rcases Prod.Lex.toLex_le_toLex.1 hab with hlt | ⟨heq, -⟩
      · exact hlt.le
      · exact heq.le
    · refine hsorted.imp_of_mem ?_
      intro a b ha hb hab
      rw [Text.utf8_le_iff]
      rcases Prod.Lex.toLex_le_toLex.1 hab with hlt | ⟨-, hpath⟩
      · -- a smaller line with a greater path would overtake
        by_contra hpath
        exact hnone b (hperm.mem_iff.1 hb) a (hperm.mem_iff.1 ha)
          (Section.CertificateElement.overtakes_iff.2 ⟨String.not_le.1 hpath, hlt⟩)
      · exact hpath

end SideFile

namespace Pass

variable {store : Store} {cancel : Cancellation} {i : InstanceRecord} {records : Records}
  {set : ArtifactSet}

/-- **When the files of certificate lists follow the paths.**  In a pass that succeeds every
certificate list of an encrypted address is generated with one line for each element, the lines in
ascending order.  The paths of the certificates are in ascending order as well exactly if no element
overtakes another one, that is, if no path goes on where another one ends with something that comes
before the rest of the other line.  Whatever their settings are, only an element whose name has a
character up to the space can overtake. -/
theorem lists_follow_paths_iff (h : (run store cancel i records).result = .ok set) :
    ∃ content fleet, prepare cancel i records = .ok (content, fleet) ∧
      ∀ list extra, records.HasList list extra → ∃ text elements,
        SideFile.Declares content fleet ⟨configPath list.name "map", .inline text⟩ ∧
        CertificateElement.Checked (instanceRef i).space (list.elements ++ extra) elements ∧
        (∃ order, SideFile.Lists elements order text) ∧
        ((∃ order, SideFile.Lists elements order text ∧ SideFile.ByPath order) ↔
          ∀ e ∈ elements, ∀ f ∈ elements, ¬f.Overtakes e) ∧
        ∀ e ∈ elements, ∀ f ∈ elements, f.Overtakes e →
          ∃ c ∈ f.certificate.name.toList, c ≤ ' ' := by
  obtain ⟨content, fleet, p, course, hprepare, -⟩ := run_eq_ok h
  refine ⟨content, fleet, hprepare, fun list extra hlist => ?_⟩
  obtain ⟨elements, hchecked, hdeclared⟩ := declares_list hprepare hlist
  exact ⟨_, elements, hdeclared, hchecked, SideFile.exists_lists elements,
    SideFile.exists_lists_by_path_iff elements, fun _ _ _ _ hover => hover.exists_low⟩

/-- Two certificates with common names, the later one declared first. -/
theorem lists_follow_paths_iff_common_names :
    let store : Store := fun _ => .ok none
    let i : InstanceRecord := .plain (some "edge") "fleet" .none
    let records : Records :=
      ⟨[], [listingFrontend [listedHost "web.test" [], listedHost "shop.test" ["h2"]]], [], []⟩
    ∃ set content fleet, (run store .never i records).result = .ok set ∧
      prepare .never i records = .ok (content, fleet) ∧
      ∃ text order, SideFile.Declares content fleet ⟨inConfigDir "hosts.map", .inline text⟩ ∧
        SideFile.Lists [listedElement "web.test" [], listedElement "shop.test" ["h2"]] order text ∧
        SideFile.ByPath order := by
  intro store i records
  have hok : (run store .never i records).result.map (fun _ => ()) = .ok () := by decide +kernel
  obtain ⟨set, hset, -⟩ := Check.map_eq_ok_iff.1 hok
  obtain ⟨content, fleet, hprepare, hlists⟩ := lists_follow_paths_iff hset
  obtain ⟨text, elements, hdeclared, hchecked, -, hiff, hlow⟩ :=
    hlists _ _ (.frontend (r := records) List.mem_cons_self List.mem_cons_self rfl)
  have helements : CertificateElement.Checked (instanceRef i).space
      [listedHost "web.test" [], listedHost "shop.test" ["h2"]]
      [listedElement "web.test" [], listedElement "shop.test" ["h2"]] :=
    .cons (by decide) (.cons (by decide) .nil)
  rw [hchecked.unique helements] at hiff hlow
  have hhigh : ∀ f ∈ [listedElement "web.test" [], listedElement "shop.test" ["h2"]],
      f.certificate.name.toList.all (' ' < ·) = true := by decide
  obtain ⟨order, hshows, hpath⟩ := hiff.2 fun e he f hf hover => by
    obtain ⟨c, hc, hcLow⟩ := hlow e he f hf hover
    exact not_le.2 (of_decide_eq_true (List.all_eq_true.1 (hhigh f hf) c hc)) hcLow
  exact ⟨set, content, fleet, hset, hprepare, text, order, hdeclared, hshows, hpath⟩

/-- **A setting can come after a greater path.**  The name of the second certificate goes on after
an extension, and what it goes on with comes before the settings of the first one. -/
theorem settings_follow_greater_path :
    let store : Store := fun _ => .ok none
    let i : InstanceRecord := .plain (some "edge") "fleet" .none
    let records : Records :=
      ⟨[], [listingFrontend [listedHost "web" ["h2"], listedHost "web.crt 2024" []]], [], []⟩
    let web := listedElement "web" ["h2"]
    let renewed := listedElement "web.crt 2024" []
    let text := "/usr/local/etc/haproxy/web.crt 2024.crt  shop.test \n" ++
      "/usr/local/etc/haproxy/web.crt [alpn h2] shop.test \n"
    ∃ set, (run store .never i records).result = .ok set ∧
      set.files.get? (inConfigDir "hosts.map") = some text ∧
      CertificateElement.Checked (instanceRef i).space
        [listedHost "web" ["h2"], listedHost "web.crt 2024" []] [web, renewed] ∧
      Text.utf8 web.certificate.path < Text.utf8 renewed.certificate.path ∧
      renewed.Overtakes web ∧
      ∀ order, SideFile.Lists [web, renewed] order text → ¬SideFile.ByPath order := by
  intro store i records web renewed text
  have hok : (run store .never i records).result.map (fun _ => ()) = .ok () := by decide +kernel
  have hpaths : (prepare .never i records).map
      (fun p => (SideFile.declarations (instanceRef i) p.1 p.2).map (·.path)) =
        .ok [inConfigDir "web.crt", inConfigDir "web.crt 2024.crt", inConfigDir "hosts.map"] := by
    decide +kernel
  obtain ⟨set, hset, -⟩ := Check.map_eq_ok_iff.1 hok
  obtain ⟨⟨content, fleet⟩, hprepare, hpaths⟩ := Check.map_eq_ok_iff.1 hpaths
  have hlist : records.HasList ⟨"hosts", [listedHost "web" ["h2"], listedHost "web.crt 2024" []],
      some (.ofLabels (KeyMap.empty.insert "app" "shop"))⟩ [] :=
    .frontend (r := records) List.mem_cons_self List.mem_cons_self rfl
  obtain ⟨elements, hchecked, hdeclared⟩ := declares_list hprepare hlist
  have hdistinct : ((SideFile.declarations (instanceRef i) content fleet).map (·.path)).Nodup := by
    rw [hpaths]
    decide
  have hfile := get?_of_distinct hset hprepare hdistinct hdeclared
  have helements : CertificateElement.Checked (instanceRef i).space
      [listedHost "web" ["h2"], listedHost "web.crt 2024" []] [web, renewed] :=
    .cons (by decide) (.cons (by decide) .nil)
  have hshows : SideFile.Lists [web, renewed] [renewed, web] text :=
    ⟨.swap _ _ _, by decide, by decide⟩
  rw [hchecked.unique helements, ← hshows.text_eq (.refl _)] at hfile
  have hover : renewed.Overtakes web := ⟨" 2024.crt", by decide, by decide, by decide⟩
  have hpath : Text.utf8 web.certificate.path < Text.utf8 renewed.certificate.path :=
    Text.utf8_lt_iff.2 (Section.CertificateElement.overtakes_iff.1 hover).1
  refine ⟨set, hset, hfile, helements, hpath, hover, ?_⟩
  intro order hlists hbyPath
  exact hlists.not_overtakes hbyPath (by simp) (by simp) hover

end Pass

end ProxyFleet
