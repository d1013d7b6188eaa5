import ProxyFleet.Directory
import ProxyFleet.Proofs.EntryPaths
import ProxyFleet.Proofs.JoinedPaths
import ProxyFleet.Proofs.Plain

/-!
# Places in a directory

Where the files of an artifact set stand once it is written into a directory.

**Entry paths.**  A path in the artifact set of a pass is a plain name in the directory of the
proxy, or the name of the document (`Pass.isEntryPath_of_ok`).  The name determines the path
(`Directory.IsEntryPath.eq_of_relative_eq`).

**Places.**  Such a file stands directly in the directory that is written into, under its own name
(`Directory.IsEntryPath.location_target`), and is written beside its place under a name that no
entry has (`Directory.IsEntryPath.location_sibling_ne_place`).

Main statement: `Pass.targets_are_names`.
-/

namespace ProxyFleet

open FileName (IsPlain HasExtension ending extensions)
open PathText (Location location join)

namespace Directory

variable {name path directory : String}

/-! ## Entry paths -/

/-- Whether a file of an artifact set may have a name. -/
structure IsEntryName (name : String) : Prop where
  plain : IsPlain name
  known : HasExtension name ∨ name ∈ ["env", configFile]

lemma IsEntryName.ending_mem (h : IsEntryName name) :
    ending name ∈ (extensions ++ ["env", configFile]).map ending := by
  rw [List.map_append, List.mem_append]
  rcases h.known with hext | hname
  · exact .inl hext.ending_mem
  · exact .inr (List.mem_map_of_mem hname)

/-- An entry has no name that ends otherwise. -/
lemma IsEntryName.ne {other : String} (h : IsEntryName name)
    (ho : ending other ∉ (extensions ++ ["env", configFile]).map ending) : name ≠ other := by
  rintro rfl
  exact ho h.ending_mem

lemma IsEntryName.isPieceName (h : IsEntryName name) : PathText.IsPieceName name where
  plain := h.plain.1
  not_blank := by
    have hempty : name ≠ "" := h.ne (by decide)
    have hdot : name ≠ "." := h.ne (by decide)
    simp [PathText.isBlank, hempty, hdot]
  not_parent := h.ne (by decide)

/-- The name under which a file is written first. -/
lemma IsEntryName.isPieceName_tmp (h : IsEntryName name) :
    PathText.IsPieceName (name ++ ".tmp") := by
  have hending : ending (name ++ ".tmp") = ending ".tmp" := FileName.ending_append (by decide) name
  have hne : ∀ other, ending other ≠ ending ".tmp" → name ++ ".tmp" ≠ other := by
    rintro other ho rfl
    exact ho hending
  refine ⟨(FileName.isPlain_append.2 ⟨h.plain, by decide⟩).1, ?_, hne ".." (by decide)⟩
  simp only [PathText.isBlank, Bool.or_eq_false_iff, decide_eq_false_iff_not]
  exact ⟨hne "" (by decide), hne "." (by decide)⟩

/-- Whether an artifact set may have a path: the name of the document, or an entry name in the
directory of the proxy. -/
structure IsEntryPath (path : String) : Prop where
  name : IsEntryName (relative path)
  path_eq : path = if relative path = configFile then configFile else inConfigDir (relative path)

/-- From the directory on, the path of a file in it is its name. -/
lemma relative_inConfigDir (h : IsPlain name) : relative (inConfigDir name) = name := by
  have hstart : Text.withoutStart configDir (inConfigDir name) = some ("/" ++ name) := by
    rw [Text.withoutStart_eq_some_iff, inConfigDir, String.append_assoc]
  have hdrop : name.toList.dropWhile (· = '/') = name.toList := by
    cases hl : name.toList with
    | nil => rfl
    | cons c rest =>
      have hc : c ≠ '/' := by
        rintro rfl
        exact h.1 (by rw [hl]; exact List.mem_cons_self)
      simp [hc]
  rw [relative, hstart, Option.getD_some, String.toList_append]
  apply String.toList_inj.1
  rw [String.toList_ofList]
  exact hdrop

lemma relative_configFile : relative configFile = configFile := by decide

lemma isEntryPath_configFile : IsEntryPath configFile where
  name := by
    rw [relative_configFile]
    exact ⟨by decide, .inr (by decide)⟩
  path_eq := by rw [relative_configFile, if_pos rfl]

lemma isEntryPath_inConfigDir (h : IsEntryName name) (hne : name ≠ configFile) :
    IsEntryPath (inConfigDir name) where
  name := by
    rw [relative_inConfigDir h.plain]
    exact h
  path_eq := by rw [relative_inConfigDir h.plain, if_neg hne]

/-- The name of an entry determines its path. -/
lemma IsEntryPath.eq_of_relative_eq {other : String} (h : IsEntryPath path)
    (ho : IsEntryPath other) (heq : relative path = relative other) : path = other := by
  rw [h.path_eq, ho.path_eq, heq]

end Directory

namespace Pass

variable {store : Store} {cancel : Cancellation} {i : InstanceRecord} {records : Records}
  {set : ArtifactSet}

/-- The side files of a pass have entry paths, and none of them is that of the document. -/
lemma isEntryPath_of_get? (h : (run store cancel i records).result = .ok set) {path text : String}
    (hget : set.files.get? path = some text) :
    Directory.IsEntryPath path ∧ path ≠ configFile := by
  have hname : ∃ name, path = inConfigDir name ∧ Directory.IsEntryName name ∧
      name ≠ configFile := by
    obtain ⟨content, fleet, p, course, hprepare, hwork, rfl⟩ := run_eq_ok h
    obtain ⟨hcontent, hfleet⟩ := prepare_eq_ok hprepare
    by_cases henv : path = SideFile.envPath
    · exact ⟨"env", henv, ⟨by decide, .inr (by decide)⟩, by decide⟩
    · simp only [Progress.get?_allFiles henv, (Reading.files_of_tasks hwork).2] at hget
      obtain ⟨source, hsource, -⟩ := Option.bind_eq_some_iff.1 hget
      have hdeclared : SideFile.Declares content fleet ⟨path, source⟩ :=
        SideFile.mem_declarations.1 (mem_of_lastSource hsource)
      obtain ⟨name, hpath, hext⟩ := hdeclared.exists_name
      obtain ⟨base, hbase, hplain⟩ :=
        hdeclared.isPlain_path (Fleet.checked_of_ofRecords hfleet) hcontent
      obtain rfl : name = base := FileName.inConfigDir_inj.1 (hpath.symm.trans hbase)
      exact ⟨name, hpath, ⟨hplain, .inl hext⟩, hext.ne (by decide)⟩
  obtain ⟨name, rfl, hname, hne⟩ := hname
  refine ⟨Directory.isEntryPath_inConfigDir hname hne, fun heq => hne ?_⟩
  rw [← Directory.relative_inConfigDir hname.plain, heq, Directory.relative_configFile]

/-- **The paths in the artifact set of a pass are entry paths.** -/
lemma isEntryPath_of_ok (h : (run store cancel i records).result = .ok set) :
    ∀ e ∈ set.entries, Directory.IsEntryPath e.1 := by
  intro e he
  rw [ArtifactSet.entries, List.mem_mergeSort, List.mem_append, List.mem_singleton] at he
  rcases he with he | rfl
  · exact (isEntryPath_of_get? h (KeyMap.get?_eq_some_iff.2 he)).1
  · exact Directory.isEntryPath_configFile

/-- No path stands twice in the artifact set of a pass. -/
lemma nodup_paths_of_ok (h : (run store cancel i records).result = .ok set) :
    (set.entries.map (·.1)).Nodup := by
  have hfiles : (set.files.entries.map (·.1)).Nodup := by
    rw [List.Nodup, List.pairwise_map]
    refine set.files.ascending.imp ?_
    intro a b hlt heq
    rw [heq] at hlt
    exact String.lt_irrefl _ hlt
  have hdocument : configFile ∉ set.files.entries.map (·.1) := by
    intro hmem
    obtain ⟨e, he, hpath⟩ := List.mem_map.1 hmem
    exact (isEntryPath_of_get? h (KeyMap.get?_eq_some_iff.2 he)).2 hpath
  have hperm := (List.mergeSort_perm (set.files.entries ++ [(configFile, set.document)])
    (fun a b => !decide (b.1 < a.1))).map (·.1)
  rw [ArtifactSet.entries, hperm.nodup_iff, List.map_append, List.nodup_append]
  refine ⟨hfiles, List.pairwise_singleton _ _, ?_⟩
  rintro path hpath other hother rfl
  rw [List.map_singleton, List.mem_singleton] at hother
  rw [hother] at hpath
  exact hdocument hpath

end Pass

namespace Directory

variable {path directory : String}

/-! ## Places -/

/-- Where the file with a path stands. -/
def place (directory path : String) : Location := location directory ++ [relative path]

/-- Different entries have different places. -/
lemma IsEntryPath.place_inj {other : String} (h : IsEntryPath path) (ho : IsEntryPath other) :
    place directory path = place directory other ↔ path = other := by
  constructor
  · intro heq
    have hname := List.singleton_inj.1 (List.append_cancel_left heq)
    exact h.eq_of_relative_eq ho hname
  · rintro rfl
    rfl

/-- A path that leads on from the directory has a place there. -/
lemma target?_of_leadsOn (h : PathText.LeadsOn (relative path)) (directory : String) :
    target? directory path = some (join directory (relative path)) :=
  target?_eq_some_iff.2 ⟨h.1, h.2, rfl⟩

/-- A path is refused unless it leads on from the directory. -/
lemma target?_eq_none_iff : target? directory path = none ↔ ¬PathText.LeadsOn (relative path) := by
  constructor
  · intro hnone hleads
    rw [target?_of_leadsOn hleads directory] at hnone
    cases hnone
  · intro hnot
    rw [Option.eq_none_iff_forall_ne_some]
    intro target htarget
    obtain ⟨hne, hnames, -⟩ := target?_eq_some_iff.1 htarget
    exact hnot ⟨hne, hnames⟩

lemma IsEntryPath.leadsOn (h : IsEntryPath path) : PathText.LeadsOn (relative path) :=
  h.name.isPieceName.leadsOn

lemma IsEntryPath.target?_eq (h : IsEntryPath path) :
    target? directory path = some (join directory (relative path)) :=
  target?_of_leadsOn h.leadsOn directory

lemma IsEntryPath.location_target (h : IsEntryPath path) :
    location (join directory (relative path)) = place directory path :=
  h.name.isPieceName.location_join directory

/-- The path that a file is written under first leads on from the directory as well. -/
lemma sibling_join (directory path : String) :
    sibling (join directory path) = join directory (path ++ ".tmp") := by
  rw [sibling, join, join]
  split <;> simp [String.append_assoc]

/-- Where a file is written first. -/
lemma IsEntryPath.location_sibling (h : IsEntryPath path) :
    location (sibling (join directory (relative path))) =
      location directory ++ [relative path ++ ".tmp"] := by
  rw [sibling_join]
  exact h.name.isPieceName_tmp.location_join directory

/-- No entry has the name that another one is written under first. -/
lemma IsEntryPath.relative_ne_tmp {other : String} (h : IsEntryPath path) :
    relative path ≠ relative other ++ ".tmp" := by
  intro heq
  have hmem := h.name.ending_mem
  rw [heq, FileName.ending_append (by decide)] at hmem
  exact absurd hmem (by decide)

/-- No entry has its place where another one is written first. -/
lemma IsEntryPath.location_sibling_ne_place {other : String} (h : IsEntryPath path)
    (ho : IsEntryPath other) :
    location (sibling (join directory (relative path))) ≠ place directory other := by
  rw [h.location_sibling, place]
  intro heq
  exact ho.relative_ne_tmp (List.singleton_inj.1 (List.append_cancel_left heq)).symm

end Directory

namespace Pass

variable {store : Store} {cancel : Cancellation} {i : InstanceRecord} {records : Records}
  {set : ArtifactSet}

open Directory (target? sibling relative place)

/-- **Every entry has a place of its own, directly in the directory.**  If a pass succeeds, no path
of its artifact set is refused, whatever directory it is written into: each leads from there along
one name.  No two entries have one place, and none is written first where another one has its
place. -/
theorem targets_are_names (h : (run store cancel i records).result = .ok set) (directory : String) :
    ∃ names : List String,
      set.entries.map (fun e => target? directory e.1) =
        names.map (fun name => some (join directory name)) ∧
      (∀ name ∈ names, PathText.parts name = [.name name] ∧
        PathText.parts (join directory name) = PathText.parts directory ++ [.name name]) ∧
      (names.map (fun name => location (join directory name))).Nodup ∧
      ∀ name ∈ names, ∀ other ∈ names,
        location (sibling (join directory name)) ≠ location (join directory other) := by
  have hentry := isEntryPath_of_ok h
  have hplaces : set.entries.map (fun e => location (join directory (relative e.1))) =
      (set.entries.map (·.1)).map (place directory) := by
    rw [List.map_map]
    exact List.map_congr_left fun e he => (hentry e he).location_target
  refine ⟨set.entries.map (fun e => relative e.1), ?_, ?_, ?_, ?_⟩
  · rw [List.map_map]
    exact List.map_congr_left fun e he => (hentry e he).target?_eq
  · intro name hname
    obtain ⟨e, he, rfl⟩ := List.mem_map.1 hname
    have hpiece := (hentry e he).name.isPieceName
    exact ⟨hpiece.parts, hpiece.parts_join directory⟩
  · rw [List.map_map, Function.comp_def, hplaces]
    refine List.Nodup.map_on ?_ (nodup_paths_of_ok h)
    intro path hpath other hother heq
    obtain ⟨e, he, rfl⟩ := List.mem_map.1 hpath
    obtain ⟨e', he', rfl⟩ := List.mem_map.1 hother
    exact ((hentry e he).place_inj (hentry e' he')).1 heq
  · intro name hname other hother
    obtain ⟨e, he, rfl⟩ := List.mem_map.1 hname
    obtain ⟨e', he', rfl⟩ := List.mem_map.1 hother
    rw [(hentry e' he').location_target]
    exact (hentry e he).location_sibling_ne_place (hentry e' he')

/-- A frontend with a certificate that is called by a dot, and a mapping without a name. -/
def dottedFrontend : FrontendRecord :=
  .plain (some "edge") "web"
    { Spec.Frontend.none with
      binds := [.encrypted (.withCertificate ⟨".", some "one", []⟩) none]
      switching := [⟨⟨none, none⟩, ⟨none, some ⟨"", "path", .all⟩⟩⟩] }

/-- Names that are little more than their extension have places of their own as well. -/
theorem targets_are_names_dotted :
    let store : Store := fun _ => .ok none
    let i : InstanceRecord := .plain (some "edge") "fleet" (.withCertificate "web" "two")
    let records : Records := ⟨[], [dottedFrontend], [], []⟩
    ∃ (set : ArtifactSet) (names : List String), (run store .never i records).result = .ok set ∧
      set.entries.map (fun e => target? "/out/" e.1) =
        ["/out/..crt", "/out/.map", "/out/web.crt", "/out/haproxy.cfg"].map some ∧
      set.entries.map (fun e => target? "/out/" e.1) =
        names.map (fun name => some (join "/out/" name)) ∧
      (∀ name ∈ names, PathText.parts (join "/out/" name) = [.root, .name "out", .name name]) ∧
      (names.map (fun name => location (join "/out/" name))).Nodup := by
  intro store i records
  have htargets : (run store .never i records).result.map (fun set =>
      set.entries.map (fun e => target? "/out/" e.1)) =
      .ok (["/out/..crt", "/out/.map", "/out/web.crt", "/out/haproxy.cfg"].map some) := by cbv
  obtain ⟨set, hset, htargets⟩ := Check.map_eq_ok_iff.1 htargets
  obtain ⟨names, hnames, hparts, hnodup, -⟩ := targets_are_names hset "/out/"
  refine ⟨set, names, hset, htargets, hnames, fun name hname => ?_, hnodup⟩
  exact (hparts name hname).2

end Pass

end ProxyFleet
