import ProxyFleet.Proofs.Places

/-!
# What a write leaves behind

An artifact set is written file by file, and a write may stop after any of its steps.

**Steps.**  A step changes nothing at the locations that it does not touch, but may make folders
where nothing stands (`WriteStep.grows_run`), even if it is broken off.  So does a row of steps
(`WriteStep.grows_runAll`), and rows compose (`WriteStep.runAll_append`).

**Files.**  The steps that write one file either put its content in its place and leave nothing
beside it (`Directory.get?_of_fileSteps_ok`), or leave its place as it is and perhaps the beginning
of its content beside it (`Directory.grows_of_fileSteps_error`).  Elsewhere they may make folders
(`Directory.grows_fileSteps`), also in its place if the path of the directory leads through there,
but then they fail (`Directory.not_leadsThrough_of_fileSteps_ok`).

**Sets.**  Hence a write puts the first few entries in their places, and no more
(`Directory.file?_runAll_entries`).  `Directory.placed` says which ones.
-/

namespace ProxyFleet

open PathText (Location location join names follow LeadsOn LeadsThrough)

/-! ## Files in a tree -/

namespace FileTree

/-- The content of the file at a location. -/
def file? (t : FileTree) (k : Location) : Option String :=
  match t.get? k with
  | some (.file content) => some content
  | _ => none

lemma file?_eq_some_iff {t : FileTree} {k : Location} {content : String} :
    t.file? k = some content ↔ t.get? k = some (.file content) := by
  rw [file?]
  rcases t.get? k with _ | _ | _ <;> simp

/-! ## What stays at a location -/

/-- Whether a location holds what it held, or a folder now where nothing stood, which can only be
where folders are made. -/
def Grows (t u : FileTree) (k : Location) (made : Prop) : Prop :=
  u.get? k = t.get? k ∨ made ∧ t.get? k = none ∧ u.get? k = some .folder

variable {t u v : FileTree} {k : Location} {made : Prop}

lemma grows_refl : Grows t t k made := .inl rfl

lemma Grows.trans (h : Grows t u k made) (h' : Grows u v k made) : Grows t v k made := by
  rcases h' with heq | ⟨hmade, hnone, hfolder⟩
  · rw [Grows, heq]
    exact h
  · rcases h with heq | ⟨-, -, hfolder'⟩
    · exact .inr ⟨hmade, heq ▸ hnone, hfolder⟩
    · rw [hfolder'] at hnone
      cases hnone

lemma Grows.mono {made' : Prop} (h : Grows t u k made) (himp : made → made') :
    Grows t u k made' :=
  h.imp_right fun ⟨hmade, hrest⟩ => ⟨himp hmade, hrest⟩

/-- Nothing happens where no folders are made. -/
lemma Grows.get?_eq (h : Grows t u k made) (hmade : ¬made) : u.get? k = t.get? k :=
  h.resolve_right fun ⟨hmade', _⟩ => hmade hmade'

/-- What stands at a location stays there. -/
lemma Grows.get?_of_some {n : Node} (h : Grows t u k made) (hn : t.get? k = some n) :
    u.get? k = some n := by
  rcases h with heq | ⟨-, hnone, -⟩
  · rw [heq, hn]
  · rw [hn] at hnone
    cases hnone

/-- A new folder takes no file's place. -/
lemma Grows.file?_eq (h : Grows t u k made) : u.file? k = t.file? k := by
  rcases h with heq | ⟨-, hnone, hfolder⟩
  · rw [file?, file?, heq]
  · rw [file?, file?, hnone, hfolder]

/-- A folder is there already, or is put where nothing stood. -/
lemma makeFolder_cases {l : Location} (h : t.makeFolder l = some u) :
    (t.get? l = some .folder ∧ u = t) ∨ (t.get? l = none ∧ l ≠ [] ∧ u = t.insert l .folder) := by
  rw [makeFolder] at h
  cases hl : t.get? l with
  | some n =>
    rw [hl] at h
    cases n with
    | file content => cases h
    | folder =>
      cases h
      exact .inl ⟨rfl, rfl⟩
  | none =>
    rw [hl] at h
    simp only at h
    split at h
    · rename_i hroom
      cases h
      exact .inr ⟨rfl, ne_nil_of_hasRoomAt hroom, rfl⟩
    · cases h

lemma grows_makeFolder {l : Location} (h : t.makeFolder l = some u) (k : Location) :
    Grows t u k (k = l) := by
  rcases makeFolder_cases h with ⟨-, rfl⟩ | ⟨hnone, hne, rfl⟩
  · exact grows_refl
  · have hget := get?_insert t hne .folder k
    by_cases hk : k = l
    · rw [if_pos hk] at hget
      exact .inr ⟨hk, hk ▸ hnone, hget⟩
    · rw [if_neg hk] at hget
      exact .inl hget

lemma get?_of_makeFolder {l : Location} (h : t.makeFolder l = some u) :
    u.get? l = some .folder := by
  rcases makeFolder_cases h with ⟨hfolder, rfl⟩ | ⟨-, hne, rfl⟩
  · exact hfolder
  · rw [get?_insert t hne, if_pos rfl]

/-- Folders are made where the first names lead, whether all of them can be made or not. -/
lemma grows_makeFolders (t : FileTree) (l : Location) (row : List String) (k : Location) :
    Grows t (t.makeFolders l row).1 k (∃ front, front <+: row ∧ k = front.foldl follow l) := by
  induction row generalizing t l with
  | nil => exact grows_refl
  | cons name rest ih =>
    rw [makeFolders]
    cases hmake : t.makeFolder (follow l name) with
    | none => exact grows_refl
    | some u =>
      refine ((grows_makeFolder hmake k).mono ?_).trans ((ih u (follow l name)).mono ?_)
      · rintro rfl
        exact ⟨[name], ⟨rest, rfl⟩, rfl⟩
      · rintro ⟨front, hfront, rfl⟩
        exact ⟨name :: front, (List.prefix_cons_inj name).2 hfront, rfl⟩

/-- If all of them can be made, they are there. -/
lemma get?_of_makeFolders {l : Location} {row front : List String}
    (h : t.makeFolders l row = (u, true)) (hfront : front <+: row) (hl : t.get? l = some .folder) :
    u.get? (front.foldl follow l) = some .folder := by
  induction row generalizing t l front with
  | nil =>
    cases h
    rw [List.prefix_nil.1 hfront]
    exact hl
  | cons name rest ih =>
    cases front with
    | nil =>
      have hgrows := grows_makeFolders t l (name :: rest) l
      rw [h] at hgrows
      exact hgrows.get?_of_some hl
    | cons name' front =>
      obtain ⟨rfl, hrest⟩ := List.cons_prefix_cons.1 hfront
      rw [makeFolders] at h
      cases hmake : t.makeFolder (follow l name') with
      | none =>
        rw [hmake] at h
        cases h
      | some v =>
        rw [hmake] at h
        rw [List.foldl_cons]
        exact ih h hrest (get?_of_makeFolder hmake)

/-- Only a file can be renamed. -/
lemma exists_file_of_rename {source target : Location} (h : t.rename source target = some u) :
    ∃ content, t.get? source = some (.file content) := by
  rw [rename] at h
  split at h
  · exact ⟨_, by assumption⟩
  · cases h

end FileTree

namespace WriteStep

variable {t u : FileTree} {k : Location} {s : WriteStep}

/-! ## Single steps -/

/-- Whether a step may change the file at a location. -/
def touches (k : Location) : WriteStep → Prop
  | .refuse _ _ | .makeFolders _ => False
  | .writeFile path _ => k = location path
  | .rename source target => k = location source ∨ k = location target

/-- Whether a step may make a folder at a location. -/
def makes (k : Location) : WriteStep → Prop
  | .makeFolders path => LeadsThrough path k
  | .refuse _ _ | .writeFile _ _ | .rename _ _ => False

/-- A file is written, or the tree stays as it is. -/
lemma run_writeFile_cases (t : FileTree) (path content : String) :
    (writeFile path content).run t = (t, false) ∨
      ∃ u, t.writeFile (location path) content = some u ∧
        (writeFile path content).run t = (u, true) := by
  simp only [run]
  split
  · cases t.writeFile (location path) content with
    | none => exact .inl rfl
    | some u => exact .inr ⟨u, rfl, rfl⟩
  · exact .inl rfl

/-- A file is renamed, or the tree stays as it is. -/
lemma run_rename_cases (t : FileTree) (source target : String) :
    (rename source target).run t = (t, false) ∨
      ∃ u, t.rename (location source) (location target) = some u ∧
        (rename source target).run t = (u, true) := by
  simp only [run]
  split
  · cases t.rename (location source) (location target) with
    | none => exact .inl rfl
    | some u => exact .inr ⟨u, rfl, rfl⟩
  · exact .inl rfl

/-- **A step changes nothing that it does not touch**, but may make folders. -/
lemma grows_run (h : ¬s.touches k) : t.Grows (s.run t).1 k (s.makes k) := by
  cases s with
  | refuse path directory => exact FileTree.grows_refl
  | makeFolders path =>
    simp only [run]
    split
    · exact FileTree.grows_makeFolders t [] (names path) k
    · exact FileTree.grows_refl
  | writeFile path content =>
    rcases run_writeFile_cases t path content with heq | ⟨u, hw, heq⟩
    · rw [heq]
      exact FileTree.grows_refl
    · have hne : k ≠ location path := h
      rw [heq]
      exact .inl (by rw [FileTree.get?_writeFile hw, if_neg hne])
  | rename source target =>
    obtain ⟨hsource, htarget⟩ := not_or.1 h
    rcases run_rename_cases t source target with heq | ⟨u, hr, heq⟩
    · rw [heq]
      exact FileTree.grows_refl
    · obtain ⟨content, hcontent⟩ := FileTree.exists_file_of_rename hr
      rw [heq]
      exact .inl (by rw [FileTree.get?_rename hcontent hr, if_neg htarget, if_neg hsource])

/-- Nor does a step that is broken off. -/
lemma grows_runPartly (h : ¬s.touches k) (reach : Nat) :
    t.Grows (s.runPartly t reach) k (s.makes k) := by
  cases s with
  | refuse path directory => exact FileTree.grows_refl
  | makeFolders path =>
    simp only [runPartly]
    split
    · exact (FileTree.grows_makeFolders t [] _ k).mono fun ⟨front, hfront, hk⟩ =>
        ⟨front, hfront.trans (List.take_prefix _ _), hk⟩
    · exact FileTree.grows_refl
  | writeFile path content =>
    cases reach with
    | zero => exact FileTree.grows_refl
    | succ reach =>
      have hpart : ¬(writeFile path (String.ofList (content.toList.take reach))).touches k := h
      exact grows_run hpart
  | rename source target => exact FileTree.grows_refl

/-- A path leads through folders once these are made. -/
lemma get?_of_run_makeFolders {path : String} (h : (makeFolders path).run t = (u, true))
    (hk : LeadsThrough path k) : u.get? k = some .folder := by
  simp only [run] at h
  split at h
  · obtain ⟨front, hfront, rfl⟩ := hk
    exact FileTree.get?_of_makeFolders h hfront t.get?_base
  · cases h

lemma writeFile_of_run {path content : String} (h : (writeFile path content).run t = (u, true)) :
    t.writeFile (location path) content = some u := by
  rcases run_writeFile_cases t path content with heq | ⟨v, hw, heq⟩
  · rw [heq] at h
    cases h
  · rw [heq] at h
    cases h
    exact hw

lemma rename_of_run {source target : String} (h : (rename source target).run t = (u, true)) :
    t.rename (location source) (location target) = some u := by
  rcases run_rename_cases t source target with heq | ⟨v, hr, heq⟩
  · rw [heq] at h
    cases h
  · rw [heq] at h
    cases h
    exact hr

/-- A file that was written has the content that was written. -/
lemma get?_of_run_writeFile {path content : String}
    (h : (writeFile path content).run t = (u, true)) :
    u.get? (location path) = some (.file content) := by
  rw [FileTree.get?_writeFile (writeFile_of_run h), if_pos rfl]

/-- No file is written where a folder stands. -/
lemma get?_ne_of_run_writeFile {path content : String}
    (h : (writeFile path content).run t = (u, true)) : t.get? (location path) ≠ some .folder := by
  have hwrite := writeFile_of_run h
  intro hfolder
  simp [FileTree.writeFile, FileTree.isFolder, hfolder] at hwrite

/-- Where a file is written there is what was there, or the file. -/
lemma get?_run_writeFile (path content : String) :
    ((writeFile path content).run t).1.get? (location path) = t.get? (location path) ∨
      ((writeFile path content).run t).1.get? (location path) = some (.file content) := by
  rcases run_writeFile_cases t path content with heq | ⟨u, hw, heq⟩
  · rw [heq]
    exact .inl rfl
  · rw [heq]
    exact .inr (by rw [FileTree.get?_writeFile hw, if_pos rfl])

/-- A file that was renamed has kept its content, and nothing stands where it stood. -/
lemma get?_of_run_rename {source target content : String}
    (hs : t.get? (location source) = some (.file content))
    (h : (rename source target).run t = (u, true)) (k : Location) :
    u.get? k = if k = location target then some (.file content)
      else if k = location source then none else t.get? k :=
  FileTree.get?_rename hs (rename_of_run h) k

/-- Nor is it put there. -/
lemma get?_ne_of_run_rename {source target : String}
    (h : (rename source target).run t = (u, true)) : t.get? (location target) ≠ some .folder := by
  have hrename := rename_of_run h
  obtain ⟨content, hcontent⟩ := FileTree.exists_file_of_rename hrename
  intro hfolder
  simp [FileTree.rename, FileTree.isFolder, hcontent, hfolder] at hrename

/-- A file that cannot be renamed stays where it is. -/
lemma tree_of_run_rename {source target : String} (h : (rename source target).run t = (u, false)) :
    u = t := by
  rcases run_rename_cases t source target with heq | ⟨v, -, heq⟩
  · rw [heq] at h
    cases h
    rfl
  · rw [heq] at h
    cases h

end WriteStep

/-- Where a row is broken off once its first steps are taken. -/
def Interruption.skip (n : Nat) : Interruption → Interruption
  | .never => .never
  | .after steps reach => .after (steps - n) reach

lemma Interruption.skip_zero (i : Interruption) : i.skip 0 = i := by
  cases i <;> rfl

lemma Interruption.rest_skip (i : Interruption) (n : Nat) : i.rest.skip n = i.skip (n + 1) := by
  cases i with
  | never => rfl
  | after steps reach =>
    have hsteps : steps - 1 - n = steps - (n + 1) := by omega
    simp only [rest, skip, hsteps]

namespace WriteStep

variable {i : Interruption} {t u : FileTree} {k : Location} {s : WriteStep}
  {l r rest : List WriteStep}

/-! ## Rows of steps -/

/-- A single step is broken off, or fails, or succeeds. -/
lemma runAll_singleton_cases (i : Interruption) (t : FileTree) (s : WriteStep) :
    (∃ reach, runAll i t [s] = ⟨s.runPartly t reach, .error s.fault⟩) ∨
      (∃ u, s.run t = (u, false) ∧ runAll i t [s] = ⟨u, .error s.fault⟩) ∨
      (∃ u, s.run t = (u, true) ∧ runAll i t [s] = ⟨u, .ok ()⟩) := by
  by_cases hi : ∃ reach, i = .after 0 reach
  · obtain ⟨reach, rfl⟩ := hi
    exact .inl ⟨reach, rfl⟩
  · rw [runAll]
    · rcases s.run t with ⟨u, _ | _⟩
      · exact .inr (.inl ⟨u, rfl, rfl⟩)
      · exact .inr (.inr ⟨u, rfl, rfl⟩)
    · exact not_exists.1 hi

/-- **The first step of a row** is taken before the others, which follow unless it fails. -/
lemma runAll_cons (i : Interruption) (t : FileTree) (s : WriteStep) (rest : List WriteStep) :
    runAll i t (s :: rest) = match (runAll i t [s]).result with
      | .ok () => runAll i.rest (runAll i t [s]).tree rest
      | .error _ => runAll i t [s] := by
  by_cases hi : ∃ reach, i = .after 0 reach
  · obtain ⟨reach, rfl⟩ := hi
    rfl
  · have hi' := not_exists.1 hi
    rw [runAll, runAll]
    · rcases s.run t with ⟨u, _ | _⟩ <;> rfl
    · exact hi'
    · exact hi'

/-- When a row succeeds, its first step does, and so do the others after it. -/
lemma runAll_cons_of_ok (h : (runAll i t (s :: rest)).result = .ok ()) :
    ∃ u, s.run t = (u, true) ∧ runAll i t (s :: rest) = runAll i.rest u rest := by
  rw [runAll_cons] at h ⊢
  rcases runAll_singleton_cases i t s with ⟨reach, heq⟩ | ⟨u, hrun, heq⟩ | ⟨u, hrun, heq⟩
  · rw [heq] at h
    cases h
  · rw [heq] at h
    cases h
  · rw [heq]
    exact ⟨u, hrun, rfl⟩

/-- If that is broken off, there may be the beginning of the file. -/
lemma get?_runAll_writeFile (path content : String) :
    (runAll i t [.writeFile path content]).tree.get? (location path) = t.get? (location path) ∨
      ∃ n, (runAll i t [.writeFile path content]).tree.get? (location path) =
        some (.file (String.ofList (content.toList.take n))) := by
  have hwhole : String.ofList (content.toList.take content.toList.length) = content := by simp
  have hrun := get?_run_writeFile (t := t) path content
  rcases runAll_singleton_cases i t (.writeFile path content) with ⟨reach, heq⟩ | ⟨u, hu, heq⟩ |
    ⟨u, hu, heq⟩
  · rw [heq]
    cases reach with
    | zero => exact .inl rfl
    | succ n =>
      exact (get?_run_writeFile path (String.ofList (content.toList.take n))).imp_right
        fun hpart => ⟨n, hpart⟩
  · rw [heq]
    rw [hu] at hrun
    exact hrun.imp_right fun hfile => ⟨_, hwhole.symm ▸ hfile⟩
  · rw [heq]
    rw [hu] at hrun
    exact hrun.imp_right fun hfile => ⟨_, hwhole.symm ▸ hfile⟩

/-- Two rows of steps are taken one after the other, unless the first one fails. -/
lemma runAll_append (i : Interruption) (t : FileTree) (l r : List WriteStep) :
    runAll i t (l ++ r) = match (runAll i t l).result with
      | .ok () => runAll (i.skip l.length) (runAll i t l).tree r
      | .error _ => runAll i t l := by
  induction l generalizing i t with
  | nil => rw [List.nil_append, runAll, List.length_nil, Interruption.skip_zero]
  | cons s l ih =>
    rw [List.cons_append, runAll_cons, runAll_cons i t s l, ih, List.length_cons,
      Interruption.rest_skip]
    cases hfirst : (runAll i t [s]).result with
    | ok => rfl
    | error fault => simp only [hfirst]

/-- **A row of steps changes nothing that none of them touches**, but may make folders. -/
lemma grows_runAll (h : ∀ s ∈ l, ¬s.touches k) :
    t.Grows (runAll i t l).tree k (∃ s ∈ l, s.makes k) := by
  induction l generalizing i t with
  | nil => exact FileTree.grows_refl
  | cons s rest ih =>
    have hs := h s List.mem_cons_self
    have hfirst : s.makes k → ∃ s' ∈ s :: rest, s'.makes k :=
      fun hmakes => ⟨s, List.mem_cons_self, hmakes⟩
    have hrest : (∃ s' ∈ rest, s'.makes k) → ∃ s' ∈ s :: rest, s'.makes k :=
      fun ⟨s', hs', hmakes⟩ => ⟨s', List.mem_cons_of_mem _ hs', hmakes⟩
    have hrun := (grows_run (t := t) hs).mono hfirst
    rw [runAll_cons]
    rcases runAll_singleton_cases i t s with ⟨reach, heq⟩ | ⟨u, hu, heq⟩ | ⟨u, hu, heq⟩
    · rw [heq]
      exact (grows_runPartly hs reach).mono hfirst
    · rw [heq]
      rw [hu] at hrun
      exact hrun
    · rw [heq]
      rw [hu] at hrun
      exact hrun.trans ((ih fun s' hs' => h s' (List.mem_cons_of_mem _ hs')).mono hrest)

/-- Of things that are done one after another, each by a row of steps, those that are done before
one of them fails. -/
def completed {α : Type} (steps : α → List WriteStep) :
    Interruption → FileTree → List α → List α
  | _, _, [] => []
  | i, t, a :: rest =>
    match (runAll i t (steps a)).result with
    | .ok () => a :: completed steps (i.skip (steps a).length) (runAll i t (steps a)).tree rest
    | .error _ => []

/-- If nothing fails, all of them are done. -/
lemma completed_of_ok {α : Type} {steps : α → List WriteStep} {todo : List α}
    (h : (runAll i t (todo.flatMap steps)).result = .ok ()) : completed steps i t todo = todo := by
  induction todo generalizing i t with
  | nil => rfl
  | cons a rest ih =>
    rw [List.flatMap_cons, runAll_append] at h
    rw [completed]
    cases ha : (runAll i t (steps a)).result with
    | error fault =>
      simp only [ha] at h
      cases h
    | ok =>
      simp only [ha] at h ⊢
      rw [ih h]

/-- A file that cannot be renamed stays where it is. -/
lemma tree_of_rename_error {source target : String} {fault : WriteFault}
    (h : (runAll i t [.rename source target]).result = .error fault) :
    (runAll i t [.rename source target]).tree = t := by
  rcases runAll_singleton_cases i t (.rename source target) with ⟨reach, heq⟩ | ⟨u, hu, heq⟩ |
    ⟨u, hu, heq⟩
  · rw [heq]
    rfl
  · rw [heq]
    exact tree_of_run_rename hu
  · rw [heq] at h
    cases h

end WriteStep

namespace Directory

variable {i : Interruption} {t : FileTree} {directory path other content : String} {k : Location}
  {s : WriteStep}

/-! ## Files -/

/-- Where the file with a path stands. -/
def standing (directory path : String) : Location := location (join directory (relative path))

/-- Where it waits before it is put there. -/
def waiting (directory path : String) : Location :=
  location (sibling (join directory (relative path)))

/-- The steps before a file is put in its place. -/
def preparation (directory path content : String) : List WriteStep :=
  [.makeFolders (PathText.parent (join directory (relative path))),
    .writeFile (sibling (join directory (relative path))) content]

lemma fileSteps_eq (h : LeadsOn (relative path)) : fileSteps directory path content =
    preparation directory path content ++
      [.rename (sibling (join directory (relative path))) (join directory (relative path))] := by
  have htarget := target?_of_leadsOn h directory
  unfold fileSteps
  rw [htarget, preparation]
  generalize join directory (relative path) = target
  rfl

/-- The steps that write a file whose path leads on from the directory, or the refusal. -/
lemma mem_fileSteps (hs : s ∈ fileSteps directory path content) :
    s = .refuse path directory ∨ LeadsOn (relative path) ∧
      (s = .makeFolders (PathText.parent (join directory (relative path))) ∨
        s = .writeFile (sibling (join directory (relative path))) content ∨
        s = .rename (sibling (join directory (relative path)))
          (join directory (relative path))) := by
  by_cases hleads : LeadsOn (relative path)
  · rw [fileSteps_eq hleads, preparation] at hs
    exact .inr ⟨hleads, by simpa using hs⟩
  · have hnone : target? directory path = none := target?_eq_none_iff.2 hleads
    unfold fileSteps at hs
    rw [hnone] at hs
    exact .inl (List.mem_singleton.1 hs)

/-- No folder is made where the file stands, unless it is on the way to the directory. -/
lemma leadsThrough_standing (h : LeadsOn (relative path))
    (hway : LeadsThrough (PathText.parent (join directory (relative path)))
      (standing directory path)) : LeadsThrough directory (standing directory path) := by
  refine (h.leadsThrough_parent_iff.1 hway).resolve_right ?_
  rintro ⟨rest, hrest, heq⟩
  have hlength := hrest.length_le
  have hne := List.length_pos_of_ne_nil h.names_ne_nil
  rw [standing, h.location_join] at heq
  rw [← List.append_cancel_left heq, List.length_dropLast] at hlength
  omega

/-- Nor where it waits. -/
lemma leadsThrough_waiting (h : LeadsOn (relative path))
    (hway : LeadsThrough (PathText.parent (join directory (relative path)))
      (waiting directory path)) : LeadsThrough directory (waiting directory path) := by
  obtain ⟨front, last, hnames, hlocation⟩ :=
    h.exists_location_append ".tmp" (by decide) (by decide)
  refine (h.leadsThrough_parent_iff.1 hway).resolve_right ?_
  rintro ⟨rest, hrest, heq⟩
  have hlength := hrest.length_le
  have hnames' := congrArg List.length hnames
  rw [waiting, sibling_join, hlocation, List.append_assoc] at heq
  rw [← List.append_cancel_left heq] at hlength
  simp only [List.length_append, List.length_dropLast, List.length_singleton] at hlength hnames'
  split at hnames' <;> simp at hnames' <;> omega

/-- **The steps that write a file** change nothing where it neither stands nor waits, but may make
the folders on the way there. -/
lemma grows_fileSteps (hstanding : k ≠ standing directory path)
    (hwaiting : k ≠ waiting directory path) :
    t.Grows (WriteStep.runAll i t (fileSteps directory path content)).tree k
      (LeadsThrough (PathText.parent (join directory (relative path))) k) := by
  refine (WriteStep.grows_runAll fun s hs htouches => ?_).mono ?_
  · rcases mem_fileSteps hs with rfl | ⟨-, rfl | rfl | rfl⟩
    · exact htouches
    · exact htouches
    · exact hwaiting htouches
    · exact htouches.elim hwaiting hstanding
  · rintro ⟨s, hs, hmakes⟩
    rcases mem_fileSteps hs with rfl | ⟨-, rfl | rfl | rfl⟩
    · exact absurd hmakes id
    · exact hmakes
    · exact absurd hmakes id
    · exact absurd hmakes id

/-- The steps before a file is put in its place leave the place alone. -/
lemma grows_preparation_standing (h : LeadsOn (relative path))
    (hbeside : waiting directory path ≠ standing directory path) :
    t.Grows (WriteStep.runAll i t (preparation directory path content)).tree
      (standing directory path) (LeadsThrough directory (standing directory path)) := by
  have hwrite : ∀ s ∈ preparation directory path content, ¬s.touches (standing directory path) := by
    intro s hs htouches
    simp only [preparation, List.mem_cons, List.not_mem_nil, or_false] at hs
    rcases hs with rfl | rfl
    · exact htouches
    · exact hbeside htouches.symm
  refine (WriteStep.grows_runAll hwrite).mono ?_
  rintro ⟨s, hs, hmakes⟩
  simp only [preparation, List.mem_cons, List.not_mem_nil, or_false] at hs
  rcases hs with rfl | rfl
  · exact leadsThrough_standing h hmakes
  · exact absurd hmakes id

/-- What waits beside the place is what was there, or the beginning of the content. -/
lemma grows_preparation_waiting (h : LeadsOn (relative path)) :
    t.Grows (WriteStep.runAll i t (preparation directory path content)).tree
        (waiting directory path) (LeadsThrough directory (waiting directory path)) ∨
      ∃ n, (WriteStep.runAll i t (preparation directory path content)).tree.get?
        (waiting directory path) = some (.file (String.ofList (content.toList.take n))) := by
  have hfolders : t.Grows (WriteStep.runAll i t
      [.makeFolders (PathText.parent (join directory (relative path)))]).tree
        (waiting directory path) (LeadsThrough directory (waiting directory path)) := by
    refine (WriteStep.grows_runAll fun s hs => ?_).mono ?_
    · rw [List.mem_singleton.1 hs]
      exact id
    · rintro ⟨s, hs, hmakes⟩
      rw [List.mem_singleton.1 hs] at hmakes
      exact leadsThrough_waiting h hmakes
  rw [preparation, WriteStep.runAll_cons]
  cases (WriteStep.runAll i t
      [.makeFolders (PathText.parent (join directory (relative path)))]).result with
  | error fault => exact .inl hfolders
  | ok =>
    exact (WriteStep.get?_runAll_writeFile _ _).imp_left fun heq => hfolders.trans (.inl heq)

/-- If they succeed, all of the content waits there. -/
lemma get?_preparation
    (hok : (WriteStep.runAll i t (preparation directory path content)).result = .ok ()) :
    (WriteStep.runAll i t (preparation directory path content)).tree.get?
      (waiting directory path) = some (.file content) := by
  rw [preparation] at hok ⊢
  obtain ⟨u, -, heq⟩ := WriteStep.runAll_cons_of_ok hok
  rw [heq] at hok ⊢
  obtain ⟨v, hv, heq⟩ := WriteStep.runAll_cons_of_ok hok
  rw [heq]
  exact WriteStep.get?_of_run_writeFile hv

/-- **If all steps succeed**, the file stands in its place, and nothing waits. -/
lemma get?_of_fileSteps_ok (h : LeadsOn (relative path))
    (hbeside : waiting directory path ≠ standing directory path)
    (hok : (WriteStep.runAll i t (fileSteps directory path content)).result = .ok ()) :
    (WriteStep.runAll i t (fileSteps directory path content)).tree.get?
        (standing directory path) = some (.file content) ∧
      (WriteStep.runAll i t (fileSteps directory path content)).tree.get?
        (waiting directory path) = none := by
  rw [fileSteps_eq h, WriteStep.runAll_append] at hok ⊢
  cases hpre : (WriteStep.runAll i t (preparation directory path content)).result with
  | error fault =>
    simp only [hpre] at hok
    cases hok
  | ok =>
    simp only [hpre] at hok ⊢
    have hfile := get?_preparation hpre
    obtain ⟨u, hu, heq⟩ := WriteStep.runAll_cons_of_ok hok
    rw [heq, WriteStep.runAll]
    constructor
    · rw [standing, WriteStep.get?_of_run_rename hfile hu, if_pos rfl]
    · have hne : waiting directory path ≠ location (join directory (relative path)) := hbeside
      rw [WriteStep.get?_of_run_rename hfile hu, if_neg hne, waiting, if_pos rfl]

/-- So the path of the directory leads through neither location: a folder would stand there. -/
lemma not_leadsThrough_of_fileSteps_ok (h : LeadsOn (relative path))
    (hbeside : waiting directory path ≠ standing directory path)
    (hok : (WriteStep.runAll i t (fileSteps directory path content)).result = .ok ()) :
    ¬LeadsThrough directory (standing directory path) ∧
      ¬LeadsThrough directory (waiting directory path) := by
  rw [fileSteps_eq h, preparation, List.cons_append, List.singleton_append] at hok
  obtain ⟨u, hmade, heq⟩ := WriteStep.runAll_cons_of_ok hok
  rw [heq] at hok
  obtain ⟨v, hwritten, heq⟩ := WriteStep.runAll_cons_of_ok hok
  rw [heq] at hok
  obtain ⟨w, hput, -⟩ := WriteStep.runAll_cons_of_ok hok
  have hfolder : ∀ k, LeadsThrough directory k → u.get? k = some .folder := fun k hk =>
    WriteStep.get?_of_run_makeFolders hmade (h.leadsThrough_parent_iff.2 (.inl hk))
  refine ⟨fun hway => ?_, fun hway => ?_⟩
  · have hstays := WriteStep.grows_run (t := u) (k := standing directory path)
      (s := .writeFile (sibling (join directory (relative path))) content) hbeside.symm
    rw [hwritten] at hstays
    exact WriteStep.get?_ne_of_run_rename hput (hstays.get?_of_some (hfolder _ hway))
  · exact WriteStep.get?_ne_of_run_writeFile hwritten (hfolder _ hway)

/-- **If one of them fails**, its place holds what it held, and the beginning of its content may
wait. -/
lemma grows_of_fileSteps_error {fault : WriteFault} (h : LeadsOn (relative path))
    (hbeside : waiting directory path ≠ standing directory path)
    (herror : (WriteStep.runAll i t (fileSteps directory path content)).result = .error fault) :
    t.Grows (WriteStep.runAll i t (fileSteps directory path content)).tree
        (standing directory path) (LeadsThrough directory (standing directory path)) ∧
      (t.Grows (WriteStep.runAll i t (fileSteps directory path content)).tree
          (waiting directory path) (LeadsThrough directory (waiting directory path)) ∨
        ∃ n, (WriteStep.runAll i t (fileSteps directory path content)).tree.get?
          (waiting directory path) = some (.file (String.ofList (content.toList.take n)))) := by
  have hpreparation : (WriteStep.runAll i t (fileSteps directory path content)).tree =
      (WriteStep.runAll i t (preparation directory path content)).tree := by
    rw [fileSteps_eq h, WriteStep.runAll_append] at herror ⊢
    cases hpre : (WriteStep.runAll i t (preparation directory path content)).result with
    | error fault' => rfl
    | ok =>
      simp only [hpre] at herror ⊢
      exact WriteStep.tree_of_rename_error herror
  rw [hpreparation]
  exact ⟨grows_preparation_standing h hbeside, grows_preparation_waiting h⟩

/-! ## Entries -/

/-- An entry waits where no entry has its place. -/
lemma IsEntryPath.waiting_ne_standing (h : IsEntryPath path) (ho : IsEntryPath other) :
    waiting directory path ≠ standing directory other := by
  rw [standing, ho.location_target]
  exact h.location_sibling_ne_place ho

/-- The steps that write an entry leave the files in the places of other entries as they are. -/
lemma file?_of_fileSteps_of_ne (h : IsEntryPath path) (ho : IsEntryPath other)
    (hne : path ≠ other) :
    (WriteStep.runAll i t (fileSteps directory path content)).tree.file? (place directory other) =
      t.file? (place directory other) := by
  have hstanding : place directory other ≠ standing directory path := by
    rw [standing, h.location_target, Ne, ho.place_inj h]
    exact hne.symm
  have hwaiting : place directory other ≠ waiting directory path :=
    (h.location_sibling_ne_place ho).symm
  exact (grows_fileSteps hstanding hwaiting).file?_eq

/-- If all of them succeed, the entry is in its place. -/
lemma file?_of_fileSteps_ok (h : IsEntryPath path) (ho : IsEntryPath other)
    (hok : (WriteStep.runAll i t (fileSteps directory path content)).result = .ok ()) :
    (WriteStep.runAll i t (fileSteps directory path content)).tree.file? (place directory other) =
      if path = other then some content else t.file? (place directory other) := by
  split
  · rename_i hpath
    subst hpath
    rw [FileTree.file?_eq_some_iff, ← h.location_target]
    exact (get?_of_fileSteps_ok h.leadsOn (h.waiting_ne_standing h) hok).1
  · rename_i hne
    exact file?_of_fileSteps_of_ne h ho hne

/-- If one of them fails, they leave all places as they were. -/
lemma file?_of_fileSteps_error {fault : WriteFault} (h : IsEntryPath path) (ho : IsEntryPath other)
    (herror : (WriteStep.runAll i t (fileSteps directory path content)).result = .error fault) :
    (WriteStep.runAll i t (fileSteps directory path content)).tree.file? (place directory other) =
      t.file? (place directory other) := by
  by_cases hpath : path = other
  · subst hpath
    rw [← h.location_target]
    exact (grows_of_fileSteps_error h.leadsOn (h.waiting_ne_standing h) herror).1.file?_eq
  · exact file?_of_fileSteps_of_ne h ho hpath

/-! ## Sets -/

/-- The entries that a write puts in their places: those before the first one that fails. -/
def placed (directory : String) (i : Interruption) (t : FileTree)
    (entries : List (String × String)) : List (String × String) :=
  WriteStep.completed (fun e => fileSteps directory e.1 e.2) i t entries

/-- **What a write leaves behind.**  A place holds the content of the last entry for it that was put
there, or what it held before. -/
lemma file?_runAll_entries {entries : List (String × String)}
    (h : ∀ e ∈ entries, IsEntryPath e.1) (ho : IsEntryPath other) :
    (WriteStep.runAll i t (entries.flatMap (fun e => fileSteps directory e.1 e.2))).tree.file?
        (place directory other) =
      (latest other (placed directory i t entries)).or (t.file? (place directory other)) := by
  induction entries generalizing i t with
  | nil => rfl
  | cons e rest ih =>
    have he := h e List.mem_cons_self
    rw [placed, List.flatMap_cons, WriteStep.runAll_append, WriteStep.completed]
    cases hw : (WriteStep.runAll i t (fileSteps directory e.1 e.2)).result with
    | error fault =>
      simp only
      rw [file?_of_fileSteps_error he ho hw]
      rfl
    | ok =>
      simp only
      rw [ih fun e' he' => h e' (List.mem_cons_of_mem _ he'), file?_of_fileSteps_ok he ho hw,
        latest_cons, placed]
      split
      · rw [Option.or_assoc, Option.some_or]
      · rw [Option.or_none]

end Directory

end ProxyFleet
