import ProxyFleet.Proofs.Confinement

/-!
# Old or new content

What an artifact set leaves behind that is written in part, if its files have names of their own.

**Locations.**  A file stands in its place, and waits beside it before that.  If the files come to
names of their own (`Directory.Apart`), no two of these locations are the same
(`Directory.Apart.clear`).

**Ways.**  Folders that are missing are made wherever the path of the directory leads through
(`Directory.Keeps`).  It leads through a place only if it leads back from there, as in `web.crt/..`
(`Directory.not_leadsThrough_of_not_mem`), and then that file cannot be written.

**Sets.**  The steps that write one of the files change nothing else where another one stands or
waits (`Directory.keeps_fileSteps_of_mem`).  So the entries of a set are done one after the other,
and none is half done (`Directory.wentThrough_placed`).  Since a write may be broken off wherever it
goes through (`WriteStep.GoesThrough.exists_interruption`), this holds while it goes on as well.

Main statement: `ArtifactSet.write_replaces_in_order`.
-/

namespace ProxyFleet

open PathText (Location location join names LeadsOn LeadsThrough)

namespace Directory

variable {directory path content : String} {k : Location} {i : Interruption} {t u : FileTree}
  {entries : List (String × String)}

/-! ## Locations -/

/-- Whether each of several files comes to a single name, no two of them to the same one, and none
to that of another with `.tmp` behind it. -/
structure Apart (entries : List (String × String)) : Prop where
  single : ∀ e ∈ entries, ∃ name, PathText.parts (relative e.1) = [.name name]
  distinct : (entries.map (fun e => PathText.parts (relative e.1))).Nodup
  not_tmp : ∀ e ∈ entries, ∀ f ∈ entries, ∀ name,
    PathText.parts (relative e.1) = [.name name] →
      PathText.parts (relative f.1) ≠ [.name (name ++ ".tmp")]

/-- Whether several files stand and wait at locations of their own. -/
structure Clear (directory : String) (entries : List (String × String)) : Prop where
  leadsOn : ∀ e ∈ entries, LeadsOn (relative e.1)
  /-- No folder is made in the directory. -/
  held : ∀ e ∈ entries, ∀ k, LeadsThrough (PathText.parent (join directory (relative e.1))) k →
    LeadsThrough directory k
  beside : ∀ e ∈ entries, ∀ f ∈ entries, waiting directory e.1 ≠ standing directory f.1
  stand_apart : entries.Pairwise (fun e f => standing directory e.1 ≠ standing directory f.1)
  wait_apart : entries.Pairwise (fun e f => waiting directory e.1 ≠ waiting directory f.1)

section Single

variable {name : String} (h : PathText.parts (relative path) = [.name name])
include h

lemma leadsOn_of_single : LeadsOn (relative path) := by
  rw [LeadsOn, h]
  exact ⟨by simp, by simp [PathText.isName]⟩

lemma names_of_single : names (relative path) = [name] := by
  have hparts := (leadsOn_of_single h).parts_eq
  rw [h] at hparts
  obtain ⟨name', hnames, heq⟩ := List.map_eq_singleton_iff.1 hparts.symm
  cases heq
  exact hnames

lemma standing_of_single (directory : String) :
    standing directory path = location directory ++ [name] := by
  rw [standing, (leadsOn_of_single h).location_join, names_of_single h]

/-- A file waits beside its place, or, if its path ends in blank pieces, below it. -/
lemma waiting_of_single (directory : String) :
    waiting directory path = location directory ++ [name ++ ".tmp"] ∨
      ∃ inner, waiting directory path = location directory ++ [name, inner] := by
  obtain ⟨front, last, hnames, hlocation⟩ :=
    (leadsOn_of_single h).exists_location_append ".tmp" (by decide) (by decide)
  rw [names_of_single h] at hnames
  rw [waiting, sibling_join, hlocation, List.append_assoc]
  split at hnames
  · rw [List.append_nil] at hnames
    exact .inr ⟨last ++ ".tmp", by rw [← hnames, List.singleton_append]⟩
  · obtain ⟨hfront, hlast⟩ := List.append_eq_singleton_iff.1 hnames.symm |>.resolve_right (by simp)
    cases hlast
    exact .inl (by rw [hfront, List.nil_append])

end Single

section Pair

variable {other name name' : String} (h : PathText.parts (relative path) = [.name name])
  (h' : PathText.parts (relative other) = [.name name'])
include h h'

/-- Files that stand at one location come to one name. -/
lemma name_eq_of_standing_eq (heq : standing directory path = standing directory other) :
    name = name' := by
  rw [standing_of_single h, standing_of_single h'] at heq
  exact List.singleton_inj.1 (List.append_cancel_left heq)

/-- A file that waits where another one stands has that name without `.tmp`. -/
lemma tmp_eq_of_waiting_eq_standing
    (heq : waiting directory path = standing directory other) : name ++ ".tmp" = name' := by
  rw [standing_of_single h'] at heq
  rcases waiting_of_single h directory with hbeside | ⟨inner, hbelow⟩
  · rw [hbeside] at heq
    exact List.singleton_inj.1 (List.append_cancel_left heq)
  · rw [hbelow] at heq
    simp at heq

/-- Files that wait at one location come to one name. -/
lemma name_eq_of_waiting_eq (heq : waiting directory path = waiting directory other) :
    name = name' := by
  rcases waiting_of_single h directory with hbeside | ⟨inner, hbelow⟩
  · rcases waiting_of_single h' directory with hbeside' | ⟨inner', hbelow'⟩
    · rw [hbeside, hbeside'] at heq
      have htmp := congrArg String.toList (List.singleton_inj.1 (List.append_cancel_left heq))
      rw [String.toList_append, String.toList_append] at htmp
      exact String.toList_inj.1 (List.append_cancel_right htmp)
    · rw [hbeside, hbelow'] at heq
      simp at heq
  · rcases waiting_of_single h' directory with hbeside' | ⟨inner', hbelow'⟩
    · rw [hbelow, hbeside'] at heq
      simp at heq
    · rw [hbelow, hbelow'] at heq
      exact (List.cons_eq_cons.1 (List.append_cancel_left heq)).1

end Pair

/-- **Names of their own are locations of their own.** -/
lemma Apart.clear (h : Apart entries) (directory : String) : Clear directory entries := by
  have hnodup : entries.Nodup := h.distinct.of_map
  have hname : ∀ e ∈ entries, ∀ f ∈ entries, e ≠ f → ∀ name name',
      PathText.parts (relative e.1) = [.name name] →
        PathText.parts (relative f.1) = [.name name'] → name ≠ name' := by
    rintro e he f hf hne name name' hename hfname rfl
    exact hne (List.inj_on_of_nodup_map h.distinct he hf (hename.trans hfname.symm))
  constructor
  case leadsOn =>
    intro e he
    obtain ⟨name, hename⟩ := h.single e he
    exact leadsOn_of_single hename
  case held =>
    intro e he k hway
    obtain ⟨name, hename⟩ := h.single e he
    rcases (leadsOn_of_single hename).leadsThrough_parent_iff.1 hway with hway | ⟨r, hr, rfl⟩
    · exact hway
    · rw [names_of_single hename, List.dropLast_singleton, List.prefix_nil] at hr
      exact ⟨names directory, List.prefix_rfl, by rw [hr, List.append_nil, location]⟩
  case beside =>
    intro e he f hf heq
    obtain ⟨name, hename⟩ := h.single e he
    obtain ⟨name', hfname⟩ := h.single f hf
    have htmp := tmp_eq_of_waiting_eq_standing hename hfname heq
    exact h.not_tmp e he f hf name hename (by rw [hfname, htmp])
  case stand_apart =>
    refine hnodup.pairwise_of_forall_ne fun e he f hf hne heq => ?_
    obtain ⟨name, hename⟩ := h.single e he
    obtain ⟨name', hfname⟩ := h.single f hf
    exact hname e he f hf hne name name' hename hfname (name_eq_of_standing_eq hename hfname heq)
  case wait_apart =>
    refine hnodup.pairwise_of_forall_ne fun e he f hf hne heq => ?_
    obtain ⟨name, hename⟩ := h.single e he
    obtain ⟨name', hfname⟩ := h.single f hf
    exact hname e he f hf hne name name' hename hfname (name_eq_of_waiting_eq hename hfname heq)

/-- The rest of such files do so, and none of them is where the first one stands or waits. -/
lemma clear_cons {e : String × String} {rest : List (String × String)}
    (h : Clear directory (e :: rest)) : Clear directory rest ∧ ∀ f ∈ rest,
      standing directory e.1 ≠ standing directory f.1 ∧
        standing directory e.1 ≠ waiting directory f.1 ∧
        waiting directory e.1 ≠ standing directory f.1 ∧
        waiting directory e.1 ≠ waiting directory f.1 := by
  obtain ⟨hstanding, hstanding'⟩ := List.pairwise_cons.1 h.stand_apart
  obtain ⟨hwaiting, hwaiting'⟩ := List.pairwise_cons.1 h.wait_apart
  refine ⟨⟨fun f hf => h.leadsOn f (List.mem_cons_of_mem _ hf),
    fun f hf => h.held f (List.mem_cons_of_mem _ hf),
    fun f hf g hg => h.beside f (List.mem_cons_of_mem _ hf) g (List.mem_cons_of_mem _ hg),
    hstanding', hwaiting'⟩, fun f hf => ⟨hstanding f hf, ?_, ?_, hwaiting f hf⟩⟩
  · exact (h.beside f (List.mem_cons_of_mem _ hf) e List.mem_cons_self).symm
  · exact h.beside e List.mem_cons_self f (List.mem_cons_of_mem _ hf)

/-! ## Ways -/

/-- Whether a location holds what it held, or a folder now where nothing stood, which can only be
where the path of the directory leads through.  Either way a file is the same. -/
def Keeps (directory : String) (t u : FileTree) (k : Location) : Prop :=
  t.Grows u k (LeadsThrough directory k)

/-- The path of a directory that does not lead back does not lead through what lies below it. -/
lemma not_leadsThrough_of_not_mem (hdirectory : ".." ∉ names directory)
    (h : FileTree.isBelow (location directory) k = true) : ¬LeadsThrough directory k := by
  obtain ⟨rest, hrest, rfl⟩ := FileTree.isBelow_iff.1 h
  rw [PathText.leadsThrough_iff_of_not_mem hdirectory]
  intro hprefix
  have hlength := hprefix.length_le
  rw [List.length_append] at hlength
  exact hrest (List.length_eq_zero_iff.1 (by omega))

end Directory

/-! ## Runs -/

namespace WriteStep

variable {i : Interruption} {t v : FileTree} {l : List WriteStep}

/-- A row of steps succeeds, or one of them fails. -/
lemma runAll_result_cases (i : Interruption) (t : FileTree) (l : List WriteStep) :
    (runAll i t l).result = .ok () ∨ ∃ s ∈ l, (runAll i t l).result = .error s.fault := by
  induction l generalizing i t with
  | nil => exact .inl rfl
  | cons s rest ih =>
    rw [runAll_cons]
    rcases runAll_singleton_cases i t s with ⟨reach, heq⟩ | ⟨u, -, heq⟩ | ⟨u, -, heq⟩
    · rw [heq]
      exact .inr ⟨s, List.mem_cons_self, rfl⟩
    · rw [heq]
      exact .inr ⟨s, List.mem_cons_self, rfl⟩
    · rw [heq]
      exact (ih i.rest u).imp_right fun ⟨s', hs', herror⟩ =>
        ⟨s', List.mem_cons_of_mem _ hs', herror⟩

/-- The trees that a row of steps goes through until one of them fails. -/
inductive GoesThrough : FileTree → List WriteStep → FileTree → Prop
  | start (t : FileTree) (l : List WriteStep) : GoesThrough t l t
  /-- A step is under way. -/
  | within (t : FileTree) (s : WriteStep) (rest : List WriteStep) (reach : Nat) :
      GoesThrough t (s :: rest) (s.runPartly t reach)
  | failed {t u : FileTree} {s : WriteStep} (rest : List WriteStep) (h : s.run t = (u, false)) :
      GoesThrough t (s :: rest) u
  | later {t u v : FileTree} {s : WriteStep} {rest : List WriteStep} (h : s.run t = (u, true))
      (hrest : GoesThrough u rest v) : GoesThrough t (s :: rest) v

/-- Each of these trees is left behind if the steps are broken off there. -/
lemma GoesThrough.exists_interruption (h : GoesThrough t l v) :
    ∃ i, (runAll i t l).tree = v := by
  induction h with
  | start t l =>
    cases l with
    | nil => exact ⟨.never, rfl⟩
    | cons s rest =>
      refine ⟨.after 0 0, ?_⟩
      cases s with
      | makeFolders path => exact ite_self t
      | refuse path directory => rfl
      | writeFile path content => rfl
      | rename source target => rfl
  | within t s rest reach => exact ⟨.after 0 reach, rfl⟩
  | failed rest h =>
    refine ⟨.never, ?_⟩
    simp only [runAll, h]
  | later h hrest ih =>
    obtain ⟨i, hi⟩ := ih
    cases i with
    | never =>
      refine ⟨.never, ?_⟩
      simp only [runAll, h]
      exact hi
    | after steps reach =>
      refine ⟨.after (steps + 1) reach, ?_⟩
      simp only [runAll, h]
      exact hi

end WriteStep

namespace Directory

variable {directory : String} {i : Interruption} {t : FileTree} {w : Written}
  {entries done rest : List (String × String)}

/-! ## Sets -/

/-- What is left behind by a write that has put some entries in their places, in a row, and has
stopped at the first one of the others, if there is one. -/
structure WentThrough (directory : String) (t : FileTree) (w : Written)
    (done rest : List (String × String)) : Prop where
  finished : rest = [] → w.result = .ok ()
  stopped : ∀ e ∈ rest.head?, ∃ s ∈ fileSteps directory e.1 e.2, w.result = .error s.fault
  new : ∀ e ∈ done, w.tree.get? (standing directory e.1) = some (.file e.2) ∧
    w.tree.get? (waiting directory e.1) = none
  old : ∀ e ∈ rest, Keeps directory t w.tree (standing directory e.1)
  /-- The beginning of the content may wait where the write has stopped. -/
  failing : ∀ e ∈ rest.head?, Keeps directory t w.tree (waiting directory e.1) ∨
    ∃ n, w.tree.get? (waiting directory e.1) = some (.file (String.ofList (e.2.toList.take n)))
  later : ∀ e ∈ rest.tail, Keeps directory t w.tree (waiting directory e.1)
  others : ∀ k, (∀ e ∈ done ++ rest, k ≠ standing directory e.1 ∧ k ≠ waiting directory e.1) →
    Keeps directory t w.tree k

/-- A file that was not there before is an entry in its place, or waits where the write has
stopped. -/
lemma WentThrough.of_new_file (h : WentThrough directory t w done rest) {k : Location}
    (hold : t.file? k = none) (hnew : w.tree.file? k ≠ none) :
    (∃ e ∈ done, k = standing directory e.1) ∨ ∃ e ∈ rest.head?, k = waiting directory e.1 := by
  have hchanged : ¬Keeps directory t w.tree k := by
    intro hkeeps
    rw [hkeeps.file?_eq] at hnew
    exact hnew hold
  by_cases hk : ∀ e ∈ done ++ rest, k ≠ standing directory e.1 ∧ k ≠ waiting directory e.1
  · exact absurd (h.others k hk) hchanged
  · simp only [not_forall, Classical.not_and_iff_not_or_not, not_ne_iff] at hk
    obtain ⟨e, he, hk⟩ := hk
    rcases List.mem_append.1 he with hdone | hrest
    · refine .inl ⟨e, hdone, hk.resolve_right ?_⟩
      rintro rfl
      rw [FileTree.file?, (h.new e hdone).2] at hnew
      exact hnew rfl
    · rcases hk with rfl | rfl
      · exact absurd (h.old e hrest) hchanged
      · cases rest with
        | nil => cases hrest
        | cons first others =>
          rcases List.mem_cons.1 hrest with rfl | hlater
          · exact .inr ⟨e, rfl, rfl⟩
          · exact absurd (h.later e hlater) hchanged

/-- The steps that write one of several files make no folders but those on the way to the
directory. -/
lemma Clear.keeps {e : String × String} (h : Clear directory entries) (he : e ∈ entries)
    {k : Location} (hstanding : k ≠ standing directory e.1) (hwaiting : k ≠ waiting directory e.1) :
    Keeps directory t (WriteStep.runAll i t (fileSteps directory e.1 e.2)).tree k :=
  (grows_fileSteps hstanding hwaiting).mono (h.held e he k)

/-- The steps that write the first one of several files change nothing else where another one stands
or waits. -/
lemma keeps_fileSteps_of_mem {e f : String × String} (h : Clear directory (e :: rest))
    (hf : f ∈ rest) :
    Keeps directory t (WriteStep.runAll i t (fileSteps directory e.1 e.2)).tree
        (standing directory f.1) ∧
      Keeps directory t (WriteStep.runAll i t (fileSteps directory e.1 e.2)).tree
        (waiting directory f.1) := by
  obtain ⟨-, hother⟩ := clear_cons h
  obtain ⟨hss, hsw, hws, hww⟩ := hother f hf
  exact ⟨h.keeps List.mem_cons_self hss.symm hws.symm, h.keeps List.mem_cons_self hsw.symm hww.symm⟩

/-- A write that fails at its first entry. -/
lemma wentThrough_of_error {e : String × String} {fault : WriteFault}
    (h : Clear directory (e :: rest))
    (herror : (WriteStep.runAll i t (fileSteps directory e.1 e.2)).result = .error fault) :
    WentThrough directory t (WriteStep.runAll i t (fileSteps directory e.1 e.2)) []
      (e :: rest) := by
  obtain ⟨hstanding, hwaiting⟩ := grows_of_fileSteps_error (h.leadsOn e List.mem_cons_self)
    (h.beside e List.mem_cons_self e List.mem_cons_self) herror
  constructor
  case finished => exact fun hnil => nomatch hnil
  case stopped =>
    rintro _ ⟨⟩
    refine (WriteStep.runAll_result_cases i t _).resolve_left fun hok => ?_
    rw [herror] at hok
    cases hok
  case new => exact fun f hf => nomatch hf
  case old =>
    intro f hf
    rcases List.mem_cons.1 hf with rfl | hf
    · exact hstanding
    · exact (keeps_fileSteps_of_mem h hf).1
  case failing =>
    rintro _ ⟨⟩
    exact hwaiting
  case later => exact fun f hf => (keeps_fileSteps_of_mem h hf).2
  case others =>
    intro k hk
    obtain ⟨hks, hkw⟩ := hk e List.mem_cons_self
    exact h.keeps List.mem_cons_self hks hkw

/-- A write that goes on after its first entry. -/
lemma WentThrough.cons {e : String × String} (h : Clear directory (e :: (done ++ rest)))
    (hok : (WriteStep.runAll i t (fileSteps directory e.1 e.2)).result = .ok ())
    (hrun : WentThrough directory (WriteStep.runAll i t (fileSteps directory e.1 e.2)).tree w done
      rest) :
    WentThrough directory t w (e :: done) rest := by
  have hleads := h.leadsOn e List.mem_cons_self
  have hbeside := h.beside e List.mem_cons_self e List.mem_cons_self
  obtain ⟨hstanding, hwaiting⟩ := get?_of_fileSteps_ok hleads hbeside hok
  obtain ⟨hnotstanding, hnotwaiting⟩ := not_leadsThrough_of_fileSteps_ok hleads hbeside hok
  obtain ⟨-, hother⟩ := clear_cons h
  have hmem : ∀ f ∈ rest, f ∈ done ++ rest := fun f hf => List.mem_append_right done hf
  constructor
  case finished => exact hrun.finished
  case stopped => exact hrun.stopped
  case new =>
    intro f hf
    rcases List.mem_cons.1 hf with rfl | hf
    · have hstays := hrun.others (standing directory f.1) fun g hg =>
        ⟨(hother g hg).1, (hother g hg).2.1⟩
      have hstays' := hrun.others (waiting directory f.1) fun g hg =>
        ⟨(hother g hg).2.2.1, (hother g hg).2.2.2⟩
      rw [hstays.get?_eq hnotstanding, hstays'.get?_eq hnotwaiting]
      exact ⟨hstanding, hwaiting⟩
    · exact hrun.new f hf
  case old =>
    intro f hf
    exact (keeps_fileSteps_of_mem h (hmem f hf)).1.trans (hrun.old f hf)
  case failing =>
    intro f hf
    exact (hrun.failing f hf).imp_left
      (keeps_fileSteps_of_mem h (hmem f (List.mem_of_mem_head? hf))).2.trans
  case later =>
    intro f hf
    exact (keeps_fileSteps_of_mem h (hmem f (List.mem_of_mem_tail hf))).2.trans (hrun.later f hf)
  case others =>
    intro k hk
    obtain ⟨hks, hkw⟩ := hk e List.mem_cons_self
    exact (h.keeps List.mem_cons_self hks hkw).trans
      (hrun.others k fun f hf => hk f (List.mem_cons_of_mem _ hf))

/-- **One entry after the other.**  A write stops at the first entry that fails. -/
lemma wentThrough_placed (h : Clear directory entries) (i : Interruption) (t : FileTree) :
    ∃ rest, entries = placed directory i t entries ++ rest ∧ WentThrough directory t
      (WriteStep.runAll i t (entries.flatMap (fun e => fileSteps directory e.1 e.2)))
      (placed directory i t entries) rest := by
  induction entries generalizing i t with
  | nil =>
    refine ⟨[], rfl, ⟨fun _ => rfl, ?_, ?_, ?_, ?_, ?_, fun k _ => FileTree.grows_refl⟩⟩ <;>
      simp [placed, WriteStep.completed]
  | cons e rest ih =>
    rw [placed, List.flatMap_cons, WriteStep.runAll_append, WriteStep.completed]
    cases hw : (WriteStep.runAll i t (fileSteps directory e.1 e.2)).result with
    | error fault => exact ⟨e :: rest, rfl, wentThrough_of_error h hw⟩
    | ok =>
      obtain ⟨todo, hsplit, hrun⟩ := ih (clear_cons h).1
        (i.skip (fileSteps directory e.1 e.2).length)
        (WriteStep.runAll i t (fileSteps directory e.1 e.2)).tree
      rw [hsplit] at h
      exact ⟨todo, congrArg (e :: ·) hsplit, WentThrough.cons h hw hrun⟩

end Directory

open Directory (standing waiting relative Apart Keeps WentThrough)

/-- **The files of a pass come to names of their own.** -/
lemma Pass.apart_of_ok {store : Store} {cancel : Cancellation} {i : InstanceRecord}
    {records : Records} {set : ArtifactSet} (h : (run store cancel i records).result = .ok set) :
    Apart set.entries := by
  have hentry := isEntryPath_of_ok h
  have hparts : ∀ e ∈ set.entries, PathText.parts (relative e.1) = [.name (relative e.1)] :=
    fun e he => (hentry e he).name.isPieceName.parts
  refine ⟨fun e he => ⟨_, hparts e he⟩, ?_, fun e he f hf name hename hfname => ?_⟩
  · have hnodup := nodup_paths_of_ok h
    refine List.Nodup.map_on (fun e he f hf heq => ?_) hnodup.of_map
    rw [hparts e he, hparts f hf] at heq
    have hname := PathPart.name.inj (List.singleton_inj.1 heq)
    exact List.inj_on_of_nodup_map hnodup he hf
      ((hentry e he).eq_of_relative_eq (hentry f hf) hname)
  · rw [hparts e he] at hename
    rw [hparts f hf] at hfname
    have hname := PathPart.name.inj (List.singleton_inj.1 hename)
    have htmp := PathPart.name.inj (List.singleton_inj.1 hfname)
    rw [← hname] at htmp
    exact (hentry f hf).relative_ne_tmp htmp

/-- **Old or new.**  Let the files of an artifact set come to names of their own in a directory that
holds whatever files and folders it holds; a tree has no links.  Wherever its write stops, a few
entries are in their places, in order, and nothing waits beside them.  The one that failed and those
after it are as they were, but for the beginning of the failing one beside its place.  No other file
is new, and none has changed.  A write that succeeds puts all of them in their places.  And while it
goes on, each place holds what it held or its entry, never a part of it.  Folders are made on the way
to the directory only, and where its path does not lead back, this is never where a file stands or
waits. -/
theorem ArtifactSet.write_replaces_in_order (set : ArtifactSet) (h : Apart set.entries)
    (directory : String) (t : FileTree) :
    (∀ i, ∃ done rest, set.entries = done ++ rest ∧
      WentThrough directory t (set.write directory i t) done rest ∧
      (∀ k, t.file? k = none → (set.write directory i t).tree.file? k ≠ none →
        (∃ e ∈ done, k = standing directory e.1) ∨ ∃ e ∈ rest.head?, k = waiting directory e.1) ∧
      ((set.write directory i t).result = .ok () → ∀ e ∈ set.entries,
        (set.write directory i t).tree.get? (standing directory e.1) = some (.file e.2) ∧
          (set.write directory i t).tree.get? (waiting directory e.1) = none)) ∧
    (∀ v, WriteStep.GoesThrough t (Directory.steps directory set) v → ∀ e ∈ set.entries,
      Keeps directory t v (standing directory e.1) ∨
        v.get? (standing directory e.1) = some (.file e.2)) ∧
    (".." ∉ names directory → ∀ e ∈ set.entries,
      ¬LeadsThrough directory (standing directory e.1) ∧
        ¬LeadsThrough directory (waiting directory e.1)) := by
  have hclear := h.clear directory
  have hrun := fun i => Directory.wentThrough_placed hclear i t
  refine ⟨fun i => ?_, fun v hv e he => ?_, fun hdirectory e he => ?_⟩
  · obtain ⟨rest, hsplit, hwent⟩ := hrun i
    refine ⟨_, rest, hsplit, hwent, fun k => hwent.of_new_file, fun hok e he => ?_⟩
    cases rest with
    | nil =>
      rw [hsplit, List.append_nil] at he
      exact hwent.new e he
    | cons failing later =>
      obtain ⟨s, -, herror⟩ := hwent.stopped failing rfl
      rw [ArtifactSet.write, Directory.steps, herror] at hok
      cases hok
  · obtain ⟨i, rfl⟩ := hv.exists_interruption
    obtain ⟨rest, hsplit, hwent⟩ := hrun i
    rw [hsplit, List.mem_append] at he
    rcases he with hdone | hrest
    · exact .inr (hwent.new e hdone).1
    · exact .inl (hwent.old e hrest)
  · have hleads := hclear.leadsOn e he
    exact ⟨Directory.not_leadsThrough_of_not_mem hdirectory (Directory.isBelow_standing hleads),
      Directory.not_leadsThrough_of_not_mem hdirectory (Directory.isBelow_waiting hleads)⟩

/-- A directory with a certificate, and with a folder where the document is to stand. -/
def obstructedTree : FileTree where
  nodes := [(["out"], .folder), (["out", "web.crt"], .file "one"),
    (["out", "haproxy.cfg"], .folder)]
  distinct := by decide

/-- A new certificate is put in its place before the document fails. -/
theorem ArtifactSet.write_replaces_in_order_obstructed :
    let store : Store := fun _ => .ok none
    let i : InstanceRecord := .plain (some "edge") "fleet" (.withCertificate "web" "two")
    ∃ set, (Pass.run store .never i ⟨[], [], [], []⟩).result = .ok set ∧ Apart set.entries ∧
      set.entries = [(inConfigDir "web.crt", "two"), (configFile, "global\n\ndefaults\n")] ∧
      (∃ done rest, set.entries = done ++ rest ∧ rest ≠ [] ∧
        WentThrough "out" obstructedTree (set.write "out" .never obstructedTree) done rest) ∧
      ∀ v, WriteStep.GoesThrough obstructedTree (Directory.steps "out" set) v →
        v.get? ["out", "web.crt"] = some (.file "one") ∨
          v.get? ["out", "web.crt"] = some (.file "two") := by
  intro store i
  have hrun : (Pass.run store .never i ⟨[], [], [], []⟩).result =
      .ok ⟨"global\n\ndefaults\n", KeyMap.empty.insert (inConfigDir "web.crt") "two"⟩ := by cbv
  have hentries : ArtifactSet.entries ⟨"global\n\ndefaults\n",
      KeyMap.empty.insert (inConfigDir "web.crt") "two"⟩ =
      [(inConfigDir "web.crt", "two"), (configFile, "global\n\ndefaults\n")] := by cbv
  have hapart := Pass.apart_of_ok hrun
  obtain ⟨hwrites, hgoes, hways⟩ := write_replaces_in_order _ hapart "out" obstructedTree
  refine ⟨_, hrun, hapart, hentries, ?_, fun v hv => ?_⟩
  · obtain ⟨done, rest, hsplit, hwent, -⟩ := hwrites .never
    refine ⟨done, rest, hsplit, ?_, hwent⟩
    rintro rfl
    have hfails : (WriteStep.runAll .never obstructedTree
        (Directory.fileSteps "out" (inConfigDir "web.crt") "two" ++
          Directory.fileSteps "out" configFile "global\n\ndefaults\n")).result.isOk = false := by
      decide +kernel
    have hok := hwent.finished rfl
    rw [write, Directory.steps, hentries] at hok
    simp only [List.flatMap_cons, List.flatMap_nil, List.append_nil] at hok
    rw [hok] at hfails
    cases hfails
  · have hplace : standing "out" (inConfigDir "web.crt") = ["out", "web.crt"] := by decide
    have hold : obstructedTree.get? ["out", "web.crt"] = some (.file "one") := by decide
    have hentry : (inConfigDir "web.crt", "two") ∈ ArtifactSet.entries ⟨"global\n\ndefaults\n",
        KeyMap.empty.insert (inConfigDir "web.crt") "two"⟩ := by
      rw [hentries]
      exact List.mem_cons_self
    have hway := (hways (by decide) _ hentry).1
    have hnew := (hgoes v hv _ hentry).imp_left fun hkeeps => hkeeps.get?_eq hway
    rwa [hplace, hold] at hnew

end ProxyFleet
