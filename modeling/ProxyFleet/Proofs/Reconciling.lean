import ProxyFleet.Controller
import ProxyFleet.Proofs.Writing

/-!
# What the directory holds after a look at the cluster

A controller remembers the fingerprint of the artifact set that it wrote last, and writes again when
a look gives another one.  A write that fails may have put some files in their places already, and
what is remembered does not change then.

**Looks.**  `Controller.looked_to` says what one look can come to.

**Leftovers.**  `Controller.leftovers` are the files that failed writes have put in their places
since the last write that succeeded.  The directory holds the artifact set written last, but for
these (`Controller.Describes`); a look keeps this up (`Controller.known_after`), and so do all looks
of a controller (`Controller.known_afterAll`).

Main statement: `Controller.reconcile_holds_entries_iff`.
-/

namespace ProxyFleet

open PathText (Location location)

/-- One look at a cluster: what it finds, and where the pass and the write are stopped. -/
structure Look where
  cluster : Cluster
  cancel : Cancellation
  interruption : Interruption

/-- Whether a file with the content of an entry stands in the entry's place. -/
def FileTree.Holds (directory : String) (e : String × String) (t : FileTree) : Prop :=
  ∃ target, Directory.target? directory e.1 = some target ∧
    t.get? (location target) = some (.file e.2)

lemma FileTree.holds_iff {directory : String} {e : String × String} {t : FileTree}
    (h : Directory.IsEntryPath e.1) :
    t.Holds directory e ↔ t.file? (Directory.place directory e.1) = some e.2 := by
  rw [Holds, file?_eq_some_iff, ← h.location_target]
  constructor
  · rintro ⟨target, htarget, hfile⟩
    rw [h.target?_eq] at htarget
    cases htarget
    exact hfile
  · intro hfile
    exact ⟨_, h.target?_eq, hfile⟩

namespace Controller

variable {c : Controller} {s : ControllerState} {l : Look} {set : ArtifactSet}
  {left : List (String × String)}

/-! ## Looks -/

/-- The artifact set that a look gives. -/
def synthesized (c : Controller) (l : Look) : Option ArtifactSet :=
  match c.fetch l.cluster with
  | .error _ => none
  | .ok (i, records) => (Pass.run l.cluster.store l.cancel i records).result.toOption

/-- What comes of a look. -/
def looked (c : Controller) (s : ControllerState) (l : Look) : Reconciled :=
  c.reconcile l.cluster l.cancel l.interruption s

/-- The state after a look. -/
def after (c : Controller) (s : ControllerState) (l : Look) : ControllerState :=
  (c.looked s l).state

/-- The state after several looks. -/
def afterAll (c : Controller) (s : ControllerState) (looks : List Look) : ControllerState :=
  looks.foldl c.after s

lemma afterAll_nil (c : Controller) (s : ControllerState) : c.afterAll s [] = s := rfl
lemma afterAll_cons (c : Controller) (s : ControllerState) (l : Look) (rest : List Look) :
    c.afterAll s (l :: rest) = c.afterAll (c.after s l) rest := rfl

/-- The write of an artifact set in a look. -/
def writing (c : Controller) (s : ControllerState) (l : Look) (set : ArtifactSet) : Written :=
  set.write c.directory l.interruption s.tree

/-- What a look can come to. -/
inductive LookedTo (c : Controller) (s : ControllerState) (l : Look) : Prop
  /-- It gives no artifact set. -/
  | nothing (hset : c.synthesized l = none) (hwritten : (c.after s l).written = s.written)
    (htree : (c.after s l).tree = s.tree) (hresult : (c.looked s l).result ≠ .ok ())
  /-- It gives the one that was written last. -/
  | same (set : ArtifactSet) (hset : c.synthesized l = some set)
    (hsame : s.written = some set.fingerprint) (hwritten : (c.after s l).written = s.written)
    (htree : (c.after s l).tree = s.tree) (hresult : (c.looked s l).result = .ok ())
  /-- It gives another one, which is written. -/
  | written (set : ArtifactSet) (hset : c.synthesized l = some set)
    (hnew : s.written ≠ some set.fingerprint) (hok : (c.writing s l set).result = .ok ())
    (hwritten : (c.after s l).written = some set.fingerprint)
    (htree : (c.after s l).tree = (c.writing s l set).tree)
    (hresult : (c.looked s l).result = .ok ())
  /-- It gives another one, which cannot be written, or only in part. -/
  | broken (set : ArtifactSet) (fault : WriteFault) (hset : c.synthesized l = some set)
    (hnew : s.written ≠ some set.fingerprint) (herror : (c.writing s l set).result = .error fault)
    (hwritten : (c.after s l).written = s.written)
    (htree : (c.after s l).tree = (c.writing s l set).tree)
    (hresult : (c.looked s l).result ≠ .ok ())

/-- A look that reads no records, or whose pass fails, gives nothing and changes nothing. -/
lemma looked_of_synthesized_none (h : c.synthesized l = none) :
    (c.after s l).written = s.written ∧ (c.after s l).tree = s.tree ∧
      (c.looked s l).result ≠ .ok () := by
  rw [synthesized] at h
  rw [after, looked, reconcile, look]
  cases hfetch : c.fetch l.cluster with
  | error fault => simp
  | ok fetched =>
    obtain ⟨i, records⟩ := fetched
    simp only [hfetch] at h ⊢
    cases hrun : (Pass.run l.cluster.store l.cancel i records).result with
    | error fault => simp
    | ok set =>
      rw [hrun] at h
      cases h

/-- The artifact set of a look is that of the pass over the records that it reads. -/
lemma exists_run_of_synthesized (h : c.synthesized l = some set) :
    ∃ i records, c.fetch l.cluster = .ok (i, records) ∧
      (Pass.run l.cluster.store l.cancel i records).result = .ok set := by
  rw [synthesized] at h
  cases hfetch : c.fetch l.cluster with
  | error fault =>
    rw [hfetch] at h
    cases h
  | ok fetched =>
    obtain ⟨i, records⟩ := fetched
    rw [hfetch] at h
    cases hrun : (Pass.run l.cluster.store l.cancel i records).result with
    | error fault =>
      simp only [hrun] at h
      cases h
    | ok set' =>
      simp only [hrun] at h
      cases h
      exact ⟨i, records, rfl, hrun⟩

/-- A look that gives an artifact set publishes it. -/
lemma looked_of_synthesized_some (h : c.synthesized l = some set) :
    ∃ counters,
      c.after s l = (c.publish l.interruption set ⟨s.written, counters, s.tree⟩).1 ∧
        (c.looked s l).result =
          (c.publish l.interruption set ⟨s.written, counters, s.tree⟩).2 := by
  obtain ⟨i, records, hfetch, hrun⟩ := exists_run_of_synthesized h
  refine ⟨s.counters.record (.ok set), ?_⟩
  rw [after, looked, reconcile, look]
  simp only [hfetch, hrun, and_self]

/-- The artifact set that was written last is not written again. -/
lemma looked_same (hset : c.synthesized l = some set) (hsame : s.written = some set.fingerprint) :
    (c.after s l).written = s.written ∧ (c.after s l).tree = s.tree ∧
      (c.looked s l).result = .ok () := by
  obtain ⟨counters, hstate, hresult⟩ := looked_of_synthesized_some (s := s) hset
  rw [publish, if_pos hsame] at hstate hresult
  rw [hstate]
  exact ⟨rfl, rfl, hresult⟩

/-- Another one is written, and remembered then. -/
lemma looked_written (hset : c.synthesized l = some set)
    (hnew : s.written ≠ some set.fingerprint) (hok : (c.writing s l set).result = .ok ()) :
    (c.after s l).written = some set.fingerprint ∧
      (c.after s l).tree = (c.writing s l set).tree ∧ (c.looked s l).result = .ok () := by
  obtain ⟨counters, hstate, hresult⟩ := looked_of_synthesized_some (s := s) hset
  rw [writing] at hok
  rw [publish, if_neg hnew] at hstate hresult
  simp only [hok] at hstate hresult
  rw [hstate]
  exact ⟨rfl, rfl, hresult⟩

/-- One that cannot be written in full is not remembered, whatever has become of the files. -/
lemma looked_broken {fault : WriteFault} (hset : c.synthesized l = some set)
    (hnew : s.written ≠ some set.fingerprint)
    (herror : (c.writing s l set).result = .error fault) :
    (c.after s l).written = s.written ∧ (c.after s l).tree = (c.writing s l set).tree ∧
      (c.looked s l).result = .error (.write fault) := by
  obtain ⟨counters, hstate, hresult⟩ := looked_of_synthesized_some (s := s) hset
  rw [writing] at herror
  rw [publish, if_neg hnew] at hstate hresult
  simp only [herror] at hstate hresult
  rw [hstate]
  exact ⟨rfl, rfl, hresult⟩

/-- **What one look does.** -/
lemma looked_to (c : Controller) (s : ControllerState) (l : Look) : c.LookedTo s l := by
  cases hset : c.synthesized l with
  | none =>
    obtain ⟨hwritten, htree, hresult⟩ := looked_of_synthesized_none (s := s) hset
    exact .nothing hset hwritten htree hresult
  | some set =>
    by_cases hsame : s.written = some set.fingerprint
    · obtain ⟨hwritten, htree, hresult⟩ := looked_same hset hsame
      exact .same set hset hsame hwritten htree hresult
    · cases hwrite : (c.writing s l set).result with
      | ok =>
        obtain ⟨hwritten, htree, hresult⟩ := looked_written hset hsame hwrite
        exact .written set hset hsame hwrite hwritten htree hresult
      | error fault =>
        obtain ⟨hwritten, htree, hresult⟩ := looked_broken hset hsame hwrite
        refine .broken set fault hset hsame hwrite hwritten htree ?_
        rw [hresult]
        simp

/-! ## Artifact sets -/

/-- The paths in an artifact set that a look gives. -/
lemma isEntryPath_of_synthesized (h : c.synthesized l = some set) :
    ∀ e ∈ set.entries, Directory.IsEntryPath e.1 := by
  obtain ⟨i, records, -, hrun⟩ := exists_run_of_synthesized h
  exact Pass.isEntryPath_of_ok hrun

/-- No path stands twice in an artifact set that a look gives. -/
lemma nodup_paths_of_synthesized (h : c.synthesized l = some set) :
    (set.entries.map (·.1)).Nodup := by
  obtain ⟨i, records, -, hrun⟩ := exists_run_of_synthesized h
  exact Pass.nodup_paths_of_ok hrun

/-- What a write leaves in the place of an entry. -/
lemma file?_writing (h : c.synthesized l = some set) {path : String}
    (hpath : Directory.IsEntryPath path) :
    (c.writing s l set).tree.file? (Directory.place c.directory path) =
      (latest path (Directory.placed c.directory l.interruption s.tree set.entries)).or
        (s.tree.file? (Directory.place c.directory path)) :=
  Directory.file?_runAll_entries (isEntryPath_of_synthesized h) hpath

/-- A write that succeeds puts every entry in its place. -/
lemma file?_writing_of_ok (h : c.synthesized l = some set)
    (hok : (c.writing s l set).result = .ok ()) {e : String × String} (he : e ∈ set.entries) :
    (c.writing s l set).tree.file? (Directory.place c.directory e.1) = some e.2 := by
  have hall : Directory.placed c.directory l.interruption s.tree set.entries = set.entries :=
    WriteStep.completed_of_ok hok
  rw [file?_writing h (isEntryPath_of_synthesized h e he), hall,
    latest_eq_some_of_mem (nodup_paths_of_synthesized h) he, Option.some_or]

/-! ## Leftovers -/

/-- The files that failed writes have put in their places since the last write that succeeded, after
one more look. -/
def leftover (c : Controller) (s : ControllerState) (left : List (String × String)) (l : Look) :
    List (String × String) :=
  match c.synthesized l with
  | none => left
  | some set =>
    if s.written = some set.fingerprint then left
    else match (c.writing s l set).result with
      | .ok () => []
      | .error _ => left ++ Directory.placed c.directory l.interruption s.tree set.entries

/-- The same after several looks, the files that were put in their places last at the end. -/
def leftovers (c : Controller) :
    ControllerState → List (String × String) → List Look → List (String × String)
  | _, left, [] => left
  | s, left, l :: rest => leftovers c (c.after s l) (c.leftover s left l) rest

/-- The directory holds an artifact set, the one that was written last, but for leftovers. -/
structure Describes (c : Controller) (left : List (String × String)) (set : ArtifactSet)
    (s : ControllerState) : Prop where
  written : s.written = some set.fingerprint
  files : ∀ e ∈ set.entries,
    s.tree.file? (Directory.place c.directory e.1) = some ((latest e.1 left).getD e.2)

/-- What is known of the directory after some looks: nothing has been written in full, or it holds
an artifact set that one of them gave, but for leftovers. -/
def Known (c : Controller) (seen : List Look) (left : List (String × String))
    (s : ControllerState) : Prop :=
  s.written = none ∨ ∃ l ∈ seen, ∃ set, c.synthesized l = some set ∧ c.Describes left set s

/-- What is known stays known when nothing is written. -/
lemma Known.of_unchanged {seen : List Look} (h : c.Known seen left s)
    (hwritten : (c.after s l).written = s.written) (htree : (c.after s l).tree = s.tree) :
    c.Known (seen ++ [l]) left (c.after s l) := by
  rcases h with hnone | ⟨l', hl', set, hset, hdescribes⟩
  · exact .inl (hwritten.trans hnone)
  · refine .inr ⟨l', List.mem_append_left _ hl', set, hset, ?_, ?_⟩
    · rw [hwritten, hdescribes.written]
    · rw [htree]
      exact hdescribes.files

/-- **A look keeps up what is known.** -/
lemma known_after {seen : List Look} (h : c.Known seen left s) (l : Look) :
    c.Known (seen ++ [l]) (c.leftover s left l) (c.after s l) := by
  cases c.looked_to s l with
  | nothing hset hwritten htree =>
    have hleft : c.leftover s left l = left := by rw [leftover, hset]
    rw [hleft]
    exact h.of_unchanged hwritten htree
  | same set hset hsame hwritten htree =>
    have hleft : c.leftover s left l = left := by
      rw [leftover, hset]
      exact if_pos hsame
    rw [hleft]
    exact h.of_unchanged hwritten htree
  | written set hset hnew hok hwritten htree =>
    have hleft : c.leftover s left l = [] := by
      rw [leftover, hset]
      simp only [hnew, if_false, hok]
    rw [hleft]
    refine .inr ⟨l, by simp, set, hset, hwritten, fun e he => ?_⟩
    rw [htree, file?_writing_of_ok hset hok he]
    rfl
  | broken set fault hset hnew herror hwritten htree =>
    have hleft : c.leftover s left l =
        left ++ Directory.placed c.directory l.interruption s.tree set.entries := by
      rw [leftover, hset]
      simp only [hnew, if_false, herror]
    rw [hleft]
    rcases h with hnone | ⟨l', hl', before, hbefore, hdescribes⟩
    · exact .inl (hwritten.trans hnone)
    · refine .inr ⟨l', List.mem_append_left _ hl', before, hbefore, ?_, fun e he => ?_⟩
      · rw [hwritten, hdescribes.written]
      · rw [htree, file?_writing hset (isEntryPath_of_synthesized hbefore e he),
          hdescribes.files e he, latest_append]
        cases latest e.1 (Directory.placed c.directory l.interruption s.tree set.entries) <;> rfl

/-- **All looks of a controller do.** -/
lemma known_afterAll {seen : List Look} (h : c.Known seen left s) (looks : List Look) :
    c.Known (seen ++ looks) (c.leftovers s left looks) (c.afterAll s looks) := by
  induction looks generalizing seen left s with
  | nil =>
    rw [List.append_nil]
    exact h
  | cons l rest ih =>
    have hrest := ih (known_after h l)
    rw [List.append_assoc, List.singleton_append] at hrest
    exact hrest

/-! ## Looks that succeed -/

/-- Whether the artifact sets that several looks give have fingerprints of their own. -/
def ToldApart (c : Controller) (looks : List Look) : Prop :=
  ∀ a ∈ looks, ∀ b ∈ looks, ∀ p q, c.synthesized a = some p → c.synthesized b = some q →
    p.fingerprint = q.fingerprint → p = q

/-- A look that gives the artifact set written last leaves the leftovers where they are. -/
lemma holds_entries_iff_of_describes (h : c.Describes left set s)
    (hpaths : ∀ e ∈ set.entries, Directory.IsEntryPath e.1) :
    (∀ e ∈ set.entries, s.tree.Holds c.directory e) ↔
      ∀ e ∈ set.entries, ∀ content, latest e.1 left = some content → content = e.2 := by
  refine forall_congr' fun e => forall_congr' fun he => ?_
  rw [FileTree.holds_iff (hpaths e he), h.files e he, Option.some.injEq]
  cases latest e.1 left with
  | none => simp
  | some content => simp

/-- **When a look that succeeds leaves every entry in its place.**  For a controller that starts
with any directory, after any looks: if a look succeeds, every entry of the artifact set that it
gave stands in the directory exactly when the set was written in this look, or no failed write has
left anything else in the place of an entry since the last write that succeeded. -/
theorem reconcile_holds_entries_iff (c : Controller) (start : ControllerState)
    (hstart : start.written = none) (looks : List Look) (l : Look)
    (hapart : c.ToldApart (looks ++ [l]))
    (hok : (c.looked (c.afterAll start looks) l).result = .ok ()) :
    ∃ set, c.synthesized l = some set ∧
      ((∀ e ∈ set.entries, (c.after (c.afterAll start looks) l).tree.Holds c.directory e) ↔
        (c.afterAll start looks).written ≠ some set.fingerprint ∨
          ∀ e ∈ set.entries, ∀ content,
            latest e.1 (c.leftovers start [] looks) = some content → content = e.2) := by
  cases c.looked_to (c.afterAll start looks) l with
  | nothing hset hwritten htree hresult => exact absurd hok hresult
  | broken set fault hset hnew herror hwritten htree hresult => exact absurd hok hresult
  | written set hset hnew hwrite hwritten htree =>
    have hentries := isEntryPath_of_synthesized hset
    refine ⟨set, hset, fun _ => .inl hnew, fun _ e he => ?_⟩
    rw [FileTree.holds_iff (hentries e he), htree]
    exact file?_writing_of_ok hset hwrite he
  | same set hset hsame hwritten htree =>
    have hnothing : c.Known [] [] start := .inl hstart
    have hknown : c.Known looks (c.leftovers start [] looks) (c.afterAll start looks) :=
      known_afterAll hnothing looks
    rcases hknown with hnone | ⟨l', hl', before, hbefore, hdescribes⟩
    · rw [hnone] at hsame
      cases hsame
    · have hfingerprint : before.fingerprint = set.fingerprint :=
        Option.some.inj (hdescribes.written.symm.trans hsame)
      obtain rfl : before = set := hapart l' (List.mem_append_left _ hl') l (by simp) before set
        hbefore hset hfingerprint
      refine ⟨before, hset, ?_⟩
      rw [htree, holds_entries_iff_of_describes hdescribes (isEntryPath_of_synthesized hset)]
      constructor
      · exact .inr
      · rintro (hnew | hleft)
        · exact absurd hsame hnew
        · exact hleft

/-! ## A certificate that changes -/

/-- A controller of one instance that writes into a directory and reports nothing. -/
def edge : Controller := ⟨"edge", "fleet", false, "out"⟩

/-- A controller that has not looked yet, and a directory that is not there. -/
def fresh : ControllerState := ⟨none, .zero, .empty⟩

/-- A look that finds an instance with a certificate, and no records. -/
def certifiedLook (content : String) (i : Interruption) : Look :=
  ⟨⟨[Record.instances.write (.plain (some "edge") "fleet" (.withCertificate "web" content))]⟩,
    .never, i⟩

/-- The look at the first certificate. -/
def firstLook : Look := certifiedLook "one" .never

/-- The look at another one, whose write is broken off before the second file. -/
def brokenLook : Look := certifiedLook "two" (.after 3 0)

/-- What such a look gives. -/
def certifiedSet (content : String) : ArtifactSet :=
  ⟨"global\n\ndefaults\n", KeyMap.empty.insert (inConfigDir "web.crt") content⟩

lemma synthesized_certifiedLook (content : String) (i : Interruption) :
    edge.synthesized (certifiedLook content i) = some (certifiedSet content) := by cbv

lemma entries_certifiedSet (content : String) : (certifiedSet content).entries =
    [(inConfigDir "web.crt", content), (configFile, "global\n\ndefaults\n")] := by cbv

/-- The steps that write it. -/
def certifiedSteps (content : String) : List WriteStep :=
  Directory.fileSteps "out" (inConfigDir "web.crt") content ++
    Directory.fileSteps "out" configFile "global\n\ndefaults\n"

lemma writing_certifiedLook (s : ControllerState) (content : String) (i : Interruption) :
    edge.writing s (certifiedLook content i) (certifiedSet content) =
      WriteStep.runAll i s.tree (certifiedSteps content) := by
  rw [writing, ArtifactSet.write, Directory.steps, entries_certifiedSet, certifiedSteps]
  simp only [List.flatMap_cons, List.flatMap_nil, List.append_nil]
  rfl

lemma synthesized_firstLook : edge.synthesized firstLook = some (certifiedSet "one") :=
  synthesized_certifiedLook "one" .never

lemma synthesized_brokenLook : edge.synthesized brokenLook = some (certifiedSet "two") :=
  synthesized_certifiedLook "two" (.after 3 0)

lemma fingerprint_certifiedSet_ne :
    (certifiedSet "one").fingerprint ≠ (certifiedSet "two").fingerprint := by
  rw [ArtifactSet.fingerprint, ArtifactSet.fingerprint, Ne, Digest.hex_inj,
    ArtifactSet.fingerprintBytes, ArtifactSet.fingerprintBytes, entries_certifiedSet,
    entries_certifiedSet]
  decide +kernel

/-- The first look writes what it finds. -/
lemma after_first_look :
    (edge.writing fresh firstLook (certifiedSet "one")).result = .ok () ∧
      (edge.after fresh firstLook).written = some (certifiedSet "one").fingerprint ∧
      (edge.after fresh firstLook).tree =
        (WriteStep.runAll .never .empty (certifiedSteps "one")).tree := by
  have hwrite : edge.writing fresh firstLook (certifiedSet "one") =
      WriteStep.runAll .never .empty (certifiedSteps "one") :=
    writing_certifiedLook fresh "one" .never
  have hok : (edge.writing fresh firstLook (certifiedSet "one")).result = .ok () := by
    rw [hwrite]
    exact Check.eq_ok_of_isOk (by decide +kernel)
  have hnew : fresh.written ≠ some (certifiedSet "one").fingerprint := nofun
  obtain ⟨hwritten, htree, -⟩ := looked_written synthesized_firstLook hnew hok
  rw [hwrite] at htree
  exact ⟨hok, hwritten, htree⟩

/-- The second look puts a new certificate in its place, and fails then. -/
lemma after_second_look {s : ControllerState}
    (hwritten : s.written = some (certifiedSet "one").fingerprint)
    (htree : s.tree = (WriteStep.runAll .never .empty (certifiedSteps "one")).tree) :
    (edge.after s brokenLook).written = some (certifiedSet "one").fingerprint ∧
      (edge.after s brokenLook).tree.get? (location "out/web.crt") = some (.file "two") := by
  have hnew : s.written ≠ some (certifiedSet "two").fingerprint := by
    rw [hwritten]
    exact fun heq => fingerprint_certifiedSet_ne (Option.some.inj heq)
  have hwrite : edge.writing s brokenLook (certifiedSet "two") =
      WriteStep.runAll (.after 3 0) (WriteStep.runAll .never .empty (certifiedSteps "one")).tree
        (certifiedSteps "two") := by
    rw [← htree]
    exact writing_certifiedLook s "two" (.after 3 0)
  have herror : (WriteStep.runAll (.after 3 0)
      (WriteStep.runAll .never .empty (certifiedSteps "one")).tree
      (certifiedSteps "two")).result.isOk = false := by decide +kernel
  rw [← hwrite] at herror
  cases hresult : (edge.writing s brokenLook (certifiedSet "two")).result with
  | ok =>
    rw [hresult] at herror
    cases herror
  | error fault =>
    obtain ⟨hwritten', htree', -⟩ := looked_broken synthesized_brokenLook hnew hresult
    rw [hwritten', htree', hwrite]
    exact ⟨hwritten, by decide +kernel⟩

/-- A look that finds what was written last, and so leaves it in its place. -/
theorem reconcile_holds_entries_iff_same_certificate :
    fresh.written = none ∧ edge.ToldApart ([firstLook] ++ [firstLook]) ∧
      (edge.looked (edge.afterAll fresh [firstLook]) firstLook).result = .ok () ∧
      ∃ set, edge.synthesized firstLook = some set ∧
        ∀ e ∈ set.entries,
          (edge.after (edge.afterAll fresh [firstLook]) firstLook).tree.Holds edge.directory e := by
  obtain ⟨hwrite, hwritten, -⟩ := after_first_look
  have hapart : edge.ToldApart ([firstLook] ++ [firstLook]) := by
    intro a ha b hb p q hp hq _
    obtain rfl : a = firstLook := by simpa using ha
    obtain rfl : b = firstLook := by simpa using hb
    rw [hp] at hq
    exact Option.some.inj hq
  have hstate : edge.afterAll fresh [firstLook] = edge.after fresh firstLook := by
    rw [afterAll_cons, afterAll_nil]
  have hok : (edge.looked (edge.afterAll fresh [firstLook]) firstLook).result = .ok () := by
    rw [hstate]
    exact (looked_same synthesized_firstLook hwritten).2.2
  refine ⟨rfl, hapart, hok, ?_⟩
  obtain ⟨set, hset', hiff⟩ :=
    reconcile_holds_entries_iff edge fresh rfl [firstLook] firstLook hapart hok
  refine ⟨set, hset', hiff.2 (.inr ?_)⟩
  have hleft : edge.leftovers fresh [] [firstLook] = [] := by
    rw [leftovers, leftovers, leftover, synthesized_firstLook]
    have hnew : fresh.written ≠ some (certifiedSet "one").fingerprint := nofun
    simp only [hnew, if_false]
    rw [hwrite]
  intro e _ content hcontent
  rw [hleft] at hcontent
  cases hcontent

/-- **A stale file.**  A certificate changes, the write of the change is broken off once the
certificate is in its place, and the change is taken back: the next look succeeds, as the set that
it gives is the one that was written last, but the directory holds the other certificate. -/
theorem stale_file_after_broken_write :
    fresh.written = none ∧ edge.ToldApart ([firstLook, brokenLook] ++ [firstLook]) ∧
      (edge.looked (edge.afterAll fresh [firstLook, brokenLook]) firstLook).result = .ok () ∧
      ∃ set, edge.synthesized firstLook = some set ∧
        ¬∀ e ∈ set.entries,
          (edge.after (edge.afterAll fresh [firstLook, brokenLook]) firstLook).tree.Holds
            edge.directory e := by
  have hgiven : ∀ l ∈ [firstLook, brokenLook] ++ [firstLook], ∀ p, edge.synthesized l = some p →
      p = certifiedSet "one" ∨ p = certifiedSet "two" := by
    intro l hl p hp
    have hl' : l = firstLook ∨ l = brokenLook := by
      simp only [List.cons_append, List.nil_append, List.mem_cons, List.not_mem_nil, or_false] at hl
      rcases hl with rfl | rfl | rfl
      · exact .inl rfl
      · exact .inr rfl
      · exact .inl rfl
    rcases hl' with rfl | rfl
    · exact .inl (Option.some.inj (hp.symm.trans synthesized_firstLook))
    · exact .inr (Option.some.inj (hp.symm.trans synthesized_brokenLook))
  have hapart : edge.ToldApart ([firstLook, brokenLook] ++ [firstLook]) := by
    intro a ha b hb p q hp hq heq
    rcases hgiven a ha p hp with rfl | rfl
    · rcases hgiven b hb q hq with rfl | rfl
      · rfl
      · exact absurd heq fingerprint_certifiedSet_ne
    · rcases hgiven b hb q hq with rfl | rfl
      · exact absurd heq.symm fingerprint_certifiedSet_ne
      · rfl
  obtain ⟨-, hwritten, htree⟩ := after_first_look
  obtain ⟨hwritten', htree'⟩ := after_second_look hwritten htree
  have hstate : edge.afterAll fresh [firstLook, brokenLook] =
      edge.after (edge.after fresh firstLook) brokenLook := by
    rw [afterAll_cons, afterAll_cons, afterAll_nil]
  have hsame : (edge.afterAll fresh [firstLook, brokenLook]).written =
      some (certifiedSet "one").fingerprint := by
    rw [hstate]
    exact hwritten'
  obtain ⟨-, htree'', hok⟩ := looked_same synthesized_firstLook hsame
  refine ⟨rfl, hapart, hok, certifiedSet "one", synthesized_firstLook, fun hholds => ?_⟩
  have hentry : (inConfigDir "web.crt", "one") ∈ (certifiedSet "one").entries := by
    rw [entries_certifiedSet]
    exact List.mem_cons_self
  obtain ⟨target, htarget, hfile⟩ := hholds _ hentry
  have hplace : Directory.target? edge.directory (inConfigDir "web.crt") = some "out/web.crt" := by
    decide +kernel
  cases hplace.symm.trans htarget
  rw [htree'', hstate, htree'] at hfile
  exact absurd hfile (by decide)

end Controller

end ProxyFleet
