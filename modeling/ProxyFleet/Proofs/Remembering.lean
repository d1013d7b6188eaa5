import ProxyFleet.Proofs.Preparation
import ProxyFleet.Proofs.Selection

/-!
# What a controller remembers

A controller remembers one fingerprint, and takes no step in its directory for an artifact set with
that fingerprint.  What it remembers changes in looks that succeed, and in no others.

**Cancellation.**  A cancellation can stop a pass and cannot change what it gives: a computation
that succeeds succeeds in the same way when it is not cancelled (`Reading.Persists`), and so does a
pass (`Pass.run_never_of_ok`).  Two looks at one cluster that give an artifact set give the same one
(`Controller.synthesized_unique`).

**Looks that take no step.**  `Controller.Idle` says of a look that the directory stays as it is and
that the file system has nothing to break off.  A look that fails before its write is idle, and so
is one that gives what is remembered (`Controller.idle_of_synthesized_none`,
`Controller.idle_of_same`).

**Histories.**  `Controller.lastFingerprint` goes through the looks of a controller and keeps the
fingerprint of the last one that succeeded; the controller does the same
(`Controller.written_afterAll`).

Main statement: `Controller.looks_keep_fingerprint`.
-/

namespace ProxyFleet

/-! ## Cancellation -/

namespace Entry

variable {σ τ α : Type} {cancel : Cancellation} {kind : RecordKind} {space : String}
  {check : String → σ → Except Fault α}

/-- A record that is taken up is taken up when nothing is cancelled. -/
lemma ofRecord_never_of_ok {claims : Claims} {r : Record σ τ} {entry : Entry α}
    (h : ofRecord cancel kind space check claims r = .ok entry) :
    ofRecord .never kind space check claims r = .ok entry := by
  obtain ⟨-, hfree, hvalid⟩ := ofRecord_eq_ok_iff.1 h
  exact ofRecord_eq_ok_iff.2 ⟨rfl, hfree, hvalid⟩

lemma ofRecords_never_of_ok {claims after : Claims} {l : List (Record σ τ)}
    {entries : List (Entry α)}
    (h : ofRecords cancel kind space check claims l = .ok (entries, after)) :
    ofRecords .never kind space check claims l = .ok (entries, after) := by
  induction l generalizing claims entries with
  | nil => exact h
  | cons r rest ih =>
    obtain ⟨entry, later, hentry, hlater, rfl⟩ := ofRecords_cons_eq_ok h
    exact Check.bind_eq_ok_iff.2 ⟨entry, ofRecord_never_of_ok hentry,
      Check.bind_eq_ok_iff.2 ⟨(later, after), ih hlater, rfl⟩⟩

end Entry

lemma Fleet.ofRecords_never_of_ok {cancel : Cancellation} {owner : RecordRef} {records : Records}
    {f : Fleet} (h : ofRecords cancel owner records = .ok f) :
    ofRecords .never owner records = .ok f := by
  obtain ⟨c₁, c₂, c₃, c₄, hl, hf, hb, hr⟩ := ofRecords_eq_ok h
  exact Check.bind_eq_ok_iff.2 ⟨_, Entry.ofRecords_never_of_ok hl,
    Check.bind_eq_ok_iff.2 ⟨_, Entry.ofRecords_never_of_ok hf,
      Check.bind_eq_ok_iff.2 ⟨_, Entry.ofRecords_never_of_ok hb,
        Check.bind_eq_ok_iff.2 ⟨_, Entry.ofRecords_never_of_ok hr, rfl⟩⟩⟩⟩

namespace Reading

variable {α β : Type} {store : Store} {cancel : Cancellation}

/-- **Whether one computation succeeds as another does**, from the same point in the course of a
pass and to the same one. -/
def Persists (x y : Reading α) : Prop :=
  ∀ c a d, exec x c = (.ok a, d) → exec y c = (.ok a, d)

lemma persists_refl (x : Reading α) : Persists x x := fun _ _ _ h => h

lemma persists_bind {x y : Reading α} {f g : α → Reading β} (hx : Persists x y)
    (hf : ∀ a, Persists (f a) (g a)) : Persists (x >>= f) (y >>= g) := by
  intro c b d h
  obtain ⟨a, e, hfirst, hsecond⟩ := exec_bind_eq_ok h
  rw [exec_bind, hx c a e hfirst]
  exact hf a e b d hsecond

lemma persists_checkpoint : Persists (checkpoint cancel) (checkpoint .never) := by
  intro c a d h
  rw [exec_checkpoint] at h ⊢
  cases hcancel : cancel.holds c.looks c.reads.length with
  | true =>
    rw [hcancel] at h
    cases h
  | false =>
    rw [hcancel] at h
    exact h

lemma persists_value (owner : RecordRef) (use : FileUse) (ref : StoreRef) :
    Persists (value store cancel owner use ref) (value store .never owner use ref) :=
  persists_bind persists_checkpoint fun _ => persists_refl _

lemma persists_values (owner : RecordRef) (use : FileUse) (refs : List StoreRef) :
    Persists (refs.mapM (value store cancel owner use))
      (refs.mapM (value store .never owner use)) := by
  induction refs with
  | nil => exact persists_refl _
  | cons ref rest ih =>
    rw [List.mapM_cons, List.mapM_cons]
    exact persists_bind (persists_value owner use ref) fun _ =>
      persists_bind ih fun _ => persists_refl _

lemma persists_content (owner : RecordRef) (use : FileUse) (source : Section.Source) :
    Persists (content store cancel owner use source) (content store .never owner use source) := by
  cases source with
  | inline given => exact persists_refl _
  | stored refs => exact persists_bind (persists_values owner use refs) fun _ => persists_refl _

lemma persists_variableValue (owner : RecordRef) (v : Section.VariableValue) :
    Persists (variableValue store cancel owner v) (variableValue store .never owner v) := by
  cases v with
  | literal given => exact persists_refl _
  | secret ref => exact persists_value owner .header ref

lemma persists_task (p : Progress) (t : Task) :
    Persists (task store cancel p t) (task store .never p t) := by
  cases t with
  | checkpoint => exact persists_bind persists_checkpoint fun _ => persists_refl _
  | find owner use path source =>
    exact persists_bind (persists_content owner use source) fun _ => persists_refl _
  | put path content => exact persists_refl _
  | define owner v =>
    exact persists_bind (persists_variableValue owner v.value) fun _ => persists_refl _
  | refuse owner backend => exact persists_refl _

/-- **A row of tasks that succeeds succeeds when nothing is cancelled.** -/
lemma persists_foldlM (l : List Task) (p : Progress) :
    Persists (l.foldlM (task store cancel) p) (l.foldlM (task store .never) p) := by
  induction l generalizing p with
  | nil => exact persists_refl _
  | cons t rest ih =>
    rw [List.foldlM_cons, List.foldlM_cons]
    exact persists_bind (persists_task p t) ih

end Reading

namespace Pass

variable {store : Store} {cancel : Cancellation} {i : InstanceRecord} {records : Records}

lemma prepare_never_of_ok {content : Section.Instance} {fleet : Fleet}
    (h : prepare cancel i records = .ok (content, fleet)) :
    prepare .never i records = .ok (content, fleet) := by
  obtain ⟨hcontent, hfleet⟩ := prepare_eq_ok h
  have hgoes : ¬Cancellation.never.holds 0 0 = true := Bool.false_ne_true
  rw [prepare, if_neg hgoes]
  exact Check.bind_eq_ok_iff.2 ⟨content, Check.mapError_eq_ok_iff.2 hcontent,
    Check.bind_eq_ok_iff.2
      ⟨fleet, Check.mapError_eq_ok_iff.2 (Fleet.ofRecords_never_of_ok hfleet), rfl⟩⟩

/-- **A pass that succeeds gives what it gives when it is not cancelled.** -/
lemma run_never_of_ok {set : ArtifactSet} (h : (run store cancel i records).result = .ok set) :
    (run store .never i records).result = .ok set := by
  obtain ⟨content, fleet, p, course, hprepare, hwork, rfl⟩ := run_eq_ok h
  have hwork' : Reading.exec (Reading.tasks store .never
      (SideFile.tasks (instanceRef i) content fleet)) (Course.afterFleet fleet) = (.ok p, course) :=
    Reading.persists_foldlM _ _ _ _ _ hwork
  rw [run_of_prepare (prepare_never_of_ok hprepare), hwork']
  rfl

end Pass

/-- The same look with the file system breaking off elsewhere. -/
def Look.brokenOff (l : Look) (i : Interruption) : Look := ⟨l.cluster, l.cancel, i⟩

namespace Controller

variable {c : Controller} {s : ControllerState} {l : Look} {set : ArtifactSet}

/-- Looks at one cluster that give an artifact set give the same one. -/
lemma synthesized_unique {l' : Look} {set' : ArtifactSet} (hcluster : l'.cluster = l.cluster)
    (h : c.synthesized l = some set) (h' : c.synthesized l' = some set') : set' = set := by
  obtain ⟨i, records, hfetch, hrun⟩ := exists_run_of_synthesized h
  obtain ⟨i', records', hfetch', hrun'⟩ := exists_run_of_synthesized h'
  rw [hcluster] at hfetch' hrun'
  cases hfetch.symm.trans hfetch'
  exact Except.ok.inj ((Pass.run_never_of_ok hrun').symm.trans (Pass.run_never_of_ok hrun))

/-! ## Looks that take no step -/

/-- **Whether a look takes no step in the directory**: wherever the file system would break off, the
directory stays as it is, and the look comes to the same. -/
structure Idle (c : Controller) (s : ControllerState) (l : Look) : Prop where
  tree : ∀ i, (c.after s (l.brokenOff i)).tree = s.tree
  written : ∀ i, (c.after s (l.brokenOff i)).written = s.written
  result : ∀ i, (c.looked s (l.brokenOff i)).result = (c.looked s l).result

/-- A look that takes no step changes neither the directory nor what is remembered. -/
lemma Idle.unchanged (h : c.Idle s l) :
    (c.after s l).tree = s.tree ∧ (c.after s l).written = s.written :=
  ⟨h.tree l.interruption, h.written l.interruption⟩

/-- What is read for a pass cannot fail as a write does. -/
lemma fetch_ne_write {cluster : Cluster} {w : WriteFault} :
    c.fetch cluster ≠ .error (.write w) := by
  rw [fetch_eq]
  cases c.foundInstance cluster with
  | error fault => nofun
  | ok i => cases c.unreadable? cluster <;> nofun

/-- A look that gives nothing says why, before the file system is asked for anything. -/
lemma result_of_synthesized_none (s : ControllerState) (h : c.synthesized l = none) :
    ∃ fault, (∀ w, fault ≠ .write w) ∧
      ∀ i, (c.looked s (l.brokenOff i)).result = .error fault := by
  rw [synthesized] at h
  simp only [looked, reconcile, look, Look.brokenOff]
  cases hfetch : c.fetch l.cluster with
  | error fault =>
    refine ⟨fault, ?_, fun _ => rfl⟩
    rintro w rfl
    exact fetch_ne_write hfetch
  | ok fetched =>
    obtain ⟨i, records⟩ := fetched
    simp only [hfetch] at h ⊢
    cases hrun : (Pass.run l.cluster.store l.cancel i records).result with
    | error fault =>
      refine ⟨.pass fault, ?_, fun _ => rfl⟩
      rintro w ⟨⟩
    | ok set =>
      rw [hrun] at h
      cases h

/-- **A look that gives nothing is idle.** -/
lemma idle_of_synthesized_none (s : ControllerState) (h : c.synthesized l = none) :
    c.Idle s l := by
  obtain ⟨fault, -, hresult⟩ := result_of_synthesized_none s h
  have hnone : ∀ i, c.synthesized (l.brokenOff i) = none := fun _ => h
  exact ⟨fun i => (looked_of_synthesized_none (hnone i)).2.1,
    fun i => (looked_of_synthesized_none (hnone i)).1,
    fun i => (hresult i).trans (hresult l.interruption).symm⟩

/-- **A look that gives what is remembered is idle.** -/
lemma idle_of_same (hset : c.synthesized l = some set)
    (hsame : s.written = some set.fingerprint) : c.Idle s l := by
  have hsets : ∀ i, c.synthesized (l.brokenOff i) = some set := fun _ => hset
  exact ⟨fun i => (looked_same (hsets i) hsame).2.1, fun i => (looked_same (hsets i) hsame).1,
    fun i => (looked_same (hsets i) hsame).2.2.trans (looked_same hset hsame).2.2.symm⟩

/-- A look that gives nothing fails, and not with its write; a look that fails so gives nothing. -/
lemma synthesized_eq_none_iff (s : ControllerState) (l : Look) :
    c.synthesized l = none ↔
      ∃ fault, (c.looked s l).result = .error fault ∧ ∀ w, fault ≠ .write w := by
  constructor
  · intro h
    obtain ⟨fault, hfault, hresult⟩ := result_of_synthesized_none s h
    exact ⟨fault, hresult l.interruption, hfault⟩
  · rintro ⟨fault, hresult, hfault⟩
    cases c.looked_to s l with
    | nothing hset => exact hset
    | same set hset hsame hwritten htree hok => cases hok.symm.trans hresult
    | written set hset hnew hwrite hwritten htree hok => cases hok.symm.trans hresult
    | broken set w hset hnew herror =>
      rw [(looked_broken hset hnew herror).2.2] at hresult
      exact absurd (Except.error.inj hresult).symm (hfault w)

/-- Only an artifact set that is not remembered is written. -/
lemma new_of_not_idle (h : ¬c.Idle s l) :
    ∃ set, c.synthesized l = some set ∧ s.written ≠ some set.fingerprint := by
  cases hset : c.synthesized l with
  | none => exact absurd (idle_of_synthesized_none s hset) h
  | some set => exact ⟨set, rfl, fun hsame => h (idle_of_same hset hsame)⟩

/-- A look that succeeds gives an artifact set, which is remembered then. -/
lemma written_of_ok (h : (c.looked s l).result = .ok ()) :
    ∃ set, c.synthesized l = some set ∧ (c.after s l).written = some set.fingerprint := by
  cases c.looked_to s l with
  | nothing hset hwritten htree hfail => exact absurd h hfail
  | same set hset hsame hwritten => exact ⟨set, hset, hwritten.trans hsame⟩
  | written set hset hnew hwrite hwritten => exact ⟨set, hset, hwritten⟩
  | broken set fault hset hnew herror hwritten htree hfail => exact absurd h hfail

/-- A look that fails changes nothing of what is remembered. -/
lemma written_of_ne_ok (h : (c.looked s l).result ≠ .ok ()) :
    (c.after s l).written = s.written := by
  cases c.looked_to s l with
  | nothing hset hwritten => exact hwritten
  | same set hset hsame hwritten => exact hwritten
  | written set hset hnew hwrite hwritten htree hok => exact absurd hok h
  | broken set fault hset hnew herror hwritten => exact hwritten

/-- **Looks at a cluster whose artifact set is remembered are idle**, also those that are
cancelled. -/
lemma idle_of_cluster {l' : Look} (hcluster : l'.cluster = l.cluster)
    (hset : c.synthesized l = some set) (hsame : s.written = some set.fingerprint) :
    c.Idle s l' := by
  cases hset' : c.synthesized l' with
  | none => exact idle_of_synthesized_none s hset'
  | some set' =>
    obtain rfl : set' = set := synthesized_unique hcluster hset hset'
    exact idle_of_same hset' hsame

/-! ## Histories -/

/-- Any number of looks at such a cluster change nothing. -/
lemma unchanged_of_cluster {again : List Look} (hcluster : ∀ l' ∈ again, l'.cluster = l.cluster)
    (hset : c.synthesized l = some set) (hsame : s.written = some set.fingerprint) :
    (c.afterAll s again).tree = s.tree ∧ (c.afterAll s again).written = s.written := by
  induction again generalizing s with
  | nil => exact ⟨rfl, rfl⟩
  | cons l' rest ih =>
    have hidle : c.Idle s l' := idle_of_cluster (hcluster l' List.mem_cons_self) hset hsame
    obtain ⟨htree, hwritten⟩ := hidle.unchanged
    obtain ⟨htrees, hall⟩ := ih (fun l'' h => hcluster l'' (List.mem_cons_of_mem _ h))
      (hwritten.trans hsame)
    rw [afterAll_cons]
    exact ⟨htrees.trans htree, hall.trans hwritten⟩

/-- The fingerprint that the last successful one of several looks gave. -/
def lastFingerprint (c : Controller) : ControllerState → List Look → Option String
  | _, [] => none
  | s, l :: rest =>
    (lastFingerprint c (c.after s l) rest).or
      (match (c.looked s l).result with
        | .ok () => (c.synthesized l).map ArtifactSet.fingerprint
        | .error _ => none)

/-- **What is remembered after several looks** is what the last successful one gave, or what was
remembered before if none of them succeeded. -/
lemma written_afterAll (c : Controller) (s : ControllerState) (looks : List Look) :
    (c.afterAll s looks).written = (c.lastFingerprint s looks).or s.written := by
  induction looks generalizing s with
  | nil => rfl
  | cons l rest ih =>
    rw [afterAll_cons, ih, lastFingerprint, Option.or_assoc]
    congr 1
    cases hresult : (c.looked s l).result with
    | ok =>
      obtain ⟨set, hset, hwritten⟩ := written_of_ok hresult
      rw [hwritten, hset]
      rfl
    | error fault =>
      rw [written_of_ne_ok (by rw [hresult]; exact nofun)]
      rfl

/-- **Fingerprints and writes.**  For a controller in any state, after any looks: a look that reads
no records or whose pass fails takes no step in the directory and forgets nothing; a look takes
steps only for an artifact set whose fingerprint is not the remembered one; what is remembered
changes only in a look that succeeds, and is then the fingerprint of what the look gave; after such
a look all looks at the same cluster are idle, whatever becomes of them.  So what is remembered is
always what the last successful look gave. -/
theorem looks_keep_fingerprint (c : Controller) (start : ControllerState) (looks : List Look)
    (l : Look) :
    let s := c.afterAll start looks
    (c.synthesized l = none ↔
      ∃ fault, (c.looked s l).result = .error fault ∧ ∀ w, fault ≠ .write w) ∧
    (c.synthesized l = none → c.Idle s l) ∧
    (¬c.Idle s l → ∃ set, c.synthesized l = some set ∧ s.written ≠ some set.fingerprint) ∧
    ((c.after s l).written ≠ s.written → (c.looked s l).result = .ok ()) ∧
    ((c.looked s l).result = .ok () →
      (∃ set, c.synthesized l = some set ∧ (c.after s l).written = some set.fingerprint) ∧
        ∀ again : List Look, (∀ l' ∈ again, l'.cluster = l.cluster) →
          ((c.afterAll (c.after s l) again).tree = (c.after s l).tree ∧
            (c.afterAll (c.after s l) again).written = (c.after s l).written) ∧
          ∀ l' : Look, l'.cluster = l.cluster → c.Idle (c.afterAll (c.after s l) again) l') ∧
    s.written = (c.lastFingerprint start looks).or start.written := by
  intro s
  refine ⟨synthesized_eq_none_iff s l, idle_of_synthesized_none s, new_of_not_idle, ?_, ?_,
    written_afterAll c start looks⟩
  · intro hchanged
    by_contra hfail
    exact hchanged (written_of_ne_ok hfail)
  · intro hok
    obtain ⟨set, hset, hwritten⟩ := written_of_ok hok
    refine ⟨⟨set, hset, hwritten⟩, fun again hagain => ?_⟩
    have hunchanged := unchanged_of_cluster hagain hset hwritten
    exact ⟨hunchanged, fun l' hcluster =>
      idle_of_cluster hcluster hset (hunchanged.2.trans hwritten)⟩

/-- A look at a cluster that holds nothing. -/
def emptyLook : Look := ⟨⟨[]⟩, .never, .never⟩

/-- A certificate that stays is written once, and is left alone when the instance is gone. -/
theorem looks_keep_fingerprint_instance_gone :
    (edge.looked fresh firstLook).result = .ok () ∧ edge.synthesized emptyLook = none ∧
      edge.Idle (edge.after fresh firstLook) firstLook ∧
      edge.Idle (edge.after fresh firstLook) emptyLook ∧
      (edge.after fresh firstLook).written = some (certifiedSet "one").fingerprint := by
  obtain ⟨hwrite, hwritten, -⟩ := after_first_look
  have hnew : fresh.written ≠ some (certifiedSet "one").fingerprint := nofun
  have hok : (edge.looked fresh firstLook).result = .ok () :=
    (looked_written synthesized_firstLook hnew hwrite).2.2
  have hgone : edge.synthesized emptyLook = none := by cbv
  obtain ⟨-, -, -, -, hrepeat, -⟩ := looks_keep_fingerprint edge fresh [] firstLook
  obtain ⟨-, hidle, -⟩ := looks_keep_fingerprint edge fresh [firstLook] emptyLook
  exact ⟨hok, hgone, ((hrepeat hok).2 [] (by simp)).2 firstLook rfl, hidle hgone, hwritten⟩

end Controller

end ProxyFleet
