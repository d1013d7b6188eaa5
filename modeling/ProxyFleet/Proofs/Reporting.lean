import ProxyFleet.Proofs.Counting
import ProxyFleet.Proofs.ReportedStatuses

/-!
# Reports that change nothing

What comes of a report goes nowhere but into the list of what came of the reports, and into the
status of an object that the next look reads again.  Nothing but the metadata and the specification
of a record matters to a pass, so the way through the cluster leads nowhere either.

**Passes.**  A pass makes the same of records whatever statuses they have (`Pass.run_unreported`).

**Looks.**  A look is its pass, which it runs as a synthesizer does
(`Controller.synthesize_eq_look`), and what is made of it.  It leaves the same at either of two
clusters that differ in statuses, wherever it reports to (`Controller.effect_look`), and so does a
row of looks (`Controller.effects_history`).

Main statement: `Controller.reports_change_nothing`.
-/

namespace ProxyFleet

/-! ## Passes -/

lemma Record.sorted_map_unreported {σ τ : Type} (l : List (Record σ τ)) :
    sorted (l.map unreported) = (sorted l).map unreported := by
  have horder : ∀ a ∈ l, ∀ b ∈ l, (!b.before a) = !b.unreported.before a.unreported :=
    fun _ _ _ _ => rfl
  exact (List.map_mergeSort horder).symm

lemma Entry.ofRecords_map_unreported {σ τ α : Type} (cancel : Cancellation) (kind : RecordKind)
    (space : String) (check : String → σ → Except Fault α) (claims : Claims)
    (l : List (Record σ τ)) :
    ofRecords cancel kind space check claims (l.map Record.unreported) =
      ofRecords cancel kind space check claims l := by
  induction l generalizing claims with
  | nil => rfl
  | cons r rest ih =>
    have hrecord : ofRecord cancel kind space check claims r.unreported =
        ofRecord cancel kind space check claims r := rfl
    simp only [List.map_cons, ofRecords, hrecord, ih]

lemma Fleet.ofRecords_unreported (cancel : Cancellation) (owner : RecordRef) (records : Records) :
    ofRecords cancel owner records.unreported = ofRecords cancel owner records := by
  simp only [ofRecords, Records.unreported, Record.sorted_map_unreported,
    Entry.ofRecords_map_unreported]

/-- **A pass does not look at statuses.** -/
lemma Pass.run_unreported (store : Store) (cancel : Cancellation) (i : InstanceRecord)
    (records : Records) : run store cancel i.unreported records.unreported =
      run store cancel i records := by
  have hprepare : prepare cancel i.unreported records.unreported = prepare cancel i records := by
    rw [prepare, prepare]
    simp only [Fleet.ofRecords_unreported]
    rfl
  rw [run, run, hprepare]
  rfl

/-- Passes over the same values and the same records but for statuses, wherever they report to. -/
structure PassInput.SameButReports (p q : PassInput) : Prop where
  store : p.store = q.store
  cancel : p.cancel = q.cancel
  proxyInstance : p.proxyInstance.unreported = q.proxyInstance.unreported
  records : p.records.unreported = q.records.unreported

lemma PassInput.SameButReports.outcome_eq {p q : PassInput} (h : p.SameButReports q) :
    p.outcome = q.outcome := by
  rw [outcome, outcome, ← Pass.run_unreported, h.store, h.cancel, h.proxyInstance, h.records,
    Pass.run_unreported]

/-- **Passes come to the same one by one**, and so do the counters. -/
lemma Synthesizer.run_congr (t : Synthesizer) {passes others : List PassInput}
    (h : List.Forall₂ PassInput.SameButReports passes others) :
    (t.run passes).1.map (·.outcome) = (t.run others).1.map (·.outcome) ∧
      (t.run passes).2 = (t.run others).2 := by
  have houtcomes : passes.map (·.outcome) = others.map (·.outcome) := by
    induction h with
    | nil => rfl
    | cons hpass _ ih => rw [List.map_cons, List.map_cons, hpass.outcome_eq, ih]
  have hresults : passes.map (·.outcome.result) = others.map (·.outcome.result) := by
    have hmap := congrArg (List.map Outcome.result) houtcomes
    rwa [List.map_map, List.map_map] at hmap
  rw [run_eq, run_eq, hresults, List.map_map, List.map_map]
  exact ⟨houtcomes, rfl⟩

/-! ## Looks -/

/-- Looks at clusters whose objects differ in their statuses at most. -/
structure Look.SameButStatuses (l m : Look) : Prop where
  cluster : l.cluster.SameButStatuses m.cluster
  cancel : l.cancel = m.cancel
  interruption : l.interruption = m.interruption

/-- What a look leaves, apart from what came of its reports. -/
def Reconciled.effect (r : Reconciled) : ControllerState × Except ReconcileFault Unit :=
  (r.state, r.result)

namespace Controller

variable {c : Controller} {l m : Look}

/-- What the pass of a look comes to, unless there are no records for it. -/
def passOf (c : Controller) (l : Look) : Except ReconcileFault Outcome :=
  (c.fetch l.cluster).map fun fetched =>
    Pass.run l.cluster.store l.cancel fetched.1 fetched.2

lemma passOf_eq (h : l.SameButStatuses m) : c.passOf l = c.passOf m := by
  have hpass : ∀ l : Look, c.passOf l =
      ((c.fetch l.cluster).map (fun fetched => (fetched.1.unreported, fetched.2.unreported))).map
        fun fetched => Pass.run l.cluster.store l.cancel fetched.1 fetched.2 := by
    intro l
    rw [passOf]
    cases c.fetch l.cluster with
    | error fault => rfl
    | ok fetched => simp only [Except.map, Pass.run_unreported]
  rw [hpass, hpass, map_fetch h.cluster, h.cluster.store_eq, h.cancel]

/-- What a look makes of its pass. -/
def settle (c : Controller) (sink : StatusSink) (i : Interruption) (s : ControllerState) :
    Except ReconcileFault Outcome → Reconciled
  | .error fault => ⟨s, [], .error fault⟩
  | .ok o =>
    let s := ⟨s.written, s.counters.record o.result, s.tree⟩
    let reports := o.statuses.map sink
    match o.result with
    | .error fault => ⟨s, reports, .error (.pass fault)⟩
    | .ok set => ⟨(c.publish i set s).1, reports, (c.publish i set s).2⟩

/-- A look is nothing but its pass and what is made of it. -/
lemma look_eq_settle (c : Controller) (l : Look) (sink : StatusSink) (s : ControllerState) :
    c.look l.cluster sink l.cancel l.interruption s =
      c.settle sink l.interruption s (c.passOf l) := by
  rw [look, passOf]
  cases c.fetch l.cluster with
  | error fault => rfl
  | ok fetched =>
    cases hr : (Pass.run l.cluster.store l.cancel fetched.1 fetched.2).result with
    | error fault => simp only [Except.map, settle, hr]
    | ok set => simp only [Except.map, settle, hr]

lemma counters_publish (i : Interruption) (set : ArtifactSet) (s : ControllerState) :
    (c.publish i set s).1.counters = s.counters := by
  rw [publish]
  split
  · rfl
  · dsimp only
    split <;> rfl

/-- **The pass of a look is that of a synthesizer**, which reports the same statuses and counts the
same result. -/
lemma synthesize_eq_look {i : InstanceRecord} {records : Records}
    (hfetch : c.fetch l.cluster = .ok (i, records)) (sink : StatusSink) (s : ControllerState) :
    let p : PassInput := ⟨l.cluster.store, sink, l.cancel, i, records⟩
    let r := c.look l.cluster sink l.cancel l.interruption s
    (⟨some s.counters⟩ : Synthesizer).synthesize p =
      (⟨p.outcome, r.reports⟩, ⟨some r.state.counters⟩) := by
  intro p r
  have hsink : p.sink = sink := rfl
  have hr : r = c.settle sink l.interruption s (.ok p.outcome) := by
    have hpass : c.passOf l = .ok p.outcome := by
      rw [passOf, hfetch]
      rfl
    rw [← hpass]
    exact look_eq_settle c l sink s
  rw [hr, settle]
  cases hresult : p.outcome.result with
  | error fault => simp only [Synthesizer.synthesize, hresult, hsink, Option.map_some]
  | ok set =>
    simp only [Synthesizer.synthesize, hresult, hsink, Option.map_some, counters_publish]

lemma effect_settle (p q : StatusSink) (i : Interruption) (s : ControllerState)
    (pass : Except ReconcileFault Outcome) :
    (c.settle p i s pass).effect = (c.settle q i s pass).effect := by
  cases pass with
  | error fault => rfl
  | ok o =>
    rw [settle, settle]
    cases o.result <;> rfl

lemma reports_settle (sink : StatusSink) (i : Interruption) (s : ControllerState)
    (pass : Except ReconcileFault Outcome) : ∃ statuses : List StatusWrite,
      (c.settle sink i s pass).reports = statuses.map sink := by
  cases pass with
  | error fault => exact ⟨[], rfl⟩
  | ok o =>
    refine ⟨o.statuses, ?_⟩
    rw [settle]
    cases o.result <;> rfl

/-- **One look leaves the same** at either cluster, wherever the statuses are reported to. -/
lemma effect_look (h : l.SameButStatuses m) (p q : StatusSink) (s : ControllerState) :
    (c.look l.cluster p l.cancel l.interruption s).effect =
      (c.look m.cluster q m.cancel m.interruption s).effect := by
  rw [look_eq_settle, look_eq_settle, passOf_eq h, h.interruption, effect_settle p q]

/-- A controller that does not report sends no requests. -/
lemma requests_looked (hreports : c.reports = false) (s : ControllerState) (l : Look) :
    (c.looked s l).requests = [] := by
  have hoff : c.sink l.cluster = .off := by
    rw [sink, hreports]
    rfl
  have hnone : ∀ w, (StatusSink.off w).request = none := fun _ => rfl
  rw [looked, reconcile, hoff, look_eq_settle, Reconciled.requests]
  obtain ⟨statuses, hstatuses⟩ := reports_settle (c := c) .off l.interruption s (c.passOf l)
  simp [hstatuses, List.filterMap_map, hnone]

end Controller

/-! ## Rows of looks -/

/-- A look, and where it reports statuses to. -/
structure Visit where
  look : Look
  sink : StatusSink

/-- Visits to clusters whose objects differ in their statuses at most, wherever they report to. -/
def Visit.SameButReports (v w : Visit) : Prop := v.look.SameButStatuses w.look

namespace Controller

/-- What comes of a visit. -/
def visited (c : Controller) (s : ControllerState) (v : Visit) : Reconciled :=
  c.look v.look.cluster v.sink v.look.cancel v.look.interruption s

/-- What comes of several visits one after another. -/
def history (c : Controller) : ControllerState → List Visit → List Reconciled
  | _, [] => []
  | s, v :: rest => c.visited s v :: history c (c.visited s v).state rest

/-- A look at a cluster that also gets the reports, if there are any. -/
def visit (c : Controller) (l : Look) : Visit := ⟨l, c.sink l.cluster⟩

/-- What comes of several looks one after another. -/
def lookedAll (c : Controller) : ControllerState → List Look → List Reconciled
  | _, [] => []
  | s, l :: rest => c.looked s l :: lookedAll c (c.after s l) rest

/-- The same controller, but for whether it reports statuses. -/
def reporting (c : Controller) (b : Bool) : Controller := ⟨c.space, c.name, b, c.directory⟩

variable {c : Controller} {s : ControllerState}

lemma lookedAll_eq_history (looks : List Look) :
    c.lookedAll s looks = c.history s (looks.map c.visit) := by
  induction looks generalizing s with
  | nil => rfl
  | cons l rest ih =>
    rw [lookedAll, List.map_cons, history, ih]
    rfl

/-- Apart from where a look reports to, it does not matter whether a controller reports. -/
lemma history_reporting (b : Bool) (visits : List Visit) :
    (c.reporting b).history s visits = c.history s visits := by
  induction visits generalizing s with
  | nil => rfl
  | cons v rest ih =>
    rw [history, history, ih]
    rfl

/-- **A row of looks leaves the same.** -/
lemma effects_history {visits again : List Visit}
    (h : List.Forall₂ Visit.SameButReports visits again) (s : ControllerState) :
    (c.history s visits).map Reconciled.effect = (c.history s again).map Reconciled.effect := by
  induction h generalizing s with
  | nil => rfl
  | @cons v w rest rest' hvisit _ ih =>
    have heffect : (c.visited s v).effect = (c.visited s w).effect :=
      effect_look hvisit v.sink w.sink s
    have hstate : (c.visited s v).state = (c.visited s w).state := congrArg Prod.fst heffect
    rw [history, history, List.map_cons, List.map_cons, heffect, hstate, ih]

lemma effects_lookedAll_reporting {looks others : List Look}
    (h : List.Forall₂ Look.SameButStatuses looks others) (b b' : Bool) (s : ControllerState) :
    ((c.reporting b).lookedAll s looks).map Reconciled.effect =
      ((c.reporting b').lookedAll s others).map Reconciled.effect := by
  have hvisits : List.Forall₂ Visit.SameButReports
      (looks.map (c.reporting b).visit) (others.map (c.reporting b').visit) := by
    rw [List.forall₂_map_left_iff, List.forall₂_map_right_iff]
    exact h
  rw [lookedAll_eq_history, lookedAll_eq_history, history_reporting, history_reporting,
    effects_history hvisits]

lemma requests_lookedAll (hreports : c.reports = false) (looks : List Look) :
    ∀ r ∈ c.lookedAll s looks, r.requests = [] := by
  induction looks generalizing s with
  | nil => simp [lookedAll]
  | cons l rest ih =>
    rw [lookedAll, List.forall_mem_cons]
    exact ⟨requests_looked hreports s l, ih⟩

/-- **What becomes of reports changes nothing else.**  Two rows of passes over the same values and
the same records come to the same results, reads and statuses and leave the same counters, whichever
reports succeed, and whatever statuses the records have from before.  Two rows of looks at the same
clusters, but for the statuses in their objects, run the same passes and leave the same counters,
the same directory and the same fingerprint with the same result each time, wherever they report to,
and so does a controller that does not report at all, which sends no requests. -/
theorem reports_change_nothing (t : Synthesizer) {passes others : List PassInput}
    (hpasses : List.Forall₂ PassInput.SameButReports passes others) (c : Controller)
    (s : ControllerState) {visits again : List Visit}
    (hvisits : List.Forall₂ Visit.SameButReports visits again) :
    ((t.run passes).1.map (·.outcome) = (t.run others).1.map (·.outcome) ∧
      (t.run passes).2 = (t.run others).2) ∧
    (visits.map (c.passOf ·.look) = again.map (c.passOf ·.look) ∧
      (c.history s visits).map Reconciled.effect = (c.history s again).map Reconciled.effect) ∧
    (((c.reporting true).lookedAll s (visits.map (·.look))).map Reconciled.effect =
        ((c.reporting false).lookedAll s (again.map (·.look))).map Reconciled.effect ∧
      ∀ r ∈ (c.reporting false).lookedAll s (again.map (·.look)), r.requests = []) := by
  have hlooks : List.Forall₂ Look.SameButStatuses (visits.map (·.look)) (again.map (·.look)) := by
    rw [List.forall₂_map_left_iff, List.forall₂_map_right_iff]
    exact hvisits
  refine ⟨t.run_congr hpasses, ⟨?_, effects_history hvisits s⟩,
    effects_lookedAll_reporting hlooks true false s, requests_lookedAll rfl _⟩
  clear hlooks
  induction hvisits with
  | nil => rfl
  | cons hvisit _ ih => rw [List.map_cons, List.map_cons, passOf_eq hvisit, ih]

/-- The members of the object of the shop's instance. -/
def shopMembers : List (String × Json) :=
  [("apiVersion", .text RecordKind.proxyInstance.apiVersion),
    ("kind", .text RecordKind.proxyInstance.name),
    ("metadata", Metadata.schema.format.write shopInstance.metadata),
    ("spec", Spec.Instance.schema.format.write shopInstance.spec)]

/-- The same after the instance has been reported to run. -/
def runningMembers : List (String × Json) :=
  shopMembers ++ [("status", .object [("phase", .text "Running")])]

lemma merges_runningMembers :
    StatusWrite.Merges ⟨⟨.proxyInstance, "edge", "fleet"⟩, .active, ""⟩ shopMembers
      runningMembers := by
  refine ⟨.append_status ⟨_, rfl⟩ _, _, rfl, rfl, rfl, fun key hphase _ => ?_⟩
  have hnone : [("phase", Json.text "Running")].lookup key = none := by simp [hphase]
  rw [hnone]
  rfl

/-- It makes no difference that every report fails, nor that an earlier one has succeeded. -/
theorem reports_change_nothing_running_shop :
    let failing : StatusSink := fun w => ⟨none, .error w.faultMessage⟩
    let quiet : Visit := ⟨⟨shopCluster [], .never, .never⟩, .off⟩
    let loud : Visit := ⟨⟨⟨[.object runningMembers]⟩, .never, .never⟩, failing⟩
    let running : InstanceRecord :=
      ⟨shopInstance.metadata, shopInstance.spec, some ⟨.running, ""⟩⟩
    let store : Store := fun _ => .ok none
    let p : PassInput := ⟨store, .off, .never, shopInstance, ⟨[], [], [], []⟩⟩
    let q : PassInput := ⟨store, failing, .never, running, ⟨[], [], [], []⟩⟩
    List.Forall₂ PassInput.SameButReports [p] [q] ∧
      List.Forall₂ Visit.SameButReports [quiet] [loud] ∧
      (Synthesizer.fresh.run [p]).2 = (Synthesizer.fresh.run [q]).2 ∧
      (edge.history fresh [quiet]).map Reconciled.effect =
        (edge.history fresh [loud]).map Reconciled.effect := by
  intro failing quiet loud running store p q
  have hcluster : quiet.look.cluster.SameButStatuses loud.look.cluster :=
    .cons (merges_runningMembers.sameButStatus rfl (by cbv)) .nil
  have hpasses : List.Forall₂ PassInput.SameButReports [p] [q] := .cons ⟨rfl, rfl, rfl, rfl⟩ .nil
  have hvisits : List.Forall₂ Visit.SameButReports [quiet] [loud] :=
    .cons ⟨hcluster, rfl, rfl⟩ .nil
  obtain ⟨⟨-, hcounters⟩, ⟨-, heffects⟩, -⟩ :=
    reports_change_nothing Synthesizer.fresh hpasses edge fresh hvisits
  exact ⟨hpasses, hvisits, hcounters, heffects⟩

end Controller

end ProxyFleet
