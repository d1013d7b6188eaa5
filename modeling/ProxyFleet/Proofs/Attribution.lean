import ProxyFleet.Proofs.ReadOrder

/-!
# Whom a failed look-up is blamed on

A pass that cannot read a stored value reports this on a record.

**Own references.**  `Records.Contains` says whether the specification of a record, or of the
instance, contains a reference, be it used or not.  What a record needs stands in its own
specification, unless it is a frontend and takes the host certificate of a backend
(`Spec.Frontend.mem_kept_cases`).

**Borrowed references.**  `Records.Borrows` says whether a frontend reads a reference only for such a
backend.  Then the frontend is blamed, although the reference stands in the backend alone.

Main statement: `Pass.lookup_blames_iff`.
-/

namespace ProxyFleet

open Spec (Kept)

/-! ## Own references -/

namespace Spec

variable {space : String} {ref : StoreRef} {k : Kept}

/-- The references that stand in a declaration, even if a text is given in place. -/
def Kept.mentioned (space : String) : Kept → List StoreRef
  | .certificate c => c.sources.flatMap (Section.Certificate.refsOf space)
  | .page p => p.configMapKey.toList.map (fun r => ⟨.configMap, space, r.name, r.key⟩)
  | .header v =>
    ((v.env.bind (·.source)).bind (·.secretKey)).toList.map
      (fun r => ⟨.secret, space, r.name, r.key⟩)

lemma Kept.mem_mentioned (h : ref ∈ k.refs space) : ref ∈ k.mentioned space := by
  cases k with
  | certificate c =>
    rw [refs] at h
    split at h
    · cases h
    · exact h
  | page p =>
    rw [refs] at h
    split at h
    · cases h
    · exact h
  | header v => exact h

/-- The certificates of encryption, enabled or not. -/
def Tls.declared (t : Option Tls) : List Kept :=
  t.toList.flatMap (fun t => t.certificates.map .certificate)

/-- What stands in an address. -/
def Bind.declared (b : Bind) : List Kept :=
  Tls.declared b.tls ++
    b.certificateList.toList.flatMap (fun l => l.elements.map (.certificate ·.certificate))

/-- What stands in servers and templates. -/
def Server.declaredByAll (servers : List Server) (templates : List ServerTemplate) : List Kept :=
  (servers.map (·.params) ++ templates.map (·.params)).flatMap (fun s => Tls.declared s.tls)

/-- What stands in a listen. -/
def Listen.declared (l : Listen) : List Kept :=
  l.binds.flatMap Bind.declared ++ Server.declaredByAll l.servers l.templates ++ l.base.kept ++
    l.hostCertificate.toList.map (.certificate ·.certificate)

/-- What stands in a frontend. -/
def Frontend.declared (f : Frontend) : List Kept := f.binds.flatMap Bind.declared ++ f.base.kept

/-- What stands in a backend. -/
def Backend.declared (b : Backend) : List Kept :=
  Server.declaredByAll b.servers b.templates ++ b.base.kept ++
    b.hostCertificate.toList.map (.certificate ·.certificate)

lemma Tls.mem_declared {t : Option Tls} (h : k ∈ Tls.kept t) : k ∈ Tls.declared t := by
  obtain ⟨tls, htls, hk⟩ := List.mem_flatMap.1 h
  rw [Option.mem_toList, Option.filter_eq_some_iff] at htls
  exact List.mem_flatMap.2 ⟨tls, Option.mem_toList.2 htls.1, hk⟩

/-- What an address keeps stands in it, but for further certificates. -/
lemma Bind.mem_kept_cases {b : Bind} {extra : List CertificateElement} (h : k ∈ b.kept extra) :
    k ∈ b.declared ∨ ∃ e ∈ extra, k = .certificate e.certificate := by
  rcases List.mem_append.1 h with h | h
  · exact .inl (List.mem_append_left _ (Tls.mem_declared h))
  · obtain ⟨l, hl, hk⟩ := List.mem_flatMap.1 h
    obtain ⟨t, -, hlist⟩ := Option.bind_eq_some_iff.1 (Option.mem_toList.1 hl)
    obtain ⟨e, he, rfl⟩ := List.mem_map.1 hk
    rcases List.mem_append.1 he with he | he
    · exact .inl (List.mem_append_right _ (List.mem_flatMap.2
        ⟨l, Option.mem_toList.2 hlist, List.mem_map_of_mem he⟩))
    · exact .inr ⟨e, he, rfl⟩

lemma Server.mem_declaredByAll {servers : List Server} {templates : List ServerTemplate}
    (h : k ∈ keptByAll servers templates) : k ∈ declaredByAll servers templates := by
  obtain ⟨s, hs, hk⟩ := List.mem_flatMap.1 h
  exact List.mem_flatMap.2 ⟨s, hs, Tls.mem_declared hk⟩

/-- What a listen keeps stands in it. -/
lemma Listen.mem_declared {l : Listen} (h : k ∈ l.kept) : k ∈ l.declared := by
  simp only [kept, declared, List.mem_append] at h ⊢
  rcases h with (h | h) | h
  · obtain ⟨b, hb, hk⟩ := List.mem_flatMap.1 h
    rcases Bind.mem_kept_cases hk with hk | ⟨e, he, rfl⟩
    · exact .inl (.inl (.inl (List.mem_flatMap.2 ⟨b, hb, hk⟩)))
    · exact .inr (List.mem_map_of_mem he)
  · exact .inl (.inl (.inr (Server.mem_declaredByAll h)))
  · exact .inl (.inr h)

/-- What a backend keeps stands in it. -/
lemma Backend.mem_declared {b : Backend} (h : k ∈ b.kept) : k ∈ b.declared := by
  simp only [kept, declared, List.mem_append] at h ⊢
  rcases h with h | h
  · exact .inl (.inl (Server.mem_declaredByAll h))
  · exact .inl (.inr h)

/-- Whether a certificate list of a frontend selects records with certain labels. -/
def Frontend.Selects (f : Frontend) (labels : Labels) : Prop :=
  ∃ b ∈ f.binds, ∃ s : Selector, b.countedList.bind (·.selector) = some s ∧
    s.selects labels = true

/-- **What a frontend keeps stands in it, or comes from a selector.** -/
lemma Frontend.mem_kept_cases {f : Frontend} {hosts : Selector → List CertificateElement}
    (h : k ∈ f.kept hosts) : k ∈ f.declared ∨
      ∃ b ∈ f.binds, ∃ s, b.countedList.bind (·.selector) = some s ∧
        ∃ e ∈ hosts s, k = .certificate e.certificate := by
  simp only [kept, declared, List.mem_append] at h ⊢
  rcases h with h | h
  · obtain ⟨b, hb, hk⟩ := List.mem_flatMap.1 h
    rcases Bind.mem_kept_cases hk with hk | ⟨e, he, rfl⟩
    · exact .inl (.inl (List.mem_flatMap.2 ⟨b, hb, hk⟩))
    · rw [Bind.selected] at he
      cases hs : b.countedList.bind (·.selector) with
      | none =>
        rw [hs] at he
        cases he
      | some s =>
        rw [hs] at he
        exact .inr ⟨b, hb, s, hs, e, he, rfl⟩
  · exact .inl (.inr h)

end Spec

namespace Records

/-- **Whether a specification of its own contains a reference**, for a record or the instance. -/
inductive Contains (r : Records) (i : InstanceRecord) (ref : StoreRef) : RecordRef → Prop
  | owner {k : Kept} (hk : k ∈ i.spec.kept) (href : ref ∈ k.mentioned (Pass.instanceRef i).space) :
    Contains r i ref (Pass.instanceRef i)
  | listen {l : ListenRecord} {k : Kept} (hl : l ∈ r.listens) (hk : k ∈ l.spec.declared)
    (href : ref ∈ k.mentioned (Pass.instanceRef i).space) :
    Contains r i ref (l.ref .listen (Pass.instanceRef i).space)
  | frontend {f : FrontendRecord} {k : Kept} (hf : f ∈ r.frontends) (hk : k ∈ f.spec.declared)
    (href : ref ∈ k.mentioned (Pass.instanceRef i).space) :
    Contains r i ref (f.ref .frontend (Pass.instanceRef i).space)
  | backend {b : BackendRecord} {k : Kept} (hb : b ∈ r.backends) (hk : k ∈ b.spec.declared)
    (href : ref ∈ k.mentioned (Pass.instanceRef i).space) :
    Contains r i ref (b.ref .backend (Pass.instanceRef i).space)

/-- **Whether a record is a frontend that reads a value only for a backend**: its own specification
does not contain the reference, but it selects a backend whose host certificate needs it. -/
def Borrows (r : Records) (i : InstanceRecord) (ref : StoreRef) (record : RecordRef) : Prop :=
  let space := (Pass.instanceRef i).space
  ∃ f ∈ r.frontends, record = f.ref .frontend space ∧
    (∀ k ∈ f.spec.declared, ref ∉ k.mentioned space) ∧
    ∃ b ∈ r.backends, f.spec.Selects b.metadata.allLabels ∧
      ∃ e, b.spec.hostCertificate = some e ∧ ref ∈ (Kept.certificate e.certificate).refs space

variable {r : Records} {i : InstanceRecord} {record : RecordRef} {ref : StoreRef} {n : Need}

/-- The order of the records does not matter. -/
lemma Contains.of_perm {a b : Records} (h : a.Contains i ref record) (hp : a.Perm b) :
    b.Contains i ref record := by
  cases h with
  | owner hk href => exact .owner hk href
  | listen hl hk href => exact .listen (hp.listens.mem_iff.1 hl) hk href
  | frontend hf hk href => exact .frontend (hp.frontends.mem_iff.1 hf) hk href
  | backend hb hk href => exact .backend (hp.backends.mem_iff.1 hb) hk href

lemma Borrows.of_perm {a b : Records} (h : a.Borrows i ref record) (hp : a.Perm b) :
    b.Borrows i ref record := by
  obtain ⟨f, hf, hrecord, hown, lender, hlender, hselects⟩ := h
  exact ⟨f, hp.frontends.mem_iff.1 hf, hrecord, hown, lender, hp.backends.mem_iff.1 hlender,
    hselects⟩

/-- **A value that is needed stands in the record that it is read for, or is borrowed.** -/
lemma contains_or_borrows (hn : n ∈ r.needs i)
    (href : ref ∈ n.value.refs (Pass.instanceRef i).space) :
    r.Contains i ref n.record ∨ r.Borrows i ref n.record := by
  simp only [needs, List.mem_append, List.mem_flatMap, List.mem_map] at hn
  have hmentioned := Kept.mem_mentioned href
  rcases hn with ((⟨k, hk, rfl⟩ | ⟨l, hl, k, hk, rfl⟩) | ⟨f, hf, k, hk, rfl⟩) | ⟨b, hb, k, hk, rfl⟩
  · exact .inl (.owner hk hmentioned)
  · exact .inl (.listen hl (Spec.Listen.mem_declared hk) hmentioned)
  · by_cases hown : ∃ k ∈ f.spec.declared, ref ∈ k.mentioned (Pass.instanceRef i).space
    · obtain ⟨k, hk, hkref⟩ := hown
      exact .inl (.frontend hf hk hkref)
    · rcases Spec.Frontend.mem_kept_cases hk with hk | ⟨bind, hbind, s, hs, e, he, rfl⟩
      · exact absurd ⟨k, hk, hmentioned⟩ hown
      · obtain ⟨b, hb, hhost⟩ := List.mem_filterMap.1 he
        obtain ⟨hb, hselects⟩ := List.mem_filter.1 hb
        exact .inr ⟨f, hf, rfl, fun k hk hkref => hown ⟨k, hk, hkref⟩, b, hb,
          ⟨bind, hbind, s, hs, hselects⟩, e, hhost, href⟩
  · exact .inl (.backend hb (Spec.Backend.mem_declared hk) hmentioned)

/-- What is borrowed stands in a backend. -/
lemma Borrows.exists_backend (h : r.Borrows i ref record) : record.kind = .frontend ∧
    ∃ b ∈ r.backends, r.Contains i ref (b.ref .backend (Pass.instanceRef i).space) := by
  obtain ⟨f, -, rfl, -, b, hb, -, e, hhost, href⟩ := h
  refine ⟨rfl, b, hb, .backend hb ?_ (Kept.mem_mentioned href)⟩
  simp [Spec.Backend.declared, hhost]

/-- A frontend with a name of its own does not contain what it borrows. -/
lemma Borrows.not_contains (h : r.Borrows i ref record)
    (hnames : (r.frontends.map (·.metadata.anyName)).Nodup) : ¬r.Contains i ref record := by
  obtain ⟨f, hf, rfl, hown, -⟩ := h
  generalize hrecord : f.ref .frontend (Pass.instanceRef i).space = record
  intro hc
  cases hc with
  | owner hk href => cases hrecord
  | listen hl hk href => cases hrecord
  | @frontend g k hg hk href =>
    have hname : f.metadata.anyName = g.metadata.anyName := congrArg RecordRef.name hrecord
    have hsame : f = g := List.inj_on_of_nodup_map hnames hf hg hname
    rw [← hsame] at hk
    exact hown k hk href
  | backend hb hk href => cases hrecord

end Records

namespace Pass

variable {cancel : Cancellation} {i : InstanceRecord} {records : Records}

/-- Whoever takes up records does not look anything up. -/
lemma exists_prepare_of_lookup {store : Store} {record : RecordRef} {fault : LookupFault}
    (h : (run store cancel i records).result = .error (.lookup record fault)) :
    ∃ content fleet, prepare cancel i records = .ok (content, fleet) := by
  cases hprepare : prepare cancel i records with
  | ok prepared => exact ⟨prepared.1, prepared.2, rfl⟩
  | error e =>
    rw [run_of_prepare_error hprepare] at h
    cases h
    have hoffender : PassFault.lookup record fault = .cancelled ∨
        ∃ ref, Offends store cancel i records (.lookup record fault) ref :=
      offends_of_prepare hprepare
    rcases hoffender with hcancelled | ⟨ref, hoffends⟩
    · cases hcancelled
    · generalize hfault : PassFault.lookup record fault = e at hoffends
      cases hoffends with
      | invalid h => cases hfault
      | @blamed ref claim h => cases claim <;> cases hfault
      | failed hok ht howner hfails =>
        rw [hprepare] at hok
        cases hok

/-- A value that could not be had is needed by the record that is blamed. -/
lemma exists_need_of_lookup {store : Store} {record : RecordRef} {fault : LookupFault}
    (h : (run store cancel i records).result = .error (.lookup record fault)) :
    ∃ n ∈ records.sorted.needs i, n.record = record ∧
      fault.ref ∈ n.value.refs (instanceRef i).space := by
  obtain ⟨content, fleet, hprepare⟩ := exists_prepare_of_lookup h
  obtain ⟨made, -, hmade⟩ := made_of_prepare store hprepare
  have hdemanded := hmade.front.mem (List.mem_of_getLast? (hmade.last record fault h))
  rw [demands_eq hprepare] at hdemanded
  obtain ⟨n, hn, hdemand⟩ := List.mem_flatMap.1 hdemanded
  obtain ⟨ref, href, hsame⟩ := List.mem_map.1 hdemand
  cases hsame
  exact ⟨n, hn, rfl, href⟩

/-- The frontends of a pass that is prepared have names of their own. -/
lemma nodup_names_of_prepare {content : Section.Instance} {fleet : Fleet}
    (h : prepare cancel i records = .ok (content, fleet)) :
    (records.frontends.map (·.metadata.anyName)).Nodup := by
  obtain ⟨c₁, c₂, c₃, c₄, -, hf, -⟩ := Fleet.ofRecords_eq_ok (prepare_eq_ok h).2
  have hnames := (Entry.names_of_ofRecords hf).2
  exact ((Record.sorted_perm records.frontends).map _).nodup_iff.1 hnames

/-- **Whom a failed look-up is blamed on.**  The fault is reported on the record that it names.  The
specification of that record contains the reference that could not be read, or that of the instance
does if the instance is named, except in one case: a frontend is named that does not contain the
reference but selects a backend whose host certificate needs it.  Then the reference stands in a
backend, which is not named. -/
theorem lookup_blames_iff (store : Store) (cancel : Cancellation) (i : InstanceRecord)
    (records : Records) {record : RecordRef} {fault : LookupFault}
    (h : (run store cancel i records).result = .error (.lookup record fault)) :
    ⟨record, .error, fault.message⟩ ∈ (run store cancel i records).statuses ∧
    (records.Contains i fault.ref record ↔ ¬records.Borrows i fault.ref record) ∧
    (records.Borrows i fault.ref record → record.kind = .frontend ∧
      ∃ b ∈ records.backends, records.Contains i fault.ref
        (b.ref .backend (instanceRef i).space)) := by
  obtain ⟨content, fleet, hprepare⟩ := exists_prepare_of_lookup h
  obtain ⟨n, hn, rfl, href⟩ := exists_need_of_lookup h
  refine ⟨?_, ⟨fun hcontains hborrows => ?_, fun hnot => ?_⟩, fun hborrows => ?_⟩
  · rw [(run_eq_error h).1, failureStatuses_eq_of_record? (by simp) rfl]
    refine List.mem_map.2 ⟨n.record, ?_, rfl⟩
    by_cases howner : n.record = instanceRef i
    · simp [howner]
    · simp [howner]
  · exact hborrows.not_contains (nodup_names_of_prepare hprepare) hcontains
  · rcases Records.contains_or_borrows hn href with hcontains | hborrows
    · exact hcontains.of_perm records.sorted_perm
    · exact absurd (hborrows.of_perm records.sorted_perm) hnot
  · exact hborrows.exists_backend

/-- A frontend whose own certificate is missing is blamed for it. -/
theorem lookup_blames_iff_own_certificate :
    let store : Store := fun _ => .ok none
    let i : InstanceRecord := .plain (some "edge") "fleet" .none
    let records : Records := ⟨[], [hostsFrontend], [hostedBackend "pool" "shop"], []⟩
    let ref : StoreRef := ⟨.secret, "vault", "web", "pem"⟩
    let o := run store .never i records
    o.result = .error (.lookup ⟨.frontend, "edge", "web"⟩ (.missing .certificate ref)) ∧
      (o.statuses.head?.map (·.record)) = some ⟨.frontend, "edge", "web"⟩ ∧
      records.Contains i ref ⟨.frontend, "edge", "web"⟩ := by
  intro store i records ref o
  have hresult : (run store .never i records).result =
      .error (.lookup ⟨.frontend, "edge", "web"⟩ (.missing .certificate ref)) := by decide +kernel
  obtain ⟨-, hiff, -⟩ := lookup_blames_iff store .never i records hresult
  refine ⟨hresult, by decide +kernel, hiff.2 ?_⟩
  rintro ⟨f, hf, -, hown, -⟩
  rw [List.mem_singleton.1 hf] at hown
  have hmentioned : ∃ k ∈ hostsFrontend.spec.declared, ref ∈ k.mentioned "edge" := by
    decide +kernel
  obtain ⟨k, hk, href⟩ := hmentioned
  exact hown k hk href

/-- **A frontend is blamed for the host certificate of a backend.**  The certificate of the frontend
is there, but that of the backend which it selects is missing, and this is reported on the frontend,
which says nothing about the secret. -/
theorem host_certificate_blamed_on_frontend :
    let store : Store := fun r => if r.space = "vault" then .ok (some (Text.utf8 "pem")) else .ok none
    let i : InstanceRecord := .plain (some "edge") "fleet" .none
    let records : Records := ⟨[], [hostsFrontend], [hostedBackend "pool" "shop"], []⟩
    let ref : StoreRef := ⟨.secret, "edge", "tls-pool", "pem"⟩
    let o := run store .never i records
    o.result = .error (.lookup ⟨.frontend, "edge", "web"⟩ (.missing .certificate ref)) ∧
      o.statuses.map (·.record) = [⟨.frontend, "edge", "web"⟩, ⟨.proxyInstance, "edge", "fleet"⟩] ∧
      ¬records.Contains i ref ⟨.frontend, "edge", "web"⟩ ∧
      records.Contains i ref ⟨.backend, "edge", "pool"⟩ := by
  intro store i records ref o
  have hresult : (run store .never i records).result =
      .error (.lookup ⟨.frontend, "edge", "web"⟩ (.missing .certificate ref)) := by decide +kernel
  have hselects : hostsFrontend.spec.Selects (hostedBackend "pool" "shop").metadata.allLabels :=
    ⟨_, List.mem_singleton.2 rfl, _, rfl, by decide +kernel⟩
  have hown : ∀ k ∈ hostsFrontend.spec.declared, ref ∉ k.mentioned "edge" := by decide +kernel
  have hborrows : records.Borrows i ref ⟨.frontend, "edge", "web"⟩ :=
    ⟨hostsFrontend, List.mem_singleton.2 rfl, rfl, hown, hostedBackend "pool" "shop",
      List.mem_singleton.2 rfl, hselects, _, rfl, by decide +kernel⟩
  have hnames : (records.frontends.map (·.metadata.anyName)).Nodup := List.nodup_singleton _
  have hdeclared : ∃ k ∈ (hostedBackend "pool" "shop").spec.declared, ref ∈ k.mentioned "edge" := by
    decide +kernel
  obtain ⟨k, hk, href⟩ := hdeclared
  exact ⟨hresult, by decide +kernel, hborrows.not_contains hnames,
    .backend (List.mem_singleton.2 rfl) hk href⟩

end Pass

end ProxyFleet
