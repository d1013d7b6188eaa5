import ProxyFleet.Cluster.Status
import ProxyFleet.Proofs.SectionNames

/-!
# What a pass reports

The statuses that a pass reports follow from its outcome, and the outcome from its records.

**Taking up records.**  A record that cannot be taken up is the first of its list, and either its
name is taken by one before it or it is not valid (`Entry.refused_of_error`).  So a fleet that
cannot be taken up blames one of its records (`Fleet.blamed_of_error`).

**Tasks.**  A task that fails blames its owner (`Reading.fails_of_task`), and the owner of a task is
the instance or a record of the fleet (`SideFile.owner_mem_of_task`).

**Outcomes.**  A pass that fails and is not cancelled has an offender (`Pass.offends_of_error`), and
in one that succeeds the records in use are those that were handed in, in order
(`Fleet.refs_of_ofRecords`).

Main statement: `Pass.statuses_of_outcome`.
-/

namespace ProxyFleet

/-! ## Records in order -/

namespace Records

/-- What identifies the records, kind by kind.  Those without a namespace count as records of the
given one. -/
def refs (r : Records) (space : String) : List RecordRef :=
  r.listens.map (·.ref .listen space) ++ r.frontends.map (·.ref .frontend space) ++
    r.backends.map (·.ref .backend space) ++ r.resolvers.map (·.ref .resolver space)

/-- Each kind of record in order. -/
def sorted (r : Records) : Records :=
  ⟨Record.sorted r.listens, Record.sorted r.frontends, Record.sorted r.backends,
    Record.sorted r.resolvers⟩

/-- Whether each record stands before all later ones of its kind. -/
structure Ascending (r : Records) : Prop where
  listens : r.listens.Pairwise (fun a b => a.before b = true)
  frontends : r.frontends.Pairwise (fun a b => a.before b = true)
  backends : r.backends.Pairwise (fun a b => a.before b = true)
  resolvers : r.resolvers.Pairwise (fun a b => a.before b = true)

variable {r : Records} {space : String}

lemma sorted_perm (r : Records) : r.sorted.Perm r :=
  ⟨Record.sorted_perm _, Record.sorted_perm _, Record.sorted_perm _, Record.sorted_perm _⟩

lemma Perm.refs_perm {a b : Records} (h : a.Perm b) (space : String) :
    (a.refs space).Perm (b.refs space) :=
  (((h.listens.map _).append (h.frontends.map _)).append (h.backends.map _)).append
    (h.resolvers.map _)

end Records

/-- Sorted records with keys of their own stand each before all later ones. -/
lemma Record.ascending_sorted {σ τ : Type} {l : List (Record σ τ)} (h : (l.map key).Nodup) :
    (sorted l).Pairwise (fun a b => a.before b = true) := by
  have hkeys : ((sorted l).map key).Nodup := ((sorted_perm l).map key).nodup_iff.2 h
  rw [List.Nodup, List.pairwise_map] at hkeys
  refine ((pairwise_sorted l).and hkeys).imp ?_
  rintro a b ⟨hnot, hne⟩
  rcases before_or_key_eq a b with hab | hkey | hba
  · exact hab
  · exact absurd hkey hne
  · rw [hba] at hnot
    cases hnot

lemma Records.Distinct.ascending_sorted {r : Records} (h : r.Distinct) : r.sorted.Ascending :=
  ⟨Record.ascending_sorted h.listens, Record.ascending_sorted h.frontends,
    Record.ascending_sorted h.backends, Record.ascending_sorted h.resolvers⟩

/-! ## Taking up records -/

/-- The claims of records that are taken up one after another. -/
def Claims.of (taken : List RecordRef) : Claims := (taken.map (fun r => (r.name, r.kind))).reverse

/-- At first the name of the instance is taken. -/
lemma Claims.of_instance {owner : RecordRef} (h : owner.kind = .proxyInstance) :
    Claims.of [owner] = [(owner.name, .proxyInstance)] := by
  simp [Claims.of, h]

/-- A name that is claimed belongs to a record that was taken up. -/
lemma Claims.exists_of_lookup {taken : List RecordRef} {name : String} {existing : RecordKind}
    (h : (of taken).lookup name = some existing) :
    ∃ holder ∈ taken, holder.name = name ∧ holder.kind = existing := by
  obtain ⟨first, rest, hclaims, -⟩ := List.lookup_eq_some_iff.1 h
  have hmem : (name, existing) ∈ of taken := by
    rw [hclaims]
    simp
  obtain ⟨holder, hholder, hclaim⟩ := List.mem_map.1 (List.mem_reverse.1 hmem)
  obtain ⟨hname, hkind⟩ := Prod.mk.inj hclaim
  exact ⟨holder, hholder, hname, hkind⟩

/-- A name that is not claimed belongs to none. -/
lemma Claims.ne_of_lookup {taken : List RecordRef} {name : String}
    (h : (of taken).lookup name = none) : ∀ r ∈ taken, r.name ≠ name := by
  intro r hr hname
  have hmem : (r.name, r.kind) ∈ of taken := List.mem_reverse.2 (List.mem_map_of_mem hr)
  simpa [hname] using List.lookup_eq_none_iff.1 h _ hmem

namespace Entry

variable {σ τ α : Type} {cancel : Cancellation} {kind : RecordKind} {space : String}
  {check : String → σ → Except Fault α} {taken : List RecordRef} {l : List (Record σ τ)}

lemma ref_of_ofRecord {claims : Claims} {r : Record σ τ} {entry : Entry α}
    (h : ofRecord cancel kind space check claims r = .ok entry) : entry.ref = r.ref kind space := by
  obtain ⟨-, -, content, -, rfl⟩ := ofRecord_eq_ok_iff.1 h
  rfl

lemma claims_of_ofRecord {claims : Claims} {r : Record σ τ} {entry : Entry α}
    (h : ofRecord cancel kind space check claims r = .ok entry) (taken : List RecordRef) :
    (entry.ref.name, kind) :: Claims.of taken = Claims.of (taken ++ [r.ref kind space]) := by
  simp [Claims.of, ref_of_ofRecord h, Record.ref]

/-- Records that are taken up are entered in their order, and their names are taken. -/
lemma refs_of_ofRecords {entries : List (Entry α)} {after : Claims}
    (h : ofRecords cancel kind space check (Claims.of taken) l = .ok (entries, after)) :
    entries.map (·.ref) = l.map (·.ref kind space) ∧
      after = Claims.of (taken ++ l.map (·.ref kind space)) := by
  induction l generalizing taken entries with
  | nil =>
    cases h
    simp
  | cons r rest ih =>
    obtain ⟨entry, later, hentry, hlater, rfl⟩ := ofRecords_cons_eq_ok h
    rw [claims_of_ofRecord hentry] at hlater
    obtain ⟨hrefs, hafter⟩ := ih hlater
    refine ⟨?_, by simpa using hafter⟩
    rw [List.map_cons, List.map_cons, hrefs, ref_of_ofRecord hentry]

/-- Why a record is not taken up after the given ones, other than in a cancelled pass. -/
inductive Refused (check : String → σ → Except Fault α) (before : List RecordRef)
    (r : Record σ τ) (ref : RecordRef) : ClaimFault → Prop
  | taken {other : RecordRef} (h : other ∈ before) (hname : other.name = ref.name) :
    Refused check before r ref (.collision other.kind)
  | invalid {fault : Fault} (h : check ref.name r.spec = .error fault) :
    Refused check before r ref (.invalid fault)

lemma refused_of_ofRecord {r : Record σ τ} {ref : RecordRef} {fault : ClaimFault}
    (h : ofRecord cancel kind space check (Claims.of taken) r = .error (ref, fault)) :
    ref = r.ref kind space ∧ (fault = .cancelled ∨ Refused check taken r ref fault) := by
  rw [ofRecord] at h
  split at h
  · cases h
    exact ⟨rfl, .inl rfl⟩
  · split at h
    · rename_i existing hlookup
      cases h
      obtain ⟨other, hother, hname, rfl⟩ := Claims.exists_of_lookup hlookup
      exact ⟨rfl, .inr (.taken hother hname)⟩
    · split at h
      · rename_i hcheck
        cases h
        exact ⟨rfl, .inr (.invalid hcheck)⟩
      · cases h

/-- **The first record that is not taken up is to blame.** -/
lemma refused_of_error {ref : RecordRef} {fault : ClaimFault}
    (h : ofRecords cancel kind space check (Claims.of taken) l = .error (ref, fault)) :
    ∃ front r back, l = front ++ r :: back ∧ ref = r.ref kind space ∧
      (fault = .cancelled ∨
        Refused check (taken ++ front.map (·.ref kind space)) r ref fault) := by
  induction l generalizing taken with
  | nil => cases h
  | cons r rest ih =>
    rw [ofRecords] at h
    rcases Check.bind_eq_error_iff.1 h with hrecord | ⟨entry, hentry, h⟩
    · obtain ⟨href, hfault⟩ := refused_of_ofRecord hrecord
      exact ⟨[], r, rest, rfl, href, by simpa using hfault⟩
    · rcases Check.bind_eq_error_iff.1 h with hrest | ⟨_, -, h⟩
      · rw [claims_of_ofRecord hentry] at hrest
        obtain ⟨front, s, back, rfl, hs, hfault⟩ := ih hrest
        exact ⟨r :: front, s, back, rfl, hs, by simpa using hfault⟩
      · cases h

end Entry

namespace Records

/-- Whether a record is refused with a fault for its specification. -/
inductive Invalid (r : Records) (space : String) : RecordRef → Fault → Prop
  | listen {s : ListenRecord} {fault : Fault} (hs : s ∈ r.listens)
      (h : Section.Listen.ofSpec space s.metadata.anyName s.spec = .error fault) :
      Invalid r space (s.ref .listen space) fault
  | frontend {s : FrontendRecord} {fault : Fault} (hs : s ∈ r.frontends)
      (h : Section.Frontend.ofSpec space s.metadata.anyName s.spec = .error fault) :
      Invalid r space (s.ref .frontend space) fault
  | backend {s : BackendRecord} {fault : Fault} (hs : s ∈ r.backends)
      (h : Section.Backend.ofSpec space s.metadata.anyName s.spec = .error fault) :
      Invalid r space (s.ref .backend space) fault
  | resolver {s : ResolverRecord} {fault : Fault} (hs : s ∈ r.resolvers)
      (h : Section.Resolver.ofSpec s.metadata.anyName s.spec = .error fault) :
      Invalid r space (s.ref .resolver space) fault

/-- Whether the name of a record is that of the instance or of a record before it. -/
def Taken (r : Records) (owner ref : RecordRef) (existing : RecordKind) : Prop :=
  ∃ front back other, owner :: r.sorted.refs owner.space = front ++ ref :: back ∧
    other ∈ front ∧ other.name = ref.name ∧ other.kind = existing

/-- Whether a record is one of those that cannot be taken up, and why. -/
inductive Blamed (r : Records) (owner : RecordRef) (ref : RecordRef) : ClaimFault → Prop
  | taken {existing : RecordKind} (h : r.Taken owner ref existing) :
      Blamed r owner ref (.collision existing)
  | invalid {fault : Fault} (h : r.Invalid owner.space ref fault) :
      Blamed r owner ref (.invalid fault)

variable {r : Records} {owner ref : RecordRef} {fault : ClaimFault}

lemma Invalid.mem_refs {space : String} {fault : Fault} (h : r.Invalid space ref fault) :
    ref ∈ r.refs space := by
  simp only [refs, List.mem_append]
  cases h with
  | listen hs h => exact .inl (.inl (.inl (List.mem_map_of_mem hs)))
  | frontend hs h => exact .inl (.inl (.inr (List.mem_map_of_mem hs)))
  | backend hs h => exact .inl (.inr (List.mem_map_of_mem hs))
  | resolver hs h => exact .inr (List.mem_map_of_mem hs)

lemma Blamed.mem (h : r.Blamed owner ref fault) : ref ∈ owner :: r.refs owner.space := by
  cases h with
  | taken h =>
    obtain ⟨front, back, other, hrefs, -⟩ := h
    have hmem : ref ∈ owner :: r.sorted.refs owner.space := by
      rw [hrefs]
      simp
    exact ((r.sorted_perm.refs_perm owner.space).cons owner).mem_iff.1 hmem
  | invalid h => exact List.mem_cons_of_mem _ h.mem_refs

end Records

namespace Fleet

variable {cancel : Cancellation} {owner : RecordRef} {records : Records}

/-- One kind of records blames one of them.  `front` and `back` are the records of other kinds. -/
lemma blamed_of_kind {σ τ α : Type} {kind : RecordKind} {check : String → σ → Except Fault α}
    {l : List (Record σ τ)} {front back : List RecordRef} {ref : RecordRef} {fault : ClaimFault}
    (hrefs : owner :: records.sorted.refs owner.space =
      front ++ l.map (·.ref kind owner.space) ++ back)
    (hinvalid : ∀ r ∈ l, ∀ fault, check r.metadata.anyName r.spec = .error fault →
      records.Invalid owner.space (r.ref kind owner.space) fault)
    (h : Entry.ofRecords cancel kind owner.space check (Claims.of front) l =
      .error (ref, fault)) :
    fault = .cancelled ∨ records.Blamed owner ref fault := by
  obtain ⟨before, r, after, rfl, rfl, hfault⟩ := Entry.refused_of_error h
  refine hfault.imp_right fun hrefused => ?_
  cases hrefused with
  | @taken other hother hname =>
    refine .taken ⟨front ++ before.map (·.ref kind owner.space),
      after.map (·.ref kind owner.space) ++ back, other, ?_, hother, hname, rfl⟩
    rw [hrefs]
    simp
  | invalid hcheck => exact .invalid (hinvalid r (by simp) _ hcheck)

/-- **A fleet that cannot be taken up blames one of its records**, unless the pass is cancelled. -/
lemma blamed_of_error {ref : RecordRef} {fault : ClaimFault} (hkind : owner.kind = .proxyInstance)
    (h : ofRecords cancel owner records = .error (ref, fault)) :
    fault = .cancelled ∨ records.Blamed owner ref fault := by
  rw [ofRecords, ← Claims.of_instance hkind] at h
  rcases Check.bind_eq_error_iff.1 h with h | ⟨⟨listens, c₁⟩, hl, h⟩
  · refine blamed_of_kind (by simp [Records.refs, Records.sorted]; rfl) (fun r hr fault => ?_) h
    exact .listen ((Record.sorted_perm _).mem_iff.1 hr)
  obtain ⟨-, rfl⟩ := Entry.refs_of_ofRecords hl
  rcases Check.bind_eq_error_iff.1 h with h | ⟨⟨frontends, c₂⟩, hf, h⟩
  · refine blamed_of_kind (by simp [Records.refs, Records.sorted]; rfl) (fun r hr fault => ?_) h
    exact .frontend ((Record.sorted_perm _).mem_iff.1 hr)
  obtain ⟨-, rfl⟩ := Entry.refs_of_ofRecords hf
  rcases Check.bind_eq_error_iff.1 h with h | ⟨⟨backends, c₃⟩, hb, h⟩
  · refine blamed_of_kind (by simp [Records.refs, Records.sorted]; rfl) (fun r hr fault => ?_) h
    exact .backend ((Record.sorted_perm _).mem_iff.1 hr)
  obtain ⟨-, rfl⟩ := Entry.refs_of_ofRecords hb
  rcases Check.bind_eq_error_iff.1 h with h | ⟨⟨resolvers, c₄⟩, hr, h⟩
  · refine blamed_of_kind (by simp [Records.refs, Records.sorted]; rfl) (fun r hr fault => ?_) h
    exact .resolver ((Record.sorted_perm _).mem_iff.1 hr)
  · cases h

lemma refs_of_ofRecords {f : Fleet} (hkind : owner.kind = .proxyInstance)
    (h : ofRecords cancel owner records = .ok f) : f.refs = records.sorted.refs owner.space := by
  obtain ⟨c₁, c₂, c₃, c₄, hl, hf, hb, hr⟩ := ofRecords_eq_ok h
  rw [← Claims.of_instance hkind] at hl
  obtain ⟨hlistens, rfl⟩ := Entry.refs_of_ofRecords hl
  obtain ⟨hfrontends, rfl⟩ := Entry.refs_of_ofRecords hf
  obtain ⟨hbackends, rfl⟩ := Entry.refs_of_ofRecords hb
  obtain ⟨hresolvers, -⟩ := Entry.refs_of_ofRecords hr
  rw [refs, hlistens, hfrontends, hbackends, hresolvers]
  rfl

end Fleet

/-! ## Tasks -/

/-- The record that a task is done for. -/
def Task.owner? : Task → Option RecordRef
  | .checkpoint => none
  | .find owner _ _ _ => some owner
  | .put _ _ => none
  | .define owner _ => some owner
  | .refuse owner _ => some owner

namespace Task

variable {owner backend : RecordRef} {path content : String} {v : Section.Variable}

@[simp] lemma owner?_checkpoint : checkpoint.owner? = none := rfl
@[simp] lemma owner?_put : (put path content).owner? = none := rfl
@[simp] lemma owner?_define : (define owner v).owner? = some owner := rfl
@[simp] lemma owner?_refuse : (refuse owner backend).owner? = some owner := rfl
@[simp] lemma owner?_certificate (c : Section.Certificate) :
    (SideFile.certificate owner c).owner? = some owner := rfl

end Task

/-- Why a task fails, other than in a cancelled pass. -/
inductive Task.Fails (store : Store) : Task → PassFault → Prop
  | unread {t : Task} {owner : RecordRef} {ref : StoreRef} {cause : String}
      (howner : t.owner? = some owner) (href : ref ∈ t.refs) (h : store ref = .error cause) :
      Fails store t (.lookup owner (.failed ref cause))
  | missing {t : Task} {owner : RecordRef} {use : FileUse} {ref : StoreRef}
      (howner : t.owner? = some owner) (href : ref ∈ t.refs) (h : store ref = .ok none) :
      Fails store t (.lookup owner (.missing use ref))
  | refuse (owner backend : RecordRef) :
      Fails store (.refuse owner backend) (.sideFile owner backend)

lemma Task.Fails.record?_eq {store : Store} {t : Task} {e : PassFault} (h : t.Fails store e) :
    e.record? = t.owner? := by
  cases h with
  | unread howner href h => exact howner.symm
  | missing howner href h => exact howner.symm
  | refuse owner backend => rfl

lemma Task.Fails.exists_owner {store : Store} {t : Task} {e : PassFault} (h : t.Fails store e) :
    ∃ owner, t.owner? = some owner := by
  cases h with
  | unread howner => exact ⟨_, howner⟩
  | missing howner => exact ⟨_, howner⟩
  | refuse owner backend => exact ⟨owner, rfl⟩

namespace Reading

variable {α β : Type} {store : Store} {cancel : Cancellation} {c d : Course} {owner : RecordRef}
  {use : FileUse} {e : PassFault}

/-- The first of two steps that fails counts. -/
lemma exec_bind_eq_error {x : Reading α} {f : α → Reading β}
    (h : exec (x >>= f) c = (.error e, d)) :
    exec x c = (.error e, d) ∨ ∃ a b, exec x c = (.ok a, b) ∧ exec (f a) b = (.error e, d) := by
  rw [exec_bind] at h
  rcases hx : exec x c with ⟨_ | a, b⟩
  · rw [hx] at h
    cases h
    exact .inl rfl
  · rw [hx] at h
    exact .inr ⟨a, b, rfl, h⟩

lemma cancelled_of_checkpoint (h : exec (checkpoint cancel) c = (.error e, d)) :
    e = .cancelled := by
  rw [exec_checkpoint] at h
  split at h
  · cases h
    rfl
  · cases h

/-- Why a value could not be had, other than in a cancelled pass. -/
inductive Unavailable (store : Store) (owner : RecordRef) (use : FileUse) (ref : StoreRef) :
    PassFault → Prop
  | unread {cause : String} (h : store ref = .error cause) :
      Unavailable store owner use ref (.lookup owner (.failed ref cause))
  | missing (h : store ref = .ok none) :
      Unavailable store owner use ref (.lookup owner (.missing use ref))

lemma unavailable_of_value {ref : StoreRef}
    (h : exec (value store cancel owner use ref) c = (.error e, d)) :
    e = .cancelled ∨ Unavailable store owner use ref e := by
  rw [exec_value] at h
  split at h
  · cases h
    exact .inl rfl
  · rcases hs : store ref with cause | _ | bytes
    · rw [hs] at h
      cases h
      exact .inr (.unread hs)
    · rw [hs] at h
      cases h
      exact .inr (.missing hs)
    · rw [hs] at h
      cases h

lemma unavailable_of_values {refs : List StoreRef}
    (h : exec (refs.mapM (value store cancel owner use)) c = (.error e, d)) :
    e = .cancelled ∨ ∃ ref ∈ refs, Unavailable store owner use ref e := by
  induction refs generalizing c with
  | nil => cases h
  | cons ref rest ih =>
    rw [List.mapM_cons] at h
    rcases exec_bind_eq_error h with hvalue | ⟨text, b, -, h⟩
    · exact (unavailable_of_value hvalue).imp_right fun hu => ⟨ref, List.mem_cons_self, hu⟩
    · rcases exec_bind_eq_error h with hrest | ⟨later, b', -, h⟩
      · refine (ih hrest).imp_right ?_
        rintro ⟨ref', href', hu⟩
        exact ⟨ref', List.mem_cons_of_mem _ href', hu⟩
      · cases h

lemma Unavailable.fails {ref : StoreRef} {t : Task} (h : Unavailable store owner use ref e)
    (howner : t.owner? = some owner) (href : ref ∈ t.refs) : t.Fails store e := by
  cases h with
  | unread h => exact .unread howner href h
  | missing h => exact .missing howner href h

/-- **A task that fails has a reason of its own**, unless the pass is cancelled. -/
lemma fails_of_task {p : Progress} {t : Task}
    (h : exec (task store cancel p t) c = (.error e, d)) : e = .cancelled ∨ t.Fails store e := by
  cases t with
  | checkpoint =>
    rcases exec_bind_eq_error h with h | ⟨_, b, -, h⟩
    · exact .inl (cancelled_of_checkpoint h)
    · cases h
  | find owner use path source =>
    rcases exec_bind_eq_error h with h | ⟨text, b, -, h⟩
    · cases source with
      | inline given => cases h
      | stored refs =>
        rcases exec_bind_eq_error h with h | ⟨values, b, -, h⟩
        · refine (unavailable_of_values h).imp_right ?_
          rintro ⟨ref, href, hu⟩
          exact hu.fails rfl href
        · cases h
    · cases h
  | put path content => cases h
  | define owner v =>
    rcases exec_bind_eq_error h with h | ⟨text, b, -, h⟩
    · cases hv : v.value with
      | literal given =>
        rw [hv] at h
        cases h
      | secret ref =>
        rw [hv] at h
        refine (unavailable_of_value h).imp_right fun hu => hu.fails rfl ?_
        simp [Task.refs, hv]
    · cases h
  | refuse owner backend =>
    cases h
    exact .inr (.refuse owner backend)

lemma fails_of_foldlM {l : List Task} {p : Progress}
    (h : exec (l.foldlM (task store cancel) p) c = (.error e, d)) :
    e = .cancelled ∨ ∃ t ∈ l, t.Fails store e := by
  induction l generalizing p c with
  | nil => cases h
  | cons t rest ih =>
    rw [List.foldlM_cons] at h
    rcases exec_bind_eq_error h with ht | ⟨p', b, -, h⟩
    · exact (fails_of_task ht).imp_right fun hf => ⟨t, List.mem_cons_self, hf⟩
    · refine (ih h).imp_right ?_
      rintro ⟨t', ht', hf⟩
      exact ⟨t', List.mem_cons_of_mem _ ht', hf⟩

end Reading

namespace SideFile

/-- Whether all tasks of a row are done for one record, or for none. -/
def OwnedBy (owner : RecordRef) (l : List Task) : Prop := ∀ t ∈ l, ∀ r ∈ t.owner?, r = owner

variable {owner : RecordRef}

@[simp] lemma ownedBy_nil : OwnedBy owner [] := List.forall_mem_nil _

@[simp] lemma ownedBy_cons {t : Task} {l : List Task} :
    OwnedBy owner (t :: l) ↔ (∀ r ∈ t.owner?, r = owner) ∧ OwnedBy owner l := List.forall_mem_cons

@[simp] lemma ownedBy_append {l r : List Task} :
    OwnedBy owner (l ++ r) ↔ OwnedBy owner l ∧ OwnedBy owner r := List.forall_mem_append

@[simp] lemma ownedBy_flatMap {α : Type} {l : List α} {g : α → List Task} :
    OwnedBy owner (l.flatMap g) ↔ ∀ a ∈ l, OwnedBy owner (g a) := by
  simp only [OwnedBy, List.mem_flatMap]
  constructor
  · exact fun h a ha t ht => h t ⟨a, ha, ht⟩
  · rintro h t ⟨a, ha, ht⟩
    exact h a ha t ht

@[simp] lemma ownedBy_map {α : Type} {l : List α} {g : α → Task} :
    OwnedBy owner (l.map g) ↔ ∀ a ∈ l, ∀ r ∈ (g a).owner?, r = owner := List.forall_mem_map

lemma owner_of_mapping {backends : List (Entry Section.Backend)} {m : Section.RegexMapping} :
    ∀ r ∈ (mapping owner backends m).owner?, r = owner := by
  rw [mapping]
  split <;> simp

@[simp] lemma ownedBy_errorFiles {files : List Section.ErrorFile} :
    OwnedBy owner (errorFiles owner files) := by
  intro t ht
  obtain ⟨e, -, he⟩ := List.mem_filterMap.1 ht
  obtain ⟨source, -, rfl⟩ := Option.map_eq_some_iff.1 he
  simp [Task.owner?]

@[simp] lemma ownedBy_element {e : Section.CertificateElement} :
    OwnedBy owner (element owner e) := by
  rw [element]
  cases e.ocsp <;> simp

@[simp] lemma ownedBy_bind {b : Section.Bind} {extra : List Section.CertificateElement} :
    OwnedBy owner (bind owner extra b) := by
  rw [bind]
  cases b.certificateList <;> simp

@[simp] lemma ownedBy_servers {params : List Section.ServerParams} :
    OwnedBy owner (servers owner params) := by
  simp [servers]

@[simp] lemma ownedBy_base {b : Section.Base} : OwnedBy owner (base owner b) := by
  simp [base]

@[simp] lemma ownedBy_syslog {log : Option Section.LogTarget} : OwnedBy owner (syslog log) := by
  cases log with
  | none => exact ownedBy_nil
  | some target =>
    simp only [syslog]
    split <;> simp

/-- **A task is done for the instance or for a record of the fleet.** -/
lemma owner_mem_of_task {i : Section.Instance} {f : Fleet} {t : Task} {r : RecordRef}
    (ht : t ∈ tasks owner i f) (hr : t.owner? = some r) : r ∈ owner :: f.refs := by
  have hinstance : OwnedBy owner (i.global.additionalCertificates.map (certificate owner) ++
      errorFiles owner i.defaults.errorFiles ++ syslog i.global.log) := by simp
  have hlisten : ∀ e : Entry Section.Listen, OwnedBy e.ref (listen e) := by simp [listen]
  have hfrontend : ∀ e, OwnedBy e.ref (frontend f.backends e) := by
    simpa [frontend] using fun e m _ => owner_of_mapping
  have hbackend : ∀ e, OwnedBy e.ref (backend e) := by simp [backend]
  simp only [tasks, List.mem_append, List.mem_flatMap] at ht
  simp only [Fleet.refs, List.mem_cons, List.mem_append]
  rcases ht with ((((ht | ht) | ⟨e, he, ht⟩) | ⟨e, he, ht⟩) | ⟨e, he, ht⟩) | ht
  · exact .inl (hinstance t (by simp [ht]) r hr)
  · exact .inl (hinstance t (by simp [ht]) r hr)
  · rw [hlisten e t ht r hr]
    exact .inr (.inl (.inl (.inl (List.mem_map_of_mem he))))
  · rw [hfrontend e t ht r hr]
    exact .inr (.inl (.inl (.inr (List.mem_map_of_mem he))))
  · rw [hbackend e t ht r hr]
    exact .inr (.inl (.inr (List.mem_map_of_mem he)))
  · exact .inl (hinstance t (by simp [ht]) r hr)

end SideFile

/-! ## Messages -/

lemma Text.append_ne_empty {a b : String} (h : a ≠ "" ∨ b ≠ "") : a ++ b ≠ "" := by
  rw [ne_eq, String.append_eq_empty_iff, not_and_or]
  exact h

lemma Fault.message_ne_empty (f : Fault) : f.message ≠ "" := by
  cases f with
  | cookieMode | redirectType | proxyProtocol | backendReference => decide
  | portRange first last =>
    exact Text.append_ne_empty (.inl (Text.append_ne_empty (.inr (by decide))))
  | _ => exact Text.append_ne_empty (.inr (by decide))

lemma LookupFault.message_ne_empty (f : LookupFault) : f.message ≠ "" := by
  cases f with
  | missing use ref =>
    exact Text.append_ne_empty (.inl (Text.append_ne_empty (.inr (by decide))))
  | failed ref cause =>
    exact Text.append_ne_empty (.inl (Text.append_ne_empty (.inr (by decide))))

/-- Every fault has a message. -/
lemma PassFault.statusMessage_ne_empty (e : PassFault) : e.statusMessage ≠ "" := by
  cases e with
  | mapping record fault => exact fault.message_ne_empty
  | collision record existing =>
    exact Text.append_ne_empty (.inl (Text.append_ne_empty (.inr (by decide))))
  | lookup record fault => exact fault.message_ne_empty
  | sideFile record backend =>
    exact Text.append_ne_empty (.inl (Text.append_ne_empty (.inr (by decide))))
  | cancelled => decide

/-- What is merged into an object takes an earlier message away if there is none. -/
lemma StatusWrite.error_patch (w : StatusWrite) :
    (w.patch.member? "status").bind (·.member? "error") =
      some (if w.message.isEmpty then .null else .text w.message) := by
  simp [patch, Json.member?, List.lookup]

/-! ## Outcomes -/

namespace Pass

variable {store : Store} {cancel : Cancellation} {i : InstanceRecord} {records : Records}
  {e : PassFault} {ref : RecordRef}

/-- Whether a pass fails with a fault because of a record: the instance is not valid, or a record
cannot be taken up, or a task of one fails. -/
inductive Offends (store : Store) (cancel : Cancellation) (i : InstanceRecord) (records : Records) :
    PassFault → RecordRef → Prop
  | invalid {fault : Fault}
      (h : Section.Instance.ofSpec (instanceRef i).space (instanceRef i).name i.spec =
        .error fault) :
      Offends store cancel i records (.mapping (instanceRef i) fault) (instanceRef i)
  | blamed {ref : RecordRef} {fault : ClaimFault} (h : records.Blamed (instanceRef i) ref fault) :
      Offends store cancel i records (.ofClaim ref fault) ref
  | failed {content : Section.Instance} {fleet : Fleet} {t : Task} {e : PassFault}
      {ref : RecordRef} (hprepare : prepare cancel i records = .ok (content, fleet))
      (ht : t ∈ SideFile.tasks (instanceRef i) content fleet) (howner : t.owner? = some ref)
      (hfails : t.Fails store e) : Offends store cancel i records e ref

lemma Offends.record?_eq (h : Offends store cancel i records e ref) : e.record? = some ref := by
  cases h with
  | invalid h => rfl
  | blamed h => cases h <;> rfl
  | failed hprepare ht howner hfails => rw [hfails.record?_eq, howner]

lemma refs_of_prepare {content : Section.Instance} {fleet : Fleet}
    (h : prepare cancel i records = .ok (content, fleet)) :
    fleet.refs = records.sorted.refs (instanceRef i).space :=
  Fleet.refs_of_ofRecords rfl (prepare_eq_ok h).2

/-- The offender is the instance or one of the records. -/
lemma Offends.mem (h : Offends store cancel i records e ref) :
    ref ∈ instanceRef i :: records.refs (instanceRef i).space := by
  cases h with
  | invalid h => exact List.mem_cons_self
  | blamed h => exact h.mem
  | failed hprepare ht howner hfails =>
    have hmem := SideFile.owner_mem_of_task ht howner
    rw [refs_of_prepare hprepare] at hmem
    exact ((records.sorted_perm.refs_perm _).cons _).mem_iff.1 hmem

lemma offends_of_prepare (h : prepare cancel i records = .error e) :
    e = .cancelled ∨ ∃ ref, Offends store cancel i records e ref := by
  rw [prepare] at h
  split at h
  · cases h
    exact .inl rfl
  · rcases Check.bind_eq_error_iff.1 h with h | ⟨content, -, h⟩
    · obtain ⟨fault, hfault, rfl⟩ := Check.mapError_eq_error_iff.1 h
      exact .inr ⟨_, .invalid hfault⟩
    · rcases Check.bind_eq_error_iff.1 h with h | ⟨fleet, -, h⟩
      · obtain ⟨⟨ref, fault⟩, hfault, rfl⟩ := Check.mapError_eq_error_iff.1 h
        rcases Fleet.blamed_of_error rfl hfault with rfl | hblamed
        · exact .inl rfl
        · exact .inr ⟨ref, .blamed hblamed⟩
      · cases h

/-- Where a pass that fails has failed, and what it reports. -/
lemma run_eq_error (h : (run store cancel i records).result = .error e) :
    (run store cancel i records).statuses = failureStatuses (instanceRef i) e ∧
      (prepare cancel i records = .error e ∨
        ∃ content fleet course, prepare cancel i records = .ok (content, fleet) ∧
          Reading.exec (Reading.tasks store cancel (SideFile.tasks (instanceRef i) content fleet))
            (Course.afterFleet fleet) = (.error e, course)) := by
  rw [run] at h ⊢
  cases hprepare : prepare cancel i records with
  | error e' =>
    rw [hprepare] at h
    cases h
    exact ⟨rfl, .inl rfl⟩
  | ok prepared =>
    obtain ⟨content, fleet⟩ := prepared
    simp only [hprepare] at h ⊢
    rcases hwork : (Reading.tasks store cancel
      (SideFile.tasks (instanceRef i) content fleet)).run.run (Course.afterFleet fleet) with
      ⟨e' | p, course⟩
    · simp only [hwork, Except.error.injEq] at h
      subst h
      exact ⟨rfl, .inr ⟨content, fleet, course, rfl, hwork⟩⟩
    · simp only [hwork] at h
      cases h

/-- **A pass that fails has an offender**, unless it is cancelled. -/
lemma offends_of_error (h : (run store cancel i records).result = .error e) :
    e = .cancelled ∨ ∃ ref, Offends store cancel i records e ref := by
  rcases (run_eq_error h).2 with hprepare | ⟨content, fleet, course, hprepare, hwork⟩
  · exact offends_of_prepare hprepare
  · refine (Reading.fails_of_foldlM hwork).imp_right ?_
    rintro ⟨t, ht, hfails⟩
    obtain ⟨ref, howner⟩ := hfails.exists_owner
    exact ⟨ref, .failed hprepare ht howner hfails⟩

lemma statuses_of_ok {set : ArtifactSet} (h : (run store cancel i records).result = .ok set) :
    (run store cancel i records).statuses =
      successStatuses (instanceRef i) (records.sorted.refs (instanceRef i).space) := by
  obtain ⟨content, fleet, p, course, hprepare, hwork, -⟩ := run_eq_ok h
  rw [Reading.exec] at hwork
  rw [← refs_of_prepare hprepare]
  simp only [run, hprepare, hwork]

/-- The records of a pass that succeeds and its instance are all different. -/
lemma nodup_refs_of_ok {set : ArtifactSet} (h : (run store cancel i records).result = .ok set) :
    (records.sorted.refs (instanceRef i).space ++ [instanceRef i]).Nodup := by
  obtain ⟨content, fleet, p, course, hprepare, -⟩ := run_eq_ok h
  have hnames := Fleet.nodup_names (prepare_eq_ok hprepare).2
  rw [← refs_of_prepare hprepare, List.nodup_append_comm, List.singleton_append]
  exact List.Nodup.of_map RecordRef.name hnames

/-- What is reported after a pass that failed because of a record. -/
lemma failureStatuses_eq_of_record? {owner : RecordRef} (hne : e ≠ .cancelled)
    (href : e.record? = some ref) :
    failureStatuses owner e = ((if ref = owner then [] else [ref]) ++ [owner]).map
      (fun r => ⟨r, .error, e.statusMessage⟩) := by
  rw [failureStatuses, if_neg hne, href]
  by_cases h : ref = owner <;> simp [h, Option.filter]

lemma statuses_of_error (h : (run store cancel i records).result = .error e)
    (hne : e ≠ .cancelled) : ∃ ref, Offends store cancel i records e ref ∧
      (run store cancel i records).statuses =
        ((if ref = instanceRef i then [] else [ref]) ++ [instanceRef i]).map
          (fun r => ⟨r, .error, e.statusMessage⟩) := by
  rcases offends_of_error h with hcancel | ⟨ref, hoffends⟩
  · exact absurd hcancel hne
  · exact ⟨ref, hoffends,
      (run_eq_error h).1.trans (failureStatuses_eq_of_record? hne hoffends.record?_eq)⟩

/-- All that one pass reports has one phase and one message, and is about different records. -/
lemma exists_statuses_eq (store : Store) (cancel : Cancellation) (i : InstanceRecord)
    (records : Records) : ∃ (refs : List RecordRef) (phase : Phase) (message : String),
      (run store cancel i records).statuses = refs.map (fun r => ⟨r, phase, message⟩) ∧
        refs.Nodup ∧ (message = "" ↔ phase = .active) := by
  cases hresult : (run store cancel i records).result with
  | ok set =>
    exact ⟨_, .active, "", statuses_of_ok hresult, nodup_refs_of_ok hresult, by simp⟩
  | error e =>
    by_cases hne : e = .cancelled
    · refine ⟨[], .active, "", ?_, List.nodup_nil, by simp⟩
      rw [(run_eq_error hresult).1, hne]
      rfl
    · obtain ⟨ref, -, hstatuses⟩ := statuses_of_error hresult hne
      refine ⟨_, .error, e.statusMessage, hstatuses, ?_, by simp [e.statusMessage_ne_empty]⟩
      by_cases href : ref = instanceRef i <;> simp [href]

/-- **What a pass reports follows from its outcome.**  After a pass that succeeded every record is
reported as in use, kind by kind and in ascending order, and the instance last.  Nothing is reported
after a cancelled pass.  After any other pass that failed, one and the same message is reported on
the offender, unless that is the instance, and then on the instance.  Nothing is reported twice on
one record, and an earlier message is taken away exactly from the records in use. -/
theorem statuses_of_outcome (store : Store) (cancel : Cancellation) (i : InstanceRecord)
    (records : Records) :
    let o := run store cancel i records
    let owner := instanceRef i
    (∀ set, o.result = .ok set → ∃ order : Records, order.Perm records ∧ order.Ascending ∧
      o.statuses = (order.refs owner.space ++ [owner]).map (fun r => ⟨r, .active, ""⟩)) ∧
    (o.result = .error .cancelled → o.statuses = []) ∧
    (∀ e, o.result = .error e → e ≠ .cancelled → ∃ ref,
      Offends store cancel i records e ref ∧ e.record? = some ref ∧
      ref ∈ owner :: records.refs owner.space ∧ e.statusMessage ≠ "" ∧
      o.statuses = ((if ref = owner then [] else [ref]) ++ [owner]).map
        (fun r => ⟨r, .error, e.statusMessage⟩)) ∧
    (o.statuses.map (·.record)).Nodup ∧
    ∀ w ∈ o.statuses,
      ((w.patch.member? "status").bind (·.member? "error") = some .null ↔ w.phase = .active) := by
  intro o owner
  refine ⟨fun set hset => ?_, fun h => (run_eq_error h).1, fun e he hne => ?_, ?_, ?_⟩
  · exact ⟨records.sorted, records.sorted_perm, (distinct_of_ok hset).ascending_sorted,
      statuses_of_ok hset⟩
  · obtain ⟨ref, hoffends, hstatuses⟩ := statuses_of_error he hne
    exact ⟨ref, hoffends, hoffends.record?_eq, hoffends.mem, e.statusMessage_ne_empty, hstatuses⟩
  · obtain ⟨refs, phase, message, hstatuses, hnodup, -⟩ :=
      exists_statuses_eq store cancel i records
    rw [hstatuses, List.map_map, Function.comp_def, List.map_id']
    exact hnodup
  · obtain ⟨refs, phase, message, hstatuses, -, hphase⟩ :=
      exists_statuses_eq store cancel i records
    intro w hw
    rw [hstatuses] at hw
    obtain ⟨r, -, rfl⟩ := List.mem_map.1 hw
    rw [StatusWrite.error_patch, ← hphase]
    simp

/-- A frontend that has the name of the instance is reported, and then the instance. -/
theorem statuses_of_outcome_shared_name :
    let store : Store := fun _ => .ok none
    let i : InstanceRecord := .plain (some "edge") "fleet" .none
    let records : Records := ⟨[], [.plain (some "edge") "fleet" .none], [], []⟩
    let message := "name fleet already used by resource of kind Instance"
    let statuses := (run store .never i records).statuses
    statuses = [⟨⟨.frontend, "edge", "fleet"⟩, .error, message⟩,
        ⟨⟨.proxyInstance, "edge", "fleet"⟩, .error, message⟩] ∧
      (statuses.map (·.record)).Nodup := by
  intro store i records message statuses
  have hprepare : prepare .never i records =
      .error (.collision ⟨.frontend, "edge", "fleet"⟩ .proxyInstance) := by cbv
  have hresult : (run store .never i records).result =
      .error (.collision ⟨.frontend, "edge", "fleet"⟩ .proxyInstance) := by
    simp only [run, hprepare]
  obtain ⟨-, -, hfailed, hnodup, -⟩ := statuses_of_outcome store .never i records
  obtain ⟨ref, -, href, -, -, hstatuses⟩ := hfailed _ hresult (by simp)
  cases href
  exact ⟨hstatuses, hnodup⟩

end Pass

end ProxyFleet
