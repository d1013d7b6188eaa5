import ProxyFleet.Proofs.Statuses

/-!
# Claiming names

Which records a pass takes up, and which one it fails on.

**Sorting.**  The records of each kind are put in order in a stable way (`Record.sortsStably_sorted`).

**Claimants.**  What a record brings along when it is taken up is its name and what its check comes
to (`Claimant`).  A row of claimants is sound if all of them are valid and no name is taken twice
(`Claimant.Sound`), and otherwise one of them is the first that is refused (`Claimant.Refused`).

**Taking up.**  Whatever takes up claimants one after another either succeeds on a sound row or
fails on the first claimant that is refused (`Takes`).  This passes on from one record to a list of
them (`Entry.takes_ofRecords`), and from one kind to the next (`Fleet.takes_ofRecords`).

Main statement: `Pass.prepare_of_claimants`.
-/

namespace ProxyFleet

/-! ## Sorting -/

namespace Record

variable {σ τ : Type}

/-- Whether a list is another one in order, with records of the same key in the order that they
had. -/
structure SortsStably (order l : List (Record σ τ)) : Prop where
  perm : order.Perm l
  ascending : order.Pairwise (fun a b => b.before a = false)
  stable : ∀ k, order.filter (fun r => r.key = k) = l.filter (fun r => r.key = k)

/-- Records of one key stay in their order. -/
lemma filter_sorted (l : List (Record σ τ)) (k : Option String × String) :
    (sorted l).filter (fun r => r.key = k) = l.filter (fun r => r.key = k) := by
  have hequal : (l.filter (fun r => r.key = k)).Pairwise (fun a b => !b.before a) := by
    refine List.pairwise_of_forall_mem_list fun a ha b hb => ?_
    have hkey : b.key = a.key := by
      rw [of_decide_eq_true (List.mem_filter.1 ha).2, of_decide_eq_true (List.mem_filter.1 hb).2]
    rw [not_before_of_key_eq hkey]
    rfl
  have hsub : (l.filter (fun r => r.key = k)).Sublist (sorted l) :=
    List.sublist_mergeSort comparison_trans comparison_total hequal List.filter_sublist
  have hfilter := hsub.filter (fun r => r.key = k)
  rw [List.filter_filter] at hfilter
  simp only [Bool.and_self] at hfilter
  exact (hfilter.eq_of_length ((sorted_perm l).filter _).length_eq.symm).symm

/-- **Records are sorted in a stable way.** -/
lemma sortsStably_sorted (l : List (Record σ τ)) : SortsStably (sorted l) l :=
  ⟨sorted_perm l, pairwise_sorted l, filter_sorted l⟩

end Record

namespace Records

/-- Whether records are others in order, kind by kind. -/
structure SortsStably (order r : Records) : Prop where
  listens : Record.SortsStably order.listens r.listens
  frontends : Record.SortsStably order.frontends r.frontends
  backends : Record.SortsStably order.backends r.backends
  resolvers : Record.SortsStably order.resolvers r.resolvers

lemma sortsStably_sorted (r : Records) : r.sorted.SortsStably r :=
  ⟨Record.sortsStably_sorted _, Record.sortsStably_sorted _, Record.sortsStably_sorted _,
    Record.sortsStably_sorted _⟩

end Records

/-! ## Claimants -/

/-- A record that claims its name, and what its check comes to. -/
structure Claimant where
  ref : RecordRef
  verdict : Except Fault Unit

/-- What a record brings along when it is taken up. -/
def Record.claimant {σ τ α : Type} (kind : RecordKind) (space : String)
    (check : String → σ → Except Fault α) (r : Record σ τ) : Claimant :=
  ⟨r.ref kind space, (check r.metadata.anyName r.spec).map (fun _ => ())⟩

/-- The claimants among records, in the order in which a pass comes to them. -/
def Records.claimants (r : Records) (space : String) : List Claimant :=
  r.listens.map (Record.claimant .listen space (Section.Listen.ofSpec space)) ++
    r.frontends.map (Record.claimant .frontend space (Section.Frontend.ofSpec space)) ++
    r.backends.map (Record.claimant .backend space (Section.Backend.ofSpec space)) ++
    r.resolvers.map (Record.claimant .resolver space Section.Resolver.ofSpec)

namespace Claimant

/-- Whether claimants can all be taken up after records that are taken up: no two have one name, and
all claimants are valid. -/
structure Sound (taken : List RecordRef) (l : List Claimant) : Prop where
  names : (taken.map (·.name) ++ l.map (·.ref.name)).Nodup
  valid : ∀ c ∈ l, c.verdict = .ok ()

/-- Why a claimant is refused after the given records: its name is taken, and then the kind of the
first record with that name counts, or else it is not valid. -/
inductive Refused (before : List RecordRef) (c : Claimant) : PassFault → Prop
  | taken {front back : List RecordRef} {holder : RecordRef}
    (hbefore : before = front ++ holder :: back) (hfirst : ∀ r ∈ front, r.name ≠ c.ref.name)
    (hname : holder.name = c.ref.name) : Refused before c (.collision c.ref holder.kind)
  | invalid {fault : Fault} (hfree : ∀ r ∈ before, r.name ≠ c.ref.name)
    (hverdict : c.verdict = .error fault) : Refused before c (.mapping c.ref fault)

variable {taken : List RecordRef} {l r : List Claimant} {c : Claimant} {e : PassFault}

lemma sound_nil (h : (taken.map (·.name)).Nodup) : Sound taken [] :=
  ⟨by simpa using h, fun _ hc => nomatch hc⟩

/-- The names that are taken when sound claimants are taken up are all different. -/
lemma Sound.nodup (h : Sound taken l) : ((taken ++ l.map (·.ref)).map (·.name)).Nodup := by
  simpa [Function.comp_def] using h.names

/-- Claimants that are sound one after another. -/
lemma sound_append (hl : Sound taken l) (hr : Sound (taken ++ l.map (·.ref)) r) :
    Sound taken (l ++ r) := by
  refine ⟨?_, fun c hc => ?_⟩
  · have hnames := hr.names
    rw [List.map_append, List.map_map] at hnames
    rw [List.map_append, ← List.append_assoc]
    exact hnames
  · rcases List.mem_append.1 hc with hc | hc
    · exact hl.valid c hc
    · exact hr.valid c hc

/-- A claimant that is refused keeps the others from being sound. -/
lemma not_sound_of_refused {front back : List Claimant}
    (h : Refused (taken ++ front.map (·.ref)) c e) : ¬Sound taken (front ++ c :: back) := by
  intro hs
  cases h with
  | @taken first rest holder hbefore hfirst hname =>
    have hnames := hs.names
    rw [List.map_append, ← List.append_assoc, List.nodup_append] at hnames
    have hholder : holder.name ∈ taken.map (·.name) ++ front.map (·.ref.name) := by
      have hmem : holder.name ∈ (taken ++ front.map (·.ref)).map (·.name) := by
        rw [hbefore]
        simp
      simpa using hmem
    exact hnames.2.2 holder.name hholder c.ref.name (by simp) hname
  | invalid hfree hverdict =>
    have hvalid := hs.valid c (by simp)
    rw [hverdict] at hvalid
    cases hvalid

end Claimant

/-! ## Taking up -/

open Claimant (Sound Refused)

/-- Whether taking up claimants one after another comes to a result: it succeeds if they are sound,
and otherwise it fails with the first one that is refused. -/
inductive Takes {α : Type} (taken : List RecordRef) (l : List Claimant) :
    Except (RecordRef × ClaimFault) α → Prop
  | ok (a : α) (h : Sound taken l) : Takes taken l (.ok a)
  | error {front back : List Claimant} {c : Claimant} {fault : ClaimFault}
    (hl : l = front ++ c :: back) (hfront : Sound taken front)
    (h : Refused (taken ++ front.map (·.ref)) c (.ofClaim c.ref fault)) :
    Takes taken l (.error (c.ref, fault))

namespace Takes

variable {α β : Type} {taken : List RecordRef} {l r : List Claimant}
  {x : Except (RecordRef × ClaimFault) α} {f : α → Except (RecordRef × ClaimFault) β}

/-- **Taking up some claimants and then others.** -/
lemma bind (hx : Takes taken l x)
    (hf : ∀ a, x = .ok a → Sound taken l → Takes (taken ++ l.map (·.ref)) r (f a)) :
    Takes taken (l ++ r) (x >>= f) := by
  cases hx with
  | ok a hsound =>
    have hrest := hf a rfl hsound
    change Takes taken (l ++ r) (f a)
    generalize f a = y at hrest
    cases hrest with
    | ok b hr => exact .ok b (Claimant.sound_append hsound hr)
    | @error front back c fault hl hfront h =>
      have hsplit : l ++ r = (l ++ front) ++ c :: back := by rw [hl, List.append_assoc]
      refine .error hsplit (Claimant.sound_append hsound hfront) ?_
      rwa [List.map_append, ← List.append_assoc]
  | @error front back c fault hl hfront h =>
    have hsplit : l ++ r = front ++ c :: (back ++ r) := by
      rw [hl, List.append_assoc, List.cons_append]
    exact .error hsplit hfront h

/-- What is made of the claimants that were taken up does not matter. -/
lemma map (hx : Takes taken l x) (hf : ∀ a, ∃ b, f a = .ok b) : Takes taken l (x >>= f) := by
  have h : Takes taken (l ++ []) (x >>= f) := hx.bind fun a _ hsound => by
    obtain ⟨b, hb⟩ := hf a
    rw [hb]
    exact .ok b (Claimant.sound_nil hsound.nodup)
  rwa [List.append_nil] at h

/-- Only sound claimants are all taken up. -/
lemma exists_ok_iff (h : Takes taken l x) : (∃ a, x = .ok a) ↔ Sound taken l := by
  cases h with
  | ok a hsound => exact ⟨fun _ => hsound, fun _ => ⟨a, rfl⟩⟩
  | error hl hfront h =>
    refine ⟨?_, fun hsound => ?_⟩
    · rintro ⟨a, ha⟩
      cases ha
    rw [hl] at hsound
    exact absurd hsound (Claimant.not_sound_of_refused h)

end Takes

namespace Entry

variable {σ τ α : Type} {kind : RecordKind} {space : String} {check : String → σ → Except Fault α}
  {taken : List RecordRef}

/-- **Taking up one record** after others with different names. -/
lemma takes_ofRecord (hnodup : (taken.map (·.name)).Nodup) (r : Record σ τ) :
    Takes taken [r.claimant kind space check]
      (ofRecord .never kind space check (Claims.of taken) r) := by
  have hsplit : [r.claimant kind space check] = [] ++ r.claimant kind space check :: [] := rfl
  have hname : (r.ref kind space).name = r.metadata.anyName := rfl
  rw [ofRecord]
  simp only [Cancellation.holds, Bool.false_eq_true, if_false, hname]
  cases hlookup : (Claims.of taken).lookup r.metadata.anyName with
  | some existing =>
    obtain ⟨holder, hholder, hsame, rfl⟩ := Claims.exists_of_lookup hlookup
    obtain ⟨front, back, rfl⟩ := List.append_of_mem hholder
    -- names that are taken are different, so the holder is the first one with its name
    have hfirst : ∀ other ∈ front, other.name ≠ r.metadata.anyName := by
      intro other hother
      rw [← hsame]
      rw [List.map_append, List.nodup_append] at hnodup
      exact hnodup.2.2 _ (List.mem_map_of_mem hother) _ (by simp)
    exact .error hsplit (Claimant.sound_nil hnodup) (.taken (List.append_nil _) hfirst hsame)
  | none =>
    have hfree := Claims.ne_of_lookup hlookup
    cases hcheck : check r.metadata.anyName r.spec with
    | error fault =>
      refine .error hsplit (Claimant.sound_nil hnodup)
        (.invalid (fun other hother => hfree other (by simpa using hother)) ?_)
      rw [Record.claimant, hcheck]
      rfl
    | ok content =>
      refine .ok _ ⟨?_, fun c hc => ?_⟩
      · rw [List.nodup_append]
        refine ⟨hnodup, by simp, fun name hmem other hother => ?_⟩
        obtain ⟨holder, hholder, rfl⟩ := List.mem_map.1 hmem
        rw [List.map_singleton, List.mem_singleton] at hother
        rw [hother]
        exact hfree holder hholder
      · rw [List.mem_singleton.1 hc, Record.claimant, hcheck]
        rfl

/-- **Taking up a list of records.** -/
lemma takes_ofRecords (hnodup : (taken.map (·.name)).Nodup) (l : List (Record σ τ)) :
    Takes taken (l.map (Record.claimant kind space check))
      (ofRecords .never kind space check (Claims.of taken) l) := by
  induction l generalizing taken with
  | nil => exact .ok _ (Claimant.sound_nil hnodup)
  | cons r rest ih =>
    rw [ofRecords]
    refine (takes_ofRecord hnodup r).bind fun entry hentry hsound => ?_
    rw [claims_of_ofRecord hentry]
    exact (ih hsound.nodup).map fun _ => ⟨_, rfl⟩

end Entry

@[simp] lemma Record.map_ref_claimant {σ τ α : Type} (kind : RecordKind) (space : String)
    (check : String → σ → Except Fault α) (l : List (Record σ τ)) :
    (l.map (claimant kind space check)).map (·.ref) = l.map (·.ref kind space) := by
  rw [List.map_map]
  rfl

/-- **Taking up the records of an instance**, kind by kind. -/
lemma Fleet.takes_ofRecords {owner : RecordRef} (hkind : owner.kind = .proxyInstance)
    (records : Records) :
    Takes [owner] (records.sorted.claimants owner.space) (ofRecords .never owner records) := by
  rw [ofRecords, ← Claims.of_instance hkind, Records.claimants, List.append_assoc,
    List.append_assoc]
  refine Takes.bind (Entry.takes_ofRecords (by simp) _) ?_
  rintro ⟨listens, c₁⟩ hl hsound₁
  obtain ⟨-, rfl⟩ := Entry.refs_of_ofRecords hl
  have hnodup₁ := hsound₁.nodup
  rw [Record.map_ref_claimant] at hnodup₁ ⊢
  refine Takes.bind (Entry.takes_ofRecords hnodup₁ _) ?_
  rintro ⟨frontends, c₂⟩ hf hsound₂
  obtain ⟨-, rfl⟩ := Entry.refs_of_ofRecords hf
  have hnodup₂ := hsound₂.nodup
  rw [Record.map_ref_claimant] at hnodup₂ ⊢
  refine Takes.bind (Entry.takes_ofRecords hnodup₂ _) ?_
  rintro ⟨backends, c₃⟩ hb hsound₃
  obtain ⟨-, rfl⟩ := Entry.refs_of_ofRecords hb
  have hnodup₃ := hsound₃.nodup
  rw [Record.map_ref_claimant] at hnodup₃ ⊢
  exact (Entry.takes_ofRecords hnodup₃ _).map fun _ => ⟨_, rfl⟩

namespace Pass

/-- What a pass with a valid instance does before its work on side files. -/
lemma prepare_eq {i : InstanceRecord} {content : Section.Instance}
    (hcontent : Section.Instance.ofSpec (instanceRef i).space (instanceRef i).name i.spec =
      .ok content) (records : Records) :
    prepare .never i records = (Fleet.ofRecords .never (instanceRef i) records).mapError
      (fun e => .ofClaim e.1 e.2) >>= fun fleet => pure (content, fleet) := by
  rw [prepare]
  simp only [Cancellation.holds, Bool.false_eq_true, if_false, hcontent]
  rfl

/-- **Which records a pass takes up.**  Its claimants are the listens, frontends, backends and
resolvers, each kind sorted in a stable way.  A pass with a valid instance comes to its work on side
files exactly if all claimants are valid and their names are different from each other and from that
of the instance.  Otherwise it fails on the first claimant whose name is taken or which is not valid,
for its name if both are so, and names the kind of the first record that has the name.  Then nothing
is read. -/
theorem prepare_of_claimants (store : Store) (i : InstanceRecord) (records : Records)
    {content : Section.Instance}
    (hcontent : Section.Instance.ofSpec (instanceRef i).space (instanceRef i).name i.spec =
      .ok content) :
    let owner := instanceRef i
    let order := records.sorted
    let l := order.claimants owner.space
    let o := run store .never i records
    order.SortsStably records ∧
    ((∃ fleet, prepare .never i records = .ok (content, fleet)) ↔ Sound [owner] l) ∧
    (¬Sound [owner] l → ∃ front c back e, l = front ++ c :: back ∧ Sound [owner] front ∧
      Refused (owner :: front.map (·.ref)) c e ∧ o.result = .error e ∧ o.reads = []) := by
  intro owner order l o
  have htakes : Takes [owner] l (Fleet.ofRecords .never owner records) :=
    Fleet.takes_ofRecords rfl records
  have hprepare := prepare_eq hcontent records
  refine ⟨records.sortsStably_sorted, ?_, fun hunsound => ?_⟩
  · rw [← htakes.exists_ok_iff, hprepare]
    cases Fleet.ofRecords .never owner records with
    | ok fleet => exact ⟨fun _ => ⟨fleet, rfl⟩, fun _ => ⟨fleet, rfl⟩⟩
    | error fault =>
      refine ⟨?_, ?_⟩
      · rintro ⟨fleet, hfleet⟩
        cases hfleet
      · rintro ⟨fleet, hfleet⟩
        cases hfleet
  · generalize hfleet : Fleet.ofRecords .never owner records = taken at htakes
    rw [show instanceRef i = owner from rfl, hfleet] at hprepare
    cases htakes with
    | ok fleet hsound => exact absurd hsound hunsound
    | @error front back c fault hl hfront hrefused =>
      have hrun : o = _ := run_of_prepare_error hprepare
      rw [hrun]
      exact ⟨front, c, back, _, hl, hfront, hrefused, rfl, rfl⟩

/-- A backend that has the name of a frontend is refused for its name, although it is not valid
either. -/
theorem prepare_of_claimants_shared_name :
    let store : Store := fun _ => .ok none
    let i : InstanceRecord := .plain (some "edge") "fleet" .none
    let backend : Spec.Backend :=
      { Spec.Backend.none with hostCertificate := some ⟨⟨"", none, []⟩, "", [], false, none⟩ }
    let records : Records :=
      ⟨[], [.plain (some "edge") "web" .none], [.plain (some "edge") "web" backend], []⟩
    let o := run store .never i records
    (Section.Instance.ofSpec "edge" "fleet" i.spec).isOk = true ∧
      (Section.Backend.ofSpec "edge" "web" backend).isOk = false ∧
      o.result = .error (.collision ⟨.backend, "edge", "web"⟩ .frontend) ∧ o.reads = [] := by
  intro store i backend records o
  have hok : (Section.Instance.ofSpec "edge" "fleet" i.spec).isOk = true := by decide +kernel
  have hinvalid : (Section.Backend.ofSpec "edge" "web" backend).isOk = false := by decide +kernel
  have hprepare : prepare .never i records =
      .error (.collision ⟨.backend, "edge", "web"⟩ .frontend) := by cbv
  cases hcontent : Section.Instance.ofSpec "edge" "fleet" i.spec with
  | error fault =>
    rw [hcontent] at hok
    cases hok
  | ok content =>
    obtain ⟨-, hiff, hrefused⟩ := prepare_of_claimants store i records hcontent
    have hunsound : ¬Sound [instanceRef i] (records.sorted.claimants "edge") := by
      intro hsound
      obtain ⟨fleet, hfleet⟩ := hiff.2 hsound
      rw [hprepare] at hfleet
      cases hfleet
    obtain ⟨front, c, back, e, -, -, -, hresult, hreads⟩ := hrefused hunsound
    have hrun : o = _ := run_of_prepare_error hprepare
    refine ⟨rfl, hinvalid, ?_, hreads⟩
    rw [hrun]

end Pass

end ProxyFleet
