import ProxyFleet.Proofs.SectionNames
import ProxyFleet.Proofs.Statuses

/-!
# The sections of a document, in order

The document of a pass that succeeds shows every record once, and nothing but the records and the
instance.

**Contributions.**  The records of a kind contribute their sections in strictly ascending order,
one section each (`Record.Contributes`); whatever the order was that they were handed in, taking
them up leads to that (`Entry.contributes_of_ofRecords`).  A section has the name of its record, so
that the names of the sections are those of the records (`Record.Contributes.names_eq`).

**Groups.**  `Sections` are the sections of a document by where they come from, and `Sections.all`
is the row that they stand in.

Main statement: `Pass.document_shows_records`.
-/

namespace ProxyFleet

/-! ## Contributions -/

namespace Record

variable {σ τ α : Type}

/-- Whether a record precedes another: by the namespace, having none before all others, and by the
name within a namespace. -/
def Precedes (a b : Record σ τ) : Prop :=
  a.metadata.space < b.metadata.space ∨
    a.metadata.space = b.metadata.space ∧ a.metadata.anyName < b.metadata.anyName

/-- **What records of a kind contribute to a document**: in strictly ascending order, the section
of each of them. -/
structure Contributes (check : String → σ → Except Fault α) (records order : List (Record σ τ))
    (sections : List α) : Prop where
  perm : order.Perm records
  ascending : order.Pairwise Precedes
  checked : List.Forall₂ (fun r s => check r.metadata.anyName r.spec = .ok s) order sections

/-- Sections that have the names they were checked with have those of their records. -/
lemma Contributes.names_eq {check : String → σ → Except Fault α} {records order : List (Record σ τ)}
    {sections : List α} (h : Contributes check records order sections) {name : α → String}
    (hname : ∀ n spec s, check n spec = .ok s → name s = n) :
    sections.map name = order.map (·.metadata.anyName) := by
  have hchecked := h.checked
  clear h
  induction hchecked with
  | nil => rfl
  | cons hcheck _ ih => rw [List.map_cons, List.map_cons, ih, hname _ _ _ hcheck]

end Record

namespace Entry

variable {σ τ α : Type} {cancel : Cancellation} {kind : RecordKind} {space : String}
  {check : String → σ → Except Fault α} {claims after : Claims} {entries : List (Entry α)}

/-- Records become entries one by one, in their order. -/
lemma forall₂_entries_of_ofRecords {l : List (Record σ τ)}
    (h : ofRecords cancel kind space check claims l = .ok (entries, after)) :
    List.Forall₂ (fun r e => ∃ content, check r.metadata.anyName r.spec = .ok content ∧
      e = ⟨r.ref kind space, r.metadata.allLabels, content⟩) l entries := by
  induction l generalizing claims entries with
  | nil =>
    cases h
    exact .nil
  | cons r rest ih =>
    obtain ⟨entry, later, hentry, hlater, rfl⟩ := ofRecords_cons_eq_ok h
    obtain ⟨-, -, hentry⟩ := ofRecord_eq_ok_iff.1 hentry
    exact .cons hentry (ih hlater)

/-- The entries of records are their sections, one for each and in their order. -/
lemma forall₂_of_ofRecords {l : List (Record σ τ)}
    (h : ofRecords cancel kind space check claims l = .ok (entries, after)) :
    List.Forall₂ (fun r s => check r.metadata.anyName r.spec = .ok s) l
      (entries.map (·.content)) := by
  rw [List.forall₂_map_right_iff]
  refine (forall₂_entries_of_ofRecords h).imp ?_
  rintro r e ⟨content, hcheck, rfl⟩
  exact hcheck

/-- **Records that are taken up contribute their sections.** -/
lemma contributes_of_ofRecords {l : List (Record σ τ)}
    (h : ofRecords cancel kind space check claims (Record.sorted l) = .ok (entries, after)) :
    Record.Contributes check l (Record.sorted l) (entries.map (·.content)) where
  perm := Record.sorted_perm l
  ascending := (Record.ascending_sorted (nodup_key_of_ofRecords h)).imp Record.before_iff.1
  checked := forall₂_of_ofRecords h

end Entry

/-! ## Groups -/

/-- The sections of a document, by where they come from. -/
structure Sections where
  content : Section.Instance
  listens : List Section.Listen
  frontends : List Section.Frontend
  backends : List Section.Backend
  resolvers : List Section.Resolver

namespace Sections

/-- **The row of all sections**: those of the instance, the resolvers, the frontends of the listens
before the others, the backends of the listens before the others, and metrics at the end. -/
def all (s : Sections) : List Fragment :=
  [s.content.global.fragment, s.content.defaults.fragment] ++
    s.resolvers.map (·.fragment) ++
    s.listens.map (·.frontend.fragment) ++
    s.frontends.map (·.fragment) ++
    s.listens.map (·.backend.fragment) ++
    s.backends.map (·.fragment) ++
    s.content.metrics.toList.map (·.fragment)

/-- The sections of a checked instance and its fleet. -/
def ofFleet (content : Section.Instance) (f : Fleet) : Sections :=
  ⟨content, f.listens.map (·.content), f.frontends.map (·.content), f.backends.map (·.content),
    f.resolvers.map (·.content)⟩

lemma all_ofFleet (content : Section.Instance) (f : Fleet) :
    (ofFleet content f).all = f.fragments content := by
  simp only [all, ofFleet, Fleet.fragments, List.map_map, Function.comp_def]
  cases content.metrics <;> rfl

/-- The kinds and names of all sections. -/
lemma keys_all (s : Sections) : s.all.map Fragment.key =
    [(.global, none), (.defaults, none)] ++
      FragmentKind.resolvers.keys (s.resolvers.map (·.name)) ++
      FragmentKind.frontend.keys (s.listens.map (·.name)) ++
      FragmentKind.frontend.keys (s.frontends.map (·.name)) ++
      FragmentKind.backend.keys (s.listens.map (·.name)) ++
      FragmentKind.backend.keys (s.backends.map (·.name)) ++
      (if s.content.metrics.isSome then [(.frontend, some "metrics")] else []) := by
  cases hm : s.content.metrics <;> simp [all, FragmentKind.keys, Function.comp_def, hm]

end Sections

/-- **The sections that an instance and its records lead to**, the records of each kind in an
order. -/
structure Sections.Shows (s : Sections) (i : InstanceRecord) (records order : Records) : Prop where
  content : Section.Instance.ofSpec (Pass.instanceRef i).space (Pass.instanceRef i).name i.spec =
    .ok s.content
  metrics : s.content.metrics.isSome = i.spec.metrics.any (·.enabled)
  listens : Record.Contributes (Section.Listen.ofSpec (Pass.instanceRef i).space) records.listens
    order.listens s.listens
  frontends : Record.Contributes (Section.Frontend.ofSpec (Pass.instanceRef i).space)
    records.frontends order.frontends s.frontends
  backends : Record.Contributes (Section.Backend.ofSpec (Pass.instanceRef i).space)
    records.backends order.backends s.backends
  resolvers : Record.Contributes Section.Resolver.ofSpec records.resolvers order.resolvers
    s.resolvers

/-- Every section of a record has the record's name. -/
lemma Sections.Shows.keys_all {s : Sections} {i : InstanceRecord} {records order : Records}
    (h : s.Shows i records order) : s.all.map Fragment.key =
      [(.global, none), (.defaults, none)] ++
        FragmentKind.resolvers.keys (order.resolvers.map (·.metadata.anyName)) ++
        FragmentKind.frontend.keys (order.listens.map (·.metadata.anyName)) ++
        FragmentKind.frontend.keys (order.frontends.map (·.metadata.anyName)) ++
        FragmentKind.backend.keys (order.listens.map (·.metadata.anyName)) ++
        FragmentKind.backend.keys (order.backends.map (·.metadata.anyName)) ++
        (if i.spec.metrics.any (·.enabled) then [(.frontend, some "metrics")] else []) := by
  have hl := h.listens.names_eq fun _ _ _ hs => (Section.Listen.ofSpec_eq_ok_iff.1 hs).2.2.2.2
  have hf := h.frontends.names_eq fun _ _ _ hs =>
    (Section.Frontend.ofSpec_eq_ok_iff.1 hs).2.2.2.1
  have hb := h.backends.names_eq fun _ _ _ hs => (Section.Backend.ofSpec_eq_ok_iff.1 hs).2.2.2.1
  have hr := h.resolvers.names_eq fun _ _ _ hs => Section.Resolver.name_of_ofSpec hs
  rw [Sections.keys_all, hl, hf, hb, hr, h.metrics]

namespace Pass

variable {store : Store} {cancel : Cancellation} {i : InstanceRecord} {records : Records}
  {set : ArtifactSet}

/-- The sections of a fleet are those of the records in their order. -/
lemma shows_of_prepare {content : Section.Instance} {fleet : Fleet}
    (h : prepare cancel i records = .ok (content, fleet)) :
    (Sections.ofFleet content fleet).Shows i records records.sorted := by
  obtain ⟨hcontent, hfleet⟩ := prepare_eq_ok h
  obtain ⟨c₁, c₂, c₃, c₄, hl, hf, hb, hr⟩ := Fleet.ofRecords_eq_ok hfleet
  exact ⟨hcontent, Section.Instance.isSome_metrics_of_ofSpec hcontent,
    Entry.contributes_of_ofRecords hl, Entry.contributes_of_ofRecords hf,
    Entry.contributes_of_ofRecords hb, Entry.contributes_of_ofRecords hr⟩

/-- **What a document is made of.**  The document of a pass that succeeds renders the sections of
the instance, one `resolvers` section for each resolver, the frontends of the listens, one for each
frontend, the backends of the listens, one for each backend, and metrics last if they are enabled.
Each group is in strictly ascending order of its records, shows each of them once under its name,
and shows nothing else. -/
theorem document_shows_records (h : (run store cancel i records).result = .ok set) :
    ∃ (order : Records) (s : Sections), s.Shows i records order ∧
      set.document = Fragment.render s.all ∧
      s.all.map Fragment.key =
        [(.global, none), (.defaults, none)] ++
          FragmentKind.resolvers.keys (order.resolvers.map (·.metadata.anyName)) ++
          FragmentKind.frontend.keys (order.listens.map (·.metadata.anyName)) ++
          FragmentKind.frontend.keys (order.frontends.map (·.metadata.anyName)) ++
          FragmentKind.backend.keys (order.listens.map (·.metadata.anyName)) ++
          FragmentKind.backend.keys (order.backends.map (·.metadata.anyName)) ++
          (if i.spec.metrics.any (·.enabled) then [(.frontend, some "metrics")] else []) := by
  obtain ⟨content, fleet, p, course, hprepare, -, rfl⟩ := run_eq_ok h
  have hshows : (Sections.ofFleet content fleet).Shows i records records.sorted :=
    shows_of_prepare hprepare
  refine ⟨records.sorted, Sections.ofFleet content fleet, hshows, ?_, hshows.keys_all⟩
  rw [Sections.all_ofFleet]

/-- A listen comes in twice, and a frontend without a namespace before one with a namespace. -/
theorem document_shows_records_listen_and_frontends :
    let store : Store := fun _ => .ok none
    let web : FrontendRecord := .plain (some "edge") "web" .none
    let zoo : FrontendRecord := .plain none "zoo" .none
    let records : Records := ⟨[.plain (some "edge") "shop" .none], [web, zoo], [], []⟩
    ∃ set, (run store .never meteredInstance records).result = .ok set ∧
      ∃ s : Sections, set.document = Fragment.render s.all ∧
        s.all.map Fragment.key =
          [(.global, none), (.defaults, none), (.frontend, some "shop"), (.frontend, some "zoo"),
            (.frontend, some "web"), (.backend, some "shop"), (.frontend, some "metrics")] := by
  intro store web zoo records
  have hok : (run store .never meteredInstance records).result.map (fun _ => ()) = .ok () := by cbv
  obtain ⟨set, hset, -⟩ := Check.map_eq_ok_iff.1 hok
  obtain ⟨order, s, hshows, hdocument, hkeys⟩ := document_shows_records hset
  refine ⟨set, hset, s, hdocument, ?_⟩
  have hlistens := List.perm_singleton.1 hshows.listens.perm
  have hbackends := List.perm_nil.1 hshows.backends.perm
  have hresolvers := List.perm_nil.1 hshows.resolvers.perm
  have hfrontends : order.frontends = [zoo, web] := by
    rcases List.perm_pair.1 hshows.frontends.perm with hsame | hturned
    · have hascending := hshows.frontends.ascending
      rw [hsame, List.pairwise_pair] at hascending
      rcases hascending with hlt | ⟨hsame, -⟩
      · cases hlt
      · cases hsame
    · exact hturned
  rw [hkeys, hlistens, hfrontends, hbackends, hresolvers]
  rfl

end Pass

end ProxyFleet
