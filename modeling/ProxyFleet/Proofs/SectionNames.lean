import ProxyFleet.Proofs.Checks
import ProxyFleet.Proofs.Plain
import ProxyFleet.Proofs.Preparation
import ProxyFleet.Proofs.Reading
import ProxyFleet.Proofs.RecordOrder

/-!
# Names of sections

Which sections of a document have the same kind and the same name.

**Claims.**  Taking up a record adds its name to the claims, which never hold a name twice
(`Entry.nodup_claims`).  Hence the names of all records of a fleet differ, and none of them is the
instance's (`Fleet.nodup_names`).

**Sections.**  A section of a record has the record's name, so the sections of the records are told
apart by their kinds and names (`Fleet.nodup_sectionKeys`).  The section of metrics belongs to no
record.  Nobody claims its name, and a listen or a frontend may have it as well.

Main statement: `Pass.sections_distinct_iff`.
-/

namespace ProxyFleet

/-- What a section is told apart by: its kind and its name. -/
def Fragment.key (f : Fragment) : FragmentKind × Option String := (f.kind, f.name)

/-- The keys of sections of a kind with the given names. -/
def FragmentKind.keys (kind : FragmentKind) (names : List String) :
    List (FragmentKind × Option String) :=
  names.map (fun n => (kind, some n))

namespace FragmentKind

variable {kind : FragmentKind} {names : List String}

@[simp] lemma mem_keys {key : FragmentKind × Option String} :
    key ∈ kind.keys names ↔ key.1 = kind ∧ ∃ n ∈ names, key.2 = some n := by
  obtain ⟨k, n⟩ := key
  simp only [keys, List.mem_map, Prod.mk.injEq]
  constructor
  · rintro ⟨m, hm, rfl, rfl⟩
    exact ⟨rfl, m, hm, rfl⟩
  · rintro ⟨rfl, m, hm, rfl⟩
    exact ⟨m, hm, rfl, rfl⟩

/-- Sections of a further kind, with different names, keep all keys apart. -/
lemma nodup_append_keys {l : List (FragmentKind × Option String)} (hl : l.Nodup)
    (hnames : names.Nodup) (hkind : ∀ key ∈ l, key.1 ≠ kind) : (l ++ kind.keys names).Nodup := by
  have hkeys : (kind.keys names).Nodup := by
    refine hnames.map fun m n heq => ?_
    simpa using heq
  refine List.nodup_append.2 ⟨hl, hkeys, ?_⟩
  rintro key hkey _ hmem rfl
  exact hkind key hkey (mem_keys.1 hmem).1

end FragmentKind

namespace Section

@[simp] lemma Global.key_fragment (g : Global) : g.fragment.key = (.global, none) := rfl
@[simp] lemma Defaults.key_fragment (d : Defaults) : d.fragment.key = (.defaults, none) := rfl
@[simp] lemma Resolver.key_fragment (r : Resolver) :
    r.fragment.key = (.resolvers, some r.name) := rfl
@[simp] lemma Frontend.key_fragment (f : Frontend) :
    f.fragment.key = (.frontend, some f.name) := rfl
@[simp] lemma Backend.key_fragment (b : Backend) : b.fragment.key = (.backend, some b.name) := rfl
@[simp] lemma Metrics.key_fragment (m : Metrics) :
    m.fragment.key = (.frontend, some "metrics") := rfl
@[simp] lemma Listen.name_frontend (l : Listen) : l.frontend.name = l.name := rfl
@[simp] lemma Listen.name_backend (l : Listen) : l.backend.name = l.name := rfl

end Section

lemma Section.Resolver.name_of_ofSpec {name : String} {spec : Spec.Resolver}
    {s : Section.Resolver} (h : ofSpec name spec = .ok s) : s.name = name := by
  obtain ⟨nameservers, -, h⟩ := Check.bind_eq_ok_iff.1 h
  obtain ⟨hold, -, h⟩ := Check.bind_eq_ok_iff.1 h
  obtain ⟨resolve, -, h⟩ := Check.bind_eq_ok_iff.1 h
  obtain ⟨retry, -, h⟩ := Check.bind_eq_ok_iff.1 h
  cases h
  rfl

/-! ## Claims -/

namespace Entry

variable {σ τ α : Type} {cancel : Cancellation} {kind : RecordKind} {space : String}
  {check : String → σ → Except Fault α} {claims after : Claims} {l : List (Record σ τ)}
  {entries : List (Entry α)}

lemma names_eq (h : ofRecords cancel kind space check claims l = .ok (entries, after)) :
    entries.map (·.ref.name) = l.map (·.metadata.anyName) := by
  induction l generalizing claims entries with
  | nil =>
    cases h
    rfl
  | cons r rest ih =>
    obtain ⟨entry, later, hentry, hlater, rfl⟩ := ofRecords_cons_eq_ok h
    rw [List.map_cons, List.map_cons, ih hlater, name_of_ofRecord hentry]

lemma names_claims (h : ofRecords cancel kind space check claims l = .ok (entries, after)) :
    after.map (·.1) = (entries.map (·.ref.name)).reverse ++ claims.map (·.1) := by
  induction l generalizing claims entries with
  | nil =>
    cases h
    rfl
  | cons r rest ih =>
    obtain ⟨entry, later, hentry, hlater, rfl⟩ := ofRecords_cons_eq_ok h
    rw [ih hlater]
    simp

/-- No name is claimed twice. -/
lemma nodup_claims (h : ofRecords cancel kind space check claims l = .ok (entries, after))
    (hc : (claims.map (·.1)).Nodup) : (after.map (·.1)).Nodup := by
  induction l generalizing claims entries with
  | nil =>
    cases h
    exact hc
  | cons r rest ih =>
    obtain ⟨entry, later, hentry, hlater, rfl⟩ := ofRecords_cons_eq_ok h
    obtain ⟨-, hfree, -⟩ := ofRecord_eq_ok_iff.1 hentry
    rw [List.lookup_eq_none_iff] at hfree
    -- the record was taken up as nobody had its name
    have hnew : entry.ref.name ∉ claims.map (·.1) := by
      intro hmem
      obtain ⟨claim, hclaim, hname⟩ := List.mem_map.1 hmem
      have hne := hfree claim hclaim
      rw [← name_of_ofRecord hentry, hname] at hne
      simp at hne
    exact ih hlater (List.nodup_cons.2 ⟨hnew, hc⟩)

end Entry

namespace Fleet

variable {cancel : Cancellation} {owner : RecordRef} {r : Records} {f : Fleet}

/-- **No two records of a fleet have one name**, and none of them has the instance's. -/
lemma nodup_names (h : ofRecords cancel owner r = .ok f) :
    (owner.name :: f.refs.map (·.name)).Nodup := by
  obtain ⟨c₁, c₂, c₃, c₄, hl, hf, hb, hr⟩ := ofRecords_eq_ok h
  have hall : (c₄.map (·.1)).Nodup :=
    Entry.nodup_claims hr (Entry.nodup_claims hb (Entry.nodup_claims hf
      (Entry.nodup_claims hl (List.nodup_singleton _))))
  have hnames : c₄.map (·.1) = (owner.name :: f.refs.map (·.name)).reverse := by
    rw [Entry.names_claims hr, Entry.names_claims hb, Entry.names_claims hf, Entry.names_claims hl]
    simp [refs, List.map_map, Function.comp_def]
  -- the claims hold the names in reverse, from the last resolver down to the instance
  rw [hnames, List.nodup_reverse] at hall
  exact hall

/-! ## Sections -/

/-- Whether the sections of a fleet have the names of their records. -/
structure Named (f : Fleet) : Prop where
  listens : ∀ e ∈ f.listens, e.content.name = e.ref.name
  frontends : ∀ e ∈ f.frontends, e.content.name = e.ref.name
  backends : ∀ e ∈ f.backends, e.content.name = e.ref.name
  resolvers : ∀ e ∈ f.resolvers, e.content.name = e.ref.name

/-- A checked record gives its name to its section. -/
lemma named_of_ofRecords (h : ofRecords cancel owner r = .ok f) : f.Named := by
  obtain ⟨c₁, c₂, c₃, c₄, hl, hf, hb, hr⟩ := ofRecords_eq_ok h
  constructor
  · intro e he
    obtain ⟨spec, hspec⟩ := Entry.exists_check_of_mem hl he
    exact (Section.Listen.ofSpec_eq_ok_iff.1 hspec).2.2.2.2
  · intro e he
    obtain ⟨spec, hspec⟩ := Entry.exists_check_of_mem hf he
    exact (Section.Frontend.ofSpec_eq_ok_iff.1 hspec).2.2.2.1
  · intro e he
    obtain ⟨spec, hspec⟩ := Entry.exists_check_of_mem hb he
    exact (Section.Backend.ofSpec_eq_ok_iff.1 hspec).2.2.2.1
  · intro e he
    obtain ⟨spec, hspec⟩ := Entry.exists_check_of_mem hr he
    exact Section.Resolver.name_of_ofSpec hspec

/-- The names of the listens and frontends, all of which have a section that listens. -/
def frontendNames (f : Fleet) : List String :=
  f.listens.map (·.ref.name) ++ f.frontends.map (·.ref.name)

/-- The names of the listens and backends, all of which have a section that serves. -/
def backendNames (f : Fleet) : List String :=
  f.listens.map (·.ref.name) ++ f.backends.map (·.ref.name)

def resolverNames (f : Fleet) : List String := f.resolvers.map (·.ref.name)

/-- The keys of the sections of an instance, which have no names. -/
def instanceKeys : List (FragmentKind × Option String) := [(.global, none), (.defaults, none)]

/-- The keys of the sections of the instance and of the records. -/
def sectionKeys (f : Fleet) : List (FragmentKind × Option String) :=
  instanceKeys ++ FragmentKind.resolvers.keys f.resolverNames ++
    FragmentKind.frontend.keys f.frontendNames ++ FragmentKind.backend.keys f.backendNames

/-- The keys of all sections; that of metrics comes last. -/
lemma keys_fragments (hn : f.Named) (i : Section.Instance) :
    (f.fragments i).map Fragment.key =
      f.sectionKeys ++ (i.metrics.map (fun _ => (.frontend, some "metrics"))).toList := by
  have hl : f.listens.map (·.ref.name) = f.listens.map (·.content.name) :=
    (List.map_congr_left hn.listens).symm
  have hf : f.frontends.map (·.ref.name) = f.frontends.map (·.content.name) :=
    (List.map_congr_left hn.frontends).symm
  have hb : f.backends.map (·.ref.name) = f.backends.map (·.content.name) :=
    (List.map_congr_left hn.backends).symm
  have hr : f.resolvers.map (·.ref.name) = f.resolvers.map (·.content.name) :=
    (List.map_congr_left hn.resolvers).symm
  rw [sectionKeys, instanceKeys, resolverNames, frontendNames, backendNames, hl, hf, hb, hr]
  cases hm : i.metrics <;> simp [fragments, FragmentKind.keys, Function.comp_def, hm]

/-- **The sections of the instance and of the records are told apart** by their keys. -/
lemma nodup_sectionKeys (h : ofRecords cancel owner r = .ok f) : f.sectionKeys.Nodup := by
  have hnames : (f.refs.map (·.name)).Nodup := (List.nodup_cons.1 (nodup_names h)).2
  simp only [refs, List.map_append, List.map_map, Function.comp_def] at hnames
  have hresolvers : f.resolverNames.Nodup := hnames.of_append_right
  have hfrontends : f.frontendNames.Nodup := hnames.of_append_left.of_append_left
  have hbackends : f.backendNames.Nodup :=
    hnames.of_append_left.sublist ((List.sublist_append_left _ _).append (.refl _))
  have hinstance : instanceKeys.Nodup := by decide
  refine FragmentKind.nodup_append_keys (FragmentKind.nodup_append_keys
    (FragmentKind.nodup_append_keys hinstance hresolvers ?_) hfrontends ?_) hbackends ?_
  all_goals
    rintro ⟨kind, n⟩ hkey rfl
    simp [instanceKeys] at hkey

lemma mem_frontendNames (h : ofRecords cancel owner r = .ok f) {n : String} :
    n ∈ f.frontendNames ↔ (∃ l ∈ r.listens, l.metadata.anyName = n) ∨
      ∃ l ∈ r.frontends, l.metadata.anyName = n := by
  obtain ⟨c₁, c₂, c₃, c₄, hl, hf, -, -⟩ := ofRecords_eq_ok h
  rw [frontendNames, Entry.names_eq hl, Entry.names_eq hf, List.mem_append, List.mem_map,
    List.mem_map]
  simp only [(Record.sorted_perm _).mem_iff]

/-- All sections are told apart when the section of metrics has a name of its own. -/
lemma nodup_keys_iff (h : ofRecords cancel owner r = .ok f) (i : Section.Instance) :
    ((f.fragments i).map Fragment.key).Nodup ↔
      (i.metrics.isSome = true → "metrics" ∉ f.frontendNames) := by
  have hsections := nodup_sectionKeys h
  have hmem : (.frontend, some "metrics") ∈ f.sectionKeys ↔ "metrics" ∈ f.frontendNames := by
    simp [sectionKeys, instanceKeys]
  rw [keys_fragments (named_of_ofRecords h)]
  cases i.metrics with
  | none => simp [hsections]
  | some m =>
    rw [Option.map_some, Option.toList_some, ← List.concat_eq_append, List.nodup_concat, hmem]
    simp [hsections]

end Fleet

lemma Section.Instance.isSome_metrics_of_ofSpec {space name : String} {spec : Spec.Instance}
    {i : Section.Instance} (h : ofSpec space name spec = .ok i) :
    i.metrics.isSome = spec.metrics.any (·.enabled) := by
  obtain ⟨metrics, hmetrics, h⟩ := Check.bind_eq_ok_iff.1 h
  obtain ⟨global, -, h⟩ := Check.bind_eq_ok_iff.1 h
  obtain ⟨defaults, -, h⟩ := Check.bind_eq_ok_iff.1 h
  cases h
  cases hm : spec.metrics with
  | none =>
    rw [hm] at hmetrics
    cases hmetrics
    rfl
  | some m =>
    rw [hm] at hmetrics
    cases he : m.enabled with
    | false =>
      rw [Option.filter_some_neg (by simp [he])] at hmetrics
      cases hmetrics
      simp [he]
    | true =>
      rw [Option.filter_some_pos he, Option.mapM_some] at hmetrics
      obtain ⟨checked, -, hchecked⟩ := Check.bind_eq_ok_iff.1 hmetrics
      cases hchecked
      simp [he]

/-- Whether one of the records that have a section that listens has a name. -/
def Records.Listens (r : Records) (name : String) : Prop :=
  (∃ l ∈ r.listens, l.metadata.anyName = name) ∨ ∃ f ∈ r.frontends, f.metadata.anyName = name

namespace Pass

variable {store : Store} {cancel : Cancellation} {i : InstanceRecord} {records : Records}
  {set : ArtifactSet}

/-- **When the sections of a document are told apart.**  The document of a pass that succeeds has no
two sections with the same kind and the same name unless metrics are enabled and a listen or a
frontend is called as their section is.  Then it has two. -/
theorem sections_distinct_iff (h : (run store cancel i records).result = .ok set) :
    ∃ content fleet, prepare cancel i records = .ok (content, fleet) ∧
      set.document = Fragment.render (fleet.fragments content) ∧
      (((fleet.fragments content).map Fragment.key).Nodup ↔
        ¬((∃ m, i.spec.metrics = some m ∧ m.enabled = true) ∧ records.Listens "metrics")) := by
  obtain ⟨content, fleet, p, course, hprepare, -, hset⟩ := run_eq_ok h
  obtain ⟨hcontent, hfleet⟩ := prepare_eq_ok hprepare
  refine ⟨content, fleet, hprepare, by simp only [hset], ?_⟩
  rw [Fleet.nodup_keys_iff hfleet, Fleet.mem_frontendNames hfleet,
    Section.Instance.isSome_metrics_of_ofSpec hcontent, ← Records.Listens, not_and,
    Option.any_eq_true]

/-- An instance with metrics on a port. -/
def meteredInstance : InstanceRecord :=
  .plain (some "edge") "fleet" { Spec.Instance.none with metrics := some ⟨true, .none, 9000⟩ }

/-- With metrics, a backend may be called as their section is. -/
theorem sections_distinct_iff_backend_metrics :
    let store : Store := fun _ => .ok none
    let records : Records :=
      ⟨[], [.plain (some "edge") "web" .none], [.plain (some "edge") "metrics" .none], []⟩
    ∃ set content fleet, (run store .never meteredInstance records).result = .ok set ∧
      prepare .never meteredInstance records = .ok (content, fleet) ∧
      ((fleet.fragments content).map Fragment.key).Nodup := by
  intro store records
  have hok : (run store .never meteredInstance records).result.map (fun _ => ()) = .ok () := by cbv
  obtain ⟨set, hset, -⟩ := Check.map_eq_ok_iff.1 hok
  obtain ⟨content, fleet, hprepare, -, hdistinct⟩ := sections_distinct_iff hset
  refine ⟨set, content, fleet, hset, hprepare, hdistinct.2 ?_⟩
  rintro ⟨-, hname⟩
  revert hname
  simp [Records.Listens, records, Record.plain, Metadata.named, Metadata.anyName]

/-- With metrics, a frontend that is called as their section is shares its kind and name. -/
theorem metrics_section_repeated :
    let store : Store := fun _ => .ok none
    let records : Records := ⟨[], [.plain (some "edge") "metrics" .none], [], []⟩
    ∃ set content fleet, (run store .never meteredInstance records).result = .ok set ∧
      prepare .never meteredInstance records = .ok (content, fleet) ∧
      set.document = Fragment.render (fleet.fragments content) ∧
      ¬((fleet.fragments content).map Fragment.key).Nodup := by
  intro store records
  have hkeys : (prepare .never meteredInstance records).map
      (fun p => (p.2.fragments p.1).map Fragment.key) =
      .ok [(.global, none), (.defaults, none), (.frontend, some "metrics"),
        (.frontend, some "metrics")] := by cbv
  have hdocument : (run store .never meteredInstance records).result.map (·.document) =
      (prepare .never meteredInstance records).map
        (fun p => Fragment.render (p.2.fragments p.1)) := by cbv
  obtain ⟨⟨content, fleet⟩, hprepare, hkeys⟩ := Check.map_eq_ok_iff.1 hkeys
  rw [hprepare] at hdocument
  obtain ⟨set, hset, hrender⟩ := Check.map_eq_ok_iff.1 hdocument
  refine ⟨set, content, fleet, hset, hprepare, hrender, ?_⟩
  rw [hkeys]
  decide

end Pass

end ProxyFleet
