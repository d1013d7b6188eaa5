import ProxyFleet.Controller
import ProxyFleet.Proofs.Checks
import ProxyFleet.Proofs.Plain
import ProxyFleet.Proofs.Reconciling

/-!
# Records that an instance does not select

Several fleets may share a namespace.  A controller lists all records of a kind, and keeps those
that its instance selects.

**Labels.**  A record that is read has the labels of its object (`Record.labels?_of_read`), so that
it is selected exactly when its object is.

**Lists.**  A list is read when all of its objects are records, selected or not.  What comes out
are the records of the selected objects (`Controller.select_eq`).  Hence a controller reads nothing
but the instance, the selected objects, and which kind, if any, is the first one that cannot be
read (`Controller.fetch_eq`).

**Two clusters.**  Of two clusters that agree on everything that concerns an instance, a controller
makes the same unless that kind differs (`Controller.look_congr`).

Main statement: `Controller.reconcile_same_iff`.
-/

namespace ProxyFleet

/-! ## Labels -/

namespace Schema

variable {σ α β : Type} {members : List (String × Json)}

lemma read_map_eq_some_iff {f : α → β} {x : Schema σ α} {b : β} :
    (f <$> x).read members = some b ↔ ∃ a, x.read members = some a ∧ f a = b := by
  have h : (f <$> x).read members = (x.read members).bind (fun a => some (f a)) := rfl
  rw [h, Option.bind_eq_some_iff]
  simp

lemma read_seq_eq_some_iff {f : Schema σ (α → β)} {x : Schema σ α} {b : β} :
    (f <*> x).read members = some b ↔
      ∃ g, f.read members = some g ∧ ∃ a, x.read members = some a ∧ g a = b := by
  have h : (f <*> x).read members =
      (f.read members).bind (fun g => (x.read members).bind (fun a => some (g a))) := rfl
  simp only [h, Option.bind_eq_some_iff, Option.some.injEq]

/-- Only an object is read as a record. -/
lemma format_read_eq_some_iff {schema : Schema σ σ} {o : Json} {s : σ} :
    schema.format.read o = some s ↔
      ∃ members, o = .object members ∧ schema.read members = some s := by
  cases o <;> simp [format]

end Schema

/-- The labels in the metadata of an object, if they can be read.  Where they were left out, there
are none. -/
def Json.labels? (o : Json) : Option Labels :=
  match o.member? "metadata" with
  | some (.object members) =>
    (Schema.readOptional "labels" Format.text.map members).map (·.getD .empty)
  | _ => none

/-- Whether a selector matches the labels of an object. -/
def Selector.selectsObject (s : Selector) (o : Json) : Bool := o.labels?.any s.selects

lemma Metadata.readOptional_labels {members : List (String × Json)} {m : Metadata}
    (h : schema.read members = some m) :
    Schema.readOptional "labels" Format.text.map members = some m.labels := by
  simp only [schema, Schema.read_seq_eq_some_iff, Schema.read_map_eq_some_iff] at h
  obtain ⟨_, ⟨_, ⟨_, ⟨_, ⟨_, ⟨_, ⟨_, ⟨_, ⟨_, ⟨_, ⟨_, ⟨_, ⟨_, ⟨_, ⟨annotations, -, rfl⟩, created,
    -, rfl⟩, grace, -, rfl⟩, deleted, -, rfl⟩, finalizers, -, rfl⟩, generated, -, rfl⟩,
    generation, -, rfl⟩, labels, hlabels, rfl⟩, fields, -, rfl⟩, name, -, rfl⟩, space, -, rfl⟩,
    owners, -, rfl⟩, version, -, rfl⟩, link, -, rfl⟩, uid, -, rfl⟩ := h
  exact hlabels

namespace Record

variable {σ τ : Type} {kind : RecordKind} {spec : Format σ} {status : Format τ} {o : Json}
  {r : Record σ τ}

/-- A record has the labels of its object. -/
lemma labels?_of_read (h : (format kind spec status).read o = some r) :
    o.labels? = some r.metadata.allLabels := by
  simp only [format, Schema.format_read_eq_some_iff, Schema.read_seq_eq_some_iff,
    Schema.read_map_eq_some_iff] at h
  -- of the three members that make a record only the metadata matter
  obtain ⟨members, rfl, _, ⟨_, ⟨m, hm, rfl⟩, given, -, rfl⟩, reported, -, rfl⟩ := h
  obtain ⟨metadata, hlookup, hm⟩ := Option.bind_eq_some_iff.1 hm
  obtain ⟨inner, rfl, hm⟩ := Schema.format_read_eq_some_iff.1 hm
  have hmember : (Json.object members).member? "metadata" = some (.object inner) := hlookup
  rw [Json.labels?, hmember]
  simp only [Metadata.readOptional_labels hm, Option.map_some]
  rfl

lemma selects_of_read (h : (format kind spec status).read o = some r) (s : Selector) :
    s.selects r.metadata.allLabels = s.selectsObject o := by
  rw [Selector.selectsObject, labels?_of_read h, Option.any_some]

end Record

/-! ## Lists -/

/-- The kinds of the records that a controller lists, in order. -/
def RecordKind.listed : List RecordKind := [.listen, .frontend, .backend, .resolver]

lemma RecordKind.forall_listed_iff {P : RecordKind → Prop} :
    (∀ kind ∈ listed, P kind) ↔ P .listen ∧ P .frontend ∧ P .backend ∧ P .resolver := by
  simp [listed]

/-- A traversal succeeds when it does for every member. -/
lemma mapM_eq_filterMap {α β : Type} (f : α → Option β) (l : List α) :
    l.mapM f = if l.all (fun a => (f a).isSome) then some (l.filterMap f) else none := by
  induction l with
  | nil => rfl
  | cons a rest ih =>
    rw [List.mapM_cons, ih]
    cases ha : f a with
    | none => simp [ha]
    | some b =>
      cases hall : rest.all (fun a => (f a).isSome) with
      | false => simp [ha, hall]
      | true => simp [ha, hall]

namespace Cluster

variable (c : Cluster)

/-- The objects that are found when those of a kind in a namespace are listed. -/
def listing (kind : ObjectKind) (space : String) : Option (List Json) := do
  let path ← Target.path? (kind.collection space ++ "?")
  let space ← kind.collectionAt? path
  return c.list kind.name space

/-- The listed objects of a kind that a selector matches. -/
def selected (kind : RecordKind) (space : String) (s : Selector) : List Json :=
  ((c.listing kind.objectKind space).getD []).filter s.selectsObject

/-- Whether all records of a kind can be listed and read. -/
def readable (kind : RecordKind) (space : String) : Bool :=
  (c.listing kind.objectKind space).any (·.all kind.isRecord)

variable {c}

lemma readAll_eq {α : Type} (kind : ObjectKind) (space : String) (read : Json → Option α) :
    c.readAll kind space read = (c.listing kind space).bind (·.mapM read) := by
  rw [readAll, listing]
  cases Target.path? (kind.collection space ++ "?") with
  | none => rfl
  | some path =>
    simp only [Option.bind_eq_bind, Option.bind_some]
    cases kind.collectionAt? path <;> rfl

/-- Whether objects can be listed does not depend on the cluster. -/
lemma isSome_listing (a b : Cluster) (kind : ObjectKind) (space : String) :
    (a.listing kind space).isSome = (b.listing kind space).isSome := by
  rw [listing, listing]
  cases Target.path? (kind.collection space ++ "?") with
  | none => rfl
  | some path =>
    simp only [Option.bind_eq_bind, Option.bind_some]
    cases kind.collectionAt? path <;> rfl

/-- In a namespace whose name can stand in a path, its own objects are listed. -/
lemma listing_eq_list {kind : ObjectKind} {space : String} (hs : '/' ∉ space.toList)
    (hpath : Target.path? (kind.collection space ++ "?") = some (kind.collection space)) :
    c.listing kind space = some (c.list kind.name space) := by
  rw [listing, hpath, Option.bind_eq_bind, Option.bind_some,
    ObjectKind.collectionAt?_collection hs]
  rfl

/-- An object is read in two steps: it is had, and it is what it should be. -/
lemma read_eq_bind {α : Type} (kind : ObjectKind) (space name : String)
    (read : Json → Option α) : c.read kind space name read =
      c.read kind space name some >>= fun o => (read o).elim (.error .failed) .ok := by
  rw [Cluster.read, Cluster.read]
  split
  · rfl
  · cases Target.path? (kind.object space name) with
    | none => rfl
    | some path => cases h : c.at? kind path <;> simp [h, bind, Except.bind]

lemma read_congr {α : Type} {a b : Cluster} {kind : ObjectKind}
    (h : ∀ space, a.list kind.name space = b.list kind.name space) (space name : String)
    (read : Json → Option α) : a.read kind space name read = b.read kind space name read := by
  have hat : ∀ path, a.at? kind path = b.at? kind path := by
    intro path
    simp only [at?, find?, h]
  simp only [Cluster.read, hat]

/-- Clusters with the same config maps and secrets have the same values. -/
lemma store_congr {a b : Cluster}
    (h : ∀ (kind : StoreKind) space, a.list kind.objectKind.name space =
      b.list kind.objectKind.name space) : a.store = b.store := by
  have hvalue : ∀ r, a.value r = b.value r := by
    intro r
    obtain ⟨kind, space, name, key⟩ := r
    cases kind with
    | configMap => simp only [value, read_congr (h .configMap)]
    | secret => simp only [value, read_congr (h .secret)]
  funext r
  rw [store, store, hvalue]

end Cluster

/-- Whether two looks have come to the same: the state and the directory, the requests that were
sent, and the result. -/
structure Reconciled.Same (x y : Reconciled) : Prop where
  state : x.state = y.state
  requests : x.requests = y.requests
  result : x.result = y.result

namespace Controller

variable {c : Controller} {a b cluster : Cluster} {cancel : Cancellation} {i : Interruption}
  {s : ControllerState}

/-- **The records of a kind that a selector selects** are those of the selected objects, provided
that all objects can be read. -/
lemma select_eq {σ τ : Type} {kind : RecordKind} {spec : Format σ} {status : Format τ}
    {format : Format (Record σ τ)} {space : String} {selector : Selector}
    (hf : format = Record.format kind spec status)
    (h : ∀ o, kind.isRecord o = (format.read o).isSome) :
    select cluster space kind format selector =
      if cluster.readable kind space then
        .ok ((cluster.selected kind space selector).filterMap format.read)
      else .error (.records kind) := by
  rw [select, Cluster.readAll_eq, Cluster.readable, Cluster.selected]
  cases cluster.listing kind.objectKind space with
  | none => rfl
  | some l =>
    have hall : l.all kind.isRecord = l.all (fun o => (format.read o).isSome) := by
      simp only [funext h]
    -- whether a record is selected can be told from its object, before it is read
    have hselect : (l.filterMap format.read).filter
        (fun r => selector.selects r.metadata.allLabels) =
        (l.filter selector.selectsObject).filterMap format.read := by
      rw [List.filter_filterMap, List.filterMap_filter]
      refine List.filterMap_congr fun o _ => ?_
      cases hread : format.read o with
      | none => simp
      | some r =>
        rw [hf] at hread
        rw [Option.filter_some, Record.selects_of_read hread]
    rw [Option.bind_some, mapM_eq_filterMap, Option.any_some, Option.getD_some, hall]
    cases l.all (fun o => (format.read o).isSome) with
    | false => rfl
    | true => simp only [if_true, hselect]

/-- The instance that a controller finds. -/
def foundInstance (c : Controller) (cluster : Cluster) : Except ReadFault InstanceRecord :=
  cluster.read RecordKind.proxyInstance.objectKind c.space c.name Record.instances.read

/-- The first kind of records that cannot be listed and read. -/
def unreadable? (c : Controller) (cluster : Cluster) : Option RecordKind :=
  RecordKind.listed.find? (fun kind => !cluster.readable kind c.space)

/-- The records of the objects that a selector matches, of those that are records. -/
def selectedRecords (c : Controller) (cluster : Cluster) (selector : Selector) : Records :=
  ⟨(cluster.selected .listen c.space selector).filterMap Record.listens.read,
    (cluster.selected .frontend c.space selector).filterMap Record.frontends.read,
    (cluster.selected .backend c.space selector).filterMap Record.backends.read,
    (cluster.selected .resolver c.space selector).filterMap Record.resolvers.read⟩

/-- **What a controller reads**: the instance, and the selected records unless a kind cannot be
read. -/
lemma fetch_eq : c.fetch cluster =
    match c.foundInstance cluster with
    | .error _ => .error (.proxyInstance c.space c.name)
    | .ok i =>
      match c.unreadable? cluster with
      | some kind => .error (.records kind)
      | none => .ok (i, c.selectedRecords cluster i.spec.configuration.selector) := by
  rw [fetch, ← foundInstance]
  cases c.foundInstance cluster with
  | error fault => rfl
  | ok i =>
    simp only [select_eq (rfl : Record.listens = _) fun _ => rfl,
      select_eq (rfl : Record.frontends = _) fun _ => rfl,
      select_eq (rfl : Record.backends = _) fun _ => rfl,
      select_eq (rfl : Record.resolvers = _) fun _ => rfl, unreadable?, RecordKind.listed,
      List.find?_cons, List.find?_nil]
    -- the kinds are read in order, and the first one that fails decides
    cases cluster.readable .listen c.space with
    | false => rfl
    | true =>
      cases cluster.readable .frontend c.space with
      | false => rfl
      | true =>
        cases cluster.readable .backend c.space with
        | false => rfl
        | true => cases cluster.readable .resolver c.space <;> rfl

/-! ## Two clusters -/

/-- Two clusters that are the same to an instance: they hold the same object of the instance, the
same config maps and secrets, and the same objects that the instance selects, in the same order. -/
structure Agree (c : Controller) (a b : Cluster) : Prop where
  proxyInstance : a.read RecordKind.proxyInstance.objectKind c.space c.name some =
    b.read RecordKind.proxyInstance.objectKind c.space c.name some
  values : ∀ (kind : StoreKind) space,
    a.list kind.objectKind.name space = b.list kind.objectKind.name space
  records : ∀ i, c.foundInstance a = .ok i → ∀ kind ∈ RecordKind.listed,
    a.selected kind c.space i.spec.configuration.selector =
      b.selected kind c.space i.spec.configuration.selector

/-- Whether all objects that the instance does not select are records of their kinds. -/
def OthersReadable (c : Controller) (cluster : Cluster) : Prop :=
  ∀ i, c.foundInstance cluster = .ok i → ∀ kind ∈ RecordKind.listed,
    ∀ o ∈ (cluster.listing kind.objectKind c.space).getD [],
      i.spec.configuration.selector.selectsObject o = false → kind.isRecord o = true

lemma Agree.foundInstance_eq (h : c.Agree a b) : c.foundInstance a = c.foundInstance b := by
  rw [foundInstance, foundInstance, Cluster.read_eq_bind, h.proxyInstance, ← Cluster.read_eq_bind]

lemma Agree.selectedRecords_eq (h : c.Agree a b) {record : InstanceRecord}
    (hi : c.foundInstance a = .ok record) :
    c.selectedRecords a record.spec.configuration.selector =
      c.selectedRecords b record.spec.configuration.selector := by
  obtain ⟨hl, hf, hb, hr⟩ := RecordKind.forall_listed_iff.1 (h.records record hi)
  rw [selectedRecords, selectedRecords, hl, hf, hb, hr]

/-- **Agreeing clusters are read alike** when they fail on the same kind, or on none. -/
lemma Agree.fetch_eq (h : c.Agree a b)
    (hkind : ∀ record, c.foundInstance a = .ok record → c.unreadable? a = c.unreadable? b) :
    c.fetch a = c.fetch b := by
  rw [Controller.fetch_eq, Controller.fetch_eq, ← h.foundInstance_eq]
  cases hi : c.foundInstance a with
  | error fault => rfl
  | ok record => simp only [hkind record hi, h.selectedRecords_eq hi]

/-- When no other object stands in the way, a kind can be read if its selected objects can. -/
lemma readable_of_others (h : c.OthersReadable cluster) {record : InstanceRecord}
    (hi : c.foundInstance cluster = .ok record) {kind : RecordKind}
    (hkind : kind ∈ RecordKind.listed) :
    cluster.readable kind c.space = ((cluster.listing kind.objectKind c.space).isSome &&
      (cluster.selected kind c.space record.spec.configuration.selector).all kind.isRecord) := by
  have hothers := h record hi kind hkind
  rw [Cluster.readable, Cluster.selected]
  cases hl : cluster.listing kind.objectKind c.space with
  | none => rfl
  | some l =>
    rw [hl, Option.getD_some] at hothers
    rw [Option.any_some, Option.isSome_some, Bool.true_and, Option.getD_some, Bool.eq_iff_iff,
      List.all_eq_true, List.all_eq_true]
    constructor
    · exact fun hall o ho => hall o (List.mem_filter.1 ho).1
    · intro hall o ho
      cases hs : record.spec.configuration.selector.selectsObject o with
      | false => exact hothers o ho hs
      | true => exact hall o (List.mem_filter.2 ⟨ho, hs⟩)

lemma othersReadable_of_unreadable?_eq_none (h : c.unreadable? cluster = none) :
    c.OthersReadable cluster := by
  intro record _ kind hkind o ho _
  have hreadable := List.find?_eq_none.1 h kind hkind
  rw [Bool.not_eq_true, Bool.not_eq_false', Cluster.readable] at hreadable
  cases hl : cluster.listing kind.objectKind c.space with
  | none =>
    rw [hl] at ho
    cases ho
  | some l =>
    rw [hl] at ho hreadable
    exact List.all_eq_true.1 hreadable o ho

lemma Agree.unreadable?_eq (h : c.Agree a b) (ha : c.OthersReadable a) (hb : c.OthersReadable b)
    {record : InstanceRecord} (hi : c.foundInstance a = .ok record) :
    c.unreadable? a = c.unreadable? b := by
  have hi' : c.foundInstance b = .ok record := h.foundInstance_eq ▸ hi
  refine List.find?_congr fun kind hkind => ?_
  rw [readable_of_others ha hi hkind, readable_of_others hb hi' hkind,
    h.records record hi kind hkind, Cluster.isSome_listing a b]

/-! ## Looks at two clusters -/

/-- What is sent to a cluster does not depend on what it holds. -/
lemma request_sink (c : Controller) (a b : Cluster) (w : StatusWrite) :
    (c.sink a w).request = (c.sink b w).request := by
  have hreport : (a.report w).request = (b.report w).request := by
    rw [Cluster.report, Cluster.report]
    cases w.request? <;> rfl
  rw [sink, sink]
  cases c.reports with
  | false => rfl
  | true => exact hreport

/-- **Looks come to the same** when they read the same records and the same values. -/
lemma look_congr (hfetch : c.fetch a = c.fetch b) (hstore : a.store = b.store) {p q : StatusSink}
    (hsink : ∀ w, (p w).request = (q w).request) :
    (c.look a p cancel i s).Same (c.look b q cancel i s) := by
  have hrequests : ∀ l : List StatusWrite,
      (l.map p).filterMap (·.request) = (l.map q).filterMap (·.request) := by
    intro l
    rw [List.filterMap_map, List.filterMap_map]
    exact List.filterMap_congr fun w _ => hsink w
  rw [look, look, hfetch, hstore]
  cases c.fetch b with
  | error fault => exact ⟨rfl, rfl, rfl⟩
  | ok fetched =>
    obtain ⟨record, records⟩ := fetched
    simp only
    cases (Pass.run b.store cancel record records).result with
    | error fault => exact ⟨rfl, hrequests _, rfl⟩
    | ok set => exact ⟨rfl, hrequests _, rfl⟩

lemma synthesized_of_run {l : Look} {record : InstanceRecord} {records : Records}
    {set : ArtifactSet} (hfetch : c.fetch l.cluster = .ok (record, records))
    (hrun : (Pass.run l.cluster.store l.cancel record records).result = .ok set) :
    c.synthesized l = some set := by
  simp only [synthesized, hfetch, hrun, Except.toOption]

/-- Only a list that cannot be read makes a look fail on a kind of records. -/
lemma reconcile_eq_records_iff {kind : RecordKind} :
    (c.reconcile cluster cancel i s).result = .error (.records kind) ↔
      c.fetch cluster = .error (.records kind) := by
  rw [reconcile, look]
  cases c.fetch cluster with
  | error fault => simp
  | ok fetched =>
    obtain ⟨record, records⟩ := fetched
    simp only
    cases (Pass.run cluster.store cancel record records).result with
    | error fault => simp
    | ok set =>
      simp only [publish]
      split
      · simp
      · split <;> simp

lemma fetch_eq_records_iff {record : InstanceRecord} (hi : c.foundInstance cluster = .ok record)
    {kind : RecordKind} :
    c.fetch cluster = .error (.records kind) ↔ c.unreadable? cluster = some kind := by
  rw [fetch_eq, hi]
  cases c.unreadable? cluster <;> simp

lemma Agree.reconcile_same (h : c.Agree a b)
    (hkind : ∀ record, c.foundInstance a = .ok record → c.unreadable? a = c.unreadable? b) :
    (c.reconcile a cancel i s).Same (c.reconcile b cancel i s) :=
  look_congr (h.fetch_eq hkind) (Cluster.store_congr h.values) (request_sink c a b)

/-- **What an instance does not select has one way to matter.**  Two looks at clusters that agree on
everything that concerns the instance come to the same, whatever else the clusters hold, exactly
when the same kind of records, or none, is the first one with an object that cannot be read.  So
they do when all objects that are not selected are records of their kinds. -/
theorem reconcile_same_iff (c : Controller) {a b : Cluster} (h : c.Agree a b)
    (cancel : Cancellation) (i : Interruption) (s : ControllerState) :
    ((c.reconcile a cancel i s).Same (c.reconcile b cancel i s) ↔
      ∀ record, c.foundInstance a = .ok record → c.unreadable? a = c.unreadable? b) ∧
    (c.OthersReadable a → c.OthersReadable b →
      (c.reconcile a cancel i s).Same (c.reconcile b cancel i s)) := by
  refine ⟨⟨fun hlooks record hi => ?_, h.reconcile_same⟩, fun ha hb =>
    h.reconcile_same fun record hi => h.unreadable?_eq ha hb hi⟩
  have hi' : c.foundInstance b = .ok record := h.foundInstance_eq ▸ hi
  -- the result of a look tells the first unreadable kind
  refine Option.ext fun kind => ?_
  rw [← fetch_eq_records_iff hi, ← fetch_eq_records_iff hi', ← reconcile_eq_records_iff,
    ← reconcile_eq_records_iff, hlooks.result]

/-- Two looks at clusters that agree, neither of which is stopped by an object of others. -/
structure Alike (c : Controller) (l m : Look) : Prop where
  agree : c.Agree l.cluster m.cluster
  left : c.OthersReadable l.cluster
  right : c.OthersReadable m.cluster
  cancel : l.cancel = m.cancel
  interruption : l.interruption = m.interruption

/-- Nor do objects of others matter in the long run: looks that are alike one by one leave the same
state and the same directory. -/
theorem afterAll_eq_of_alike {looks others : List Look} (h : List.Forall₂ c.Alike looks others)
    (s : ControllerState) : c.afterAll s looks = c.afterAll s others := by
  induction h generalizing s with
  | nil => rfl
  | @cons l m rest others hlook _ ih =>
    have hstate : c.after s l = c.after s m := by
      rw [after, after, looked, looked, hlook.cancel, hlook.interruption]
      exact (hlook.agree.reconcile_same fun _ hi =>
        hlook.agree.unreadable?_eq hlook.left hlook.right hi).state
    rw [afterAll_cons, afterAll_cons, hstate]
    exact ih _

/-! ## A fleet beside another one -/

/-- An instance that selects the records of a shop. -/
def shopInstance : InstanceRecord :=
  .plain (some "edge") "fleet"
    { Spec.Instance.none with
      configuration :=
        { Spec.Instance.none.configuration with
          selector := .ofLabels (KeyMap.empty.insert "app" "shop") } }

/-- A cluster with this instance and other objects. -/
def shopCluster (others : List Json) : Cluster := ⟨Record.instances.write shopInstance :: others⟩

/-- The object of a frontend that belongs to a blog, with a timeout as it was written. -/
def blogFrontend (timeout : String) : Json :=
  .object [("kind", .text RecordKind.frontend.name),
    ("metadata", .object [("name", .text "blog"), ("namespace", .text "edge"),
      ("labels", .object [("app", .text "blog")])]),
    ("spec", .object [("timeouts", .object [("client", .text timeout)]), ("binds", .list []),
      ("defaultBackend", .object [("name", .text "")])])]

/-- Lists of records in the namespace of the shop hold just the objects of that namespace. -/
lemma listing_edge (cluster : Cluster) {kind : RecordKind} (h : kind ∈ RecordKind.listed) :
    cluster.listing kind.objectKind edge.space = some (cluster.list kind.name edge.space) := by
  have hspace : '/' ∉ edge.space.toList := by decide
  revert h kind
  rw [RecordKind.forall_listed_iff]
  refine ⟨?_, ?_, ?_, ?_⟩ <;> exact Cluster.listing_eq_list hspace (by decide +kernel)

lemma unreadable?_edge (cluster : Cluster) : edge.unreadable? cluster =
    RecordKind.listed.find?
      (fun kind => !(cluster.list kind.name edge.space).all kind.isRecord) := by
  refine List.find?_congr fun kind hkind => ?_
  rw [Cluster.readable, listing_edge cluster hkind, Option.any_some]

lemma foundInstance_shopCluster (others : List Json) :
    edge.foundInstance (shopCluster others) = .ok shopInstance := by cbv

lemma unreadable?_shopCluster_nil : edge.unreadable? (shopCluster []) = none := by
  rw [unreadable?_edge]
  cbv

lemma fetch_shopCluster_nil :
    edge.fetch (shopCluster []) = .ok (shopInstance, ⟨[], [], [], []⟩) := by
  have hrecords : edge.selectedRecords (shopCluster []) shopInstance.spec.configuration.selector =
      ⟨[], [], [], []⟩ := by
    obtain ⟨hl, hf, hb, hr⟩ :=
      RecordKind.forall_listed_iff.1 fun _ hkind => listing_edge (shopCluster []) hkind
    simp only [selectedRecords, Cluster.selected, hl, hf, hb, hr]
    cbv
  rw [fetch_eq, foundInstance_shopCluster, unreadable?_shopCluster_nil]
  simp only [hrecords]

lemma agree_blogFrontend (timeout : String) :
    edge.Agree (shopCluster []) (shopCluster [blogFrontend timeout]) := by
  constructor
  · cbv
  · intro kind space
    cases kind <;> rfl
  · intro record hi kind hkind
    rw [foundInstance_shopCluster] at hi
    cases hi
    rw [Cluster.selected, Cluster.selected, listing_edge _ hkind, listing_edge _ hkind]
    revert kind
    rw [RecordKind.forall_listed_iff]
    refine ⟨?_, ?_, ?_, ?_⟩ <;> cbv

/-- A frontend of another fleet makes no difference when it can be read. -/
theorem reconcile_same_iff_blog_frontend :
    edge.Agree (shopCluster []) (shopCluster [blogFrontend "5s"]) ∧
      edge.OthersReadable (shopCluster []) ∧ edge.OthersReadable (shopCluster [blogFrontend "5s"]) ∧
      (edge.reconcile (shopCluster []) .never .never fresh).Same
        (edge.reconcile (shopCluster [blogFrontend "5s"]) .never .never fresh) := by
  have hblog : edge.unreadable? (shopCluster [blogFrontend "5s"]) = none := by
    rw [unreadable?_edge]
    decide +kernel
  have hagree := agree_blogFrontend "5s"
  have ha := othersReadable_of_unreadable?_eq_none unreadable?_shopCluster_nil
  have hb := othersReadable_of_unreadable?_eq_none hblog
  exact ⟨hagree, ha, hb, (reconcile_same_iff edge hagree .never .never fresh).2 ha hb⟩

/-- The artifact set of an instance with nothing declared and no records. -/
def bareSet : ArtifactSet := ⟨"global\n\ndefaults\n", .empty⟩

lemma result_shopInstance (store : Store) :
    (Pass.run store .never shopInstance ⟨[], [], [], []⟩).result = .ok bareSet := by cbv

/-- **One frontend of another fleet stops every look.**  Days are no unit of time, so a frontend of
the blog with a timeout in days cannot be read, and the look for the shop fails on it. -/
theorem unselected_frontend_stops_look :
    edge.Agree (shopCluster []) (shopCluster [blogFrontend "5d"]) ∧
      (edge.reconcile (shopCluster []) .never .never fresh).result = .ok () ∧
      (edge.reconcile (shopCluster [blogFrontend "5d"]) .never .never fresh).result =
        .error (.records .frontend) := by
  have hset : edge.synthesized ⟨shopCluster [], .never, .never⟩ = some bareSet :=
    synthesized_of_run fetch_shopCluster_nil (result_shopInstance _)
  have hnew : fresh.written ≠ some bareSet.fingerprint := nofun
  have hwrite : (edge.writing fresh ⟨shopCluster [], .never, .never⟩ bareSet).result = .ok () :=
    Check.eq_ok_of_isOk (by decide +kernel)
  have hblog : edge.unreadable? (shopCluster [blogFrontend "5d"]) = some .frontend := by
    rw [unreadable?_edge]
    cbv
  have hfetch := (fetch_eq_records_iff (foundInstance_shopCluster _)).2 hblog
  exact ⟨agree_blogFrontend "5d", (looked_written hset hnew hwrite).2.2,
    reconcile_eq_records_iff.2 hfetch⟩

end Controller

end ProxyFleet
