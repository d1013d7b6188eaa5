import ProxyFleet.Proofs.Selection

/-!
# Clusters after reports

A status that was reported stands in an object of the cluster, and the next look reads that object
again.

**Objects.**  Objects that differ in their statuses at most (`Json.SameButStatus`) are listed and
selected alike, and read as records that differ in their statuses at most
(`Json.ignoresStatus_read`).

**Reported statuses.**  Merging a status into the object of a record gives such an object again
(`StatusWrite.Merges.sameButStatus`), since what a report writes can be read.

**Clusters.**  What ignores statuses is the same along the lists of two clusters of such objects
(`Cluster.SameButStatuses.map_list`).  So they hold the same values
(`Cluster.SameButStatuses.store_eq`), and a controller reads the same records from them but for
statuses (`Controller.map_fetch`).
-/

namespace ProxyFleet

/-- A record on which no status has been reported. -/
def Record.unreported {σ τ : Type} (r : Record σ τ) : Record σ τ := ⟨r.metadata, r.spec, none⟩

/-- Records on which no statuses have been reported. -/
def Records.unreported (r : Records) : Records :=
  ⟨r.listens.map Record.unreported, r.frontends.map Record.unreported,
    r.backends.map Record.unreported, r.resolvers.map Record.unreported⟩

/-! ## Objects -/

lemma RecordKind.name_injective : Function.Injective name := by
  intro a b h
  cases a <;> cases b <;> first | rfl | exact absurd h (by decide)

/-- Members of two objects that differ in their statuses at most, and in what the cluster keeps in
the metadata for itself. -/
structure Json.SameElse (members others : List (String × Json)) : Prop where
  metadata : ∃ inner inner', members.lookup "metadata" = some (.object inner) ∧
    others.lookup "metadata" = some (.object inner') ∧
    ∀ key ∈ Metadata.schema.keys, inner.lookup key = inner'.lookup key
  other : ∀ key, key ≠ "metadata" → key ≠ "status" → members.lookup key = others.lookup key

/-- A status may be added. -/
lemma Json.SameElse.append_status {members : List (String × Json)}
    (h : ∃ inner, members.lookup "metadata" = some (.object inner)) (status : Json) :
    SameElse members (members ++ [("status", status)]) := by
  obtain ⟨inner, hinner⟩ := h
  refine ⟨⟨inner, inner, hinner, ?_, fun _ _ => rfl⟩, fun key _ hkey => ?_⟩
  · rw [List.lookup_append, hinner, Option.some_or]
  · have hnone : [("status", status)].lookup key = none := by simp [hkey]
    rw [List.lookup_append, hnone, Option.or_none]

/-- Two objects that are the same, or that are of one kind of record and differ in their statuses at
most.  Either both of them can be read then, or none. -/
inductive Json.SameButStatus : Json → Json → Prop
  | refl (o : Json) : SameButStatus o o
  | record (kind : RecordKind) {members others : List (String × Json)}
    (hkind : members.lookup "kind" = some (.text kind.name)) (helse : SameElse members others)
    (hrecord : kind.isRecord (.object members) = kind.isRecord (.object others)) :
    SameButStatus (.object members) (.object others)

lemma Cluster.eq_of_isOf {kind space name : String} {members : List (String × Json)}
    (h : isOf kind space (.object members) = true)
    (hname : members.lookup "kind" = some (.text name)) : name = kind := by
  simpa [Json.member?, hname, Json.text?] using (Bool.and_eq_true_iff.1 h).1

/-- Metadata are read from their own members alone. -/
lemma Metadata.read_congr {members others : List (String × Json)}
    (h : ∀ key ∈ schema.keys, members.lookup key = others.lookup key) :
    schema.read members = schema.read others := by
  have homitted : ∀ {α : Type} (key : String) (format : Format α) (get : Metadata → Option α),
      key ∈ schema.keys → (Schema.omitted key format get).read members =
        (Schema.omitted key format get).read others := by
    intro α key format get hkey
    rw [Schema.omitted]
    dsimp only
    rw [Schema.readOptional, Schema.readOptional, h key hkey]
  refine Option.ext fun m => ?_
  simp only [schema, Schema.read_seq_eq_some_iff, Schema.read_map_eq_some_iff]
  simp (disch := decide) only [homitted]

/-- Of the members that make a record only the status may differ. -/
lemma Json.SameElse.read_metadata_eq {members others : List (String × Json)}
    (h : SameElse members others) : (members.lookup "metadata").bind Metadata.schema.format.read =
      (others.lookup "metadata").bind Metadata.schema.format.read := by
  obtain ⟨inner, inner', hinner, hinner', hkeys⟩ := h.metadata
  rw [hinner, hinner']
  exact Metadata.read_congr hkeys

namespace Record

variable {σ τ : Type} {kind : RecordKind} {spec : Format σ} {status : Format τ}
  {members others : List (String × Json)}

/-- A record is read member by member. -/
lemma read_object_eq_some_iff {r : Record σ τ} :
    (format kind spec status).read (.object members) = some r ↔
      (members.lookup "metadata").bind Metadata.schema.format.read = some r.metadata ∧
      (members.lookup "spec").bind spec.read = some r.spec ∧
      Schema.readOptional "status" status members = some r.status := by
  simp only [format, Schema.format_read_eq_some_iff, Schema.read_seq_eq_some_iff,
    Schema.read_map_eq_some_iff]
  constructor
  · rintro ⟨_, hobject, _, ⟨_, ⟨m, hm, rfl⟩, given, hgiven, rfl⟩, reported, hreported, rfl⟩
    cases hobject
    exact ⟨hm, hgiven, hreported⟩
  · rintro ⟨hm, hgiven, hreported⟩
    exact ⟨members, rfl, _, ⟨_, ⟨r.metadata, hm, rfl⟩, r.spec, hgiven, rfl⟩, r.status, hreported,
      rfl⟩

/-- Records that are read from the same members but the status are the same but for it. -/
lemma map_read_congr (h : Json.SameElse members others)
    (hrecord : ((format kind spec status).read (.object members)).isSome =
      ((format kind spec status).read (.object others)).isSome) :
    ((format kind spec status).read (.object members)).map unreported =
      ((format kind spec status).read (.object others)).map unreported := by
  cases hr : (format kind spec status).read (.object members) with
  | none =>
    rw [hr, Option.isSome_none] at hrecord
    rw [Option.isNone_iff_eq_none.1 (Option.isSome_eq_false_iff.1 hrecord.symm)]
  | some r =>
    rw [hr, Option.isSome_some] at hrecord
    obtain ⟨r', hr'⟩ := Option.isSome_iff_exists.1 hrecord.symm
    obtain ⟨hm, hgiven, -⟩ := read_object_eq_some_iff.1 hr
    obtain ⟨hm', hgiven', -⟩ := read_object_eq_some_iff.1 hr'
    rw [h.read_metadata_eq, hm'] at hm
    rw [h.other "spec" (by decide) (by decide), hgiven'] at hgiven
    rw [hr', Option.map_some, Option.map_some, unreported, unreported, Option.some.inj hm,
      Option.some.inj hgiven]

/-- A record whose status becomes another one that can be read is a record still. -/
lemma isSome_read_of_status (h : Json.SameElse members others)
    (hread : ((format kind spec status).read (.object members)).isSome = true)
    (hstatus : (Schema.readOptional "status" status others).isSome = true) :
    ((format kind spec status).read (.object others)).isSome = true := by
  obtain ⟨r, hr⟩ := Option.isSome_iff_exists.1 hread
  obtain ⟨reported, hreported⟩ := Option.isSome_iff_exists.1 hstatus
  obtain ⟨hm, hgiven, -⟩ := read_object_eq_some_iff.1 hr
  rw [h.read_metadata_eq] at hm
  rw [h.other "spec" (by decide) (by decide)] at hgiven
  exact Option.isSome_iff_exists.2
    ⟨⟨r.metadata, r.spec, reported⟩, read_object_eq_some_iff.2 ⟨hm, hgiven, hreported⟩⟩

end Record

namespace Json.SameButStatus

variable {a b : Json}

lemma kind_eq (h : SameButStatus a b) : a.member? "kind" = b.member? "kind" := by
  cases h with
  | refl => rfl
  | record _ _ helse => exact helse.other "kind" (by decide) (by decide)

lemma metadataText_eq (h : SameButStatus a b) {key : String} (hkey : key ∈ Metadata.schema.keys) :
    Cluster.metadataText key a = Cluster.metadataText key b := by
  cases h with
  | refl => rfl
  | record _ _ helse =>
    obtain ⟨inner, inner', hinner, hinner', hkeys⟩ := helse.metadata
    simp [Cluster.metadataText, member?, hinner, hinner', hkeys key hkey]

lemma isOf_eq (h : SameButStatus a b) (kind space : String) :
    Cluster.isOf kind space a = Cluster.isOf kind space b := by
  rw [Cluster.isOf, Cluster.isOf, h.kind_eq, h.metadataText_eq (by decide)]

lemma selectsObject_eq (h : SameButStatus a b) (s : Selector) :
    s.selectsObject a = s.selectsObject b := by
  cases h with
  | refl => rfl
  | record _ _ helse =>
    obtain ⟨inner, inner', hinner, hinner', hkeys⟩ := helse.metadata
    simp only [Selector.selectsObject, labels?, member?, hinner, hinner', Schema.readOptional,
      hkeys "labels" (by decide)]

end Json.SameButStatus

namespace Json

/-- Whether what is made of the objects of a kind does not depend on their statuses. -/
def IgnoresStatus {α : Type} (kind : String) (f : Json → α) : Prop :=
  ∀ ⦃a b space⦄, SameButStatus a b → Cluster.isOf kind space a = true → f a = f b

lemma ignoresStatus_isRecord (kind : RecordKind) : IgnoresStatus kind.name kind.isRecord := by
  intro a b space h ha
  cases h with
  | refl => rfl
  | record kind' hkind _ hrecord =>
    rwa [RecordKind.name_injective (Cluster.eq_of_isOf ha hkind)] at hrecord

/-- **Objects that differ in their statuses are read as records that do.** -/
lemma ignoresStatus_read {σ τ : Type} {kind : RecordKind} {spec : Format σ} {status : Format τ}
    {format : Format (Record σ τ)} (hf : format = Record.format kind spec status)
    (hread : ∀ o, kind.isRecord o = (format.read o).isSome) :
    IgnoresStatus kind.name (fun o => (format.read o).map Record.unreported) := by
  intro a b space h ha
  have hrecord := ignoresStatus_isRecord kind h ha
  cases h with
  | refl => rfl
  | record _ _ helse =>
    rw [hread, hread, hf] at hrecord
    rw [hf]
    exact Record.map_read_congr helse hrecord

/-- No config map and no secret is a record, so that they are the same altogether. -/
lemma ignoresStatus_id (kind : StoreKind) : IgnoresStatus kind.objectKind.name id := by
  intro a b space h ha
  cases h with
  | refl => rfl
  | record kind' hkind =>
    have hname := Cluster.eq_of_isOf ha hkind
    cases kind' <;> cases kind <;> exact absurd hname (by decide)

end Json

/-! ## Reported statuses -/

/-- What a cluster makes of the members of an object when it merges a status into it.  The phase and
the message become those of the status, and an earlier message is taken away where there is none;
whatever else the status has stays as it is. -/
structure StatusWrite.Merges (w : StatusWrite) (members merged : List (String × Json)) : Prop where
  sameElse : Json.SameElse members merged
  status : ∃ inner, merged.lookup "status" = some (.object inner) ∧
    inner.lookup "phase" = some (w.phase.json w.record.kind) ∧
    inner.lookup "error" = (if w.message.isEmpty then none else some (.text w.message)) ∧
    ∀ key, key ≠ "phase" → key ≠ "error" →
      inner.lookup key = (members.lookup "status").bind (·.member? key)

/-- A phase that is written for an instance can be read. -/
lemma InstancePhase.read_json (p : Phase) :
    ∃ phase, InstancePhase.format.read (p.json .proxyInstance) = some phase := by
  cases p with
  | active => exact ⟨.running, rfl⟩
  | error => exact ⟨.error, rfl⟩

/-- So can one that is written for a section. -/
lemma SectionPhase.read_json {kind : RecordKind} (h : kind ≠ .proxyInstance) (p : Phase) :
    ∃ phase, SectionPhase.format.read (p.json kind) = some phase := by
  have hread : ∃ phase, SectionPhase.format.read (p.json .listen) = some phase := by
    cases p with
    | active => exact ⟨.active, rfl⟩
    | error => exact ⟨.error, rfl⟩
  cases kind with
  | proxyInstance => exact absurd rfl h
  | _ => exact hread

/-- A status of an instance is read from a phase and a message. -/
lemma InstanceStatus.isSome_read {members : List (String × Json)} {phase : InstancePhase}
    {message : String}
    (hphase : (members.lookup "phase").bind InstancePhase.format.read = some phase)
    (herror : Schema.readDefaulted "error" Format.text "" members = some message) :
    (schema.read members).isSome = true := by
  refine Option.isSome_iff_exists.2 ⟨⟨phase, message⟩, ?_⟩
  simp only [schema, Schema.read_seq_eq_some_iff, Schema.read_map_eq_some_iff]
  exact ⟨_, ⟨phase, hphase, rfl⟩, message, herror, rfl⟩

/-- A status of a section is read from a phase, a generation and a message. -/
lemma SectionStatus.read_eq_some_iff {members : List (String × Json)} {status : SectionStatus} :
    schema.read members = some status ↔
      (members.lookup "phase").bind SectionPhase.format.read = some status.phase ∧
      Schema.readDefaulted "observedGeneration" Format.int64 0 members =
        some status.observedGeneration ∧
      Schema.readDefaulted "error" Format.text "" members = some status.error := by
  simp only [schema, Schema.read_seq_eq_some_iff, Schema.read_map_eq_some_iff]
  constructor
  · rintro ⟨_, ⟨_, ⟨phase, hphase, rfl⟩, generation, hgeneration, rfl⟩, message, herror, rfl⟩
    exact ⟨hphase, hgeneration, herror⟩
  · rintro ⟨hphase, hgeneration, herror⟩
    exact ⟨_, ⟨_, ⟨_, hphase, rfl⟩, _, hgeneration, rfl⟩, _, herror, rfl⟩

/-- The generation of a status that can be read, or that is not there, can be read. -/
lemma SectionStatus.exists_generation {members inner : List (String × Json)}
    {reported : Option SectionStatus}
    (hread : Schema.readOptional "status" schema.format members = some reported)
    (hinner : inner.lookup "observedGeneration" =
      (members.lookup "status").bind (·.member? "observedGeneration")) :
    ∃ generation, Schema.readDefaulted "observedGeneration" Format.int64 0 inner =
      some generation := by
  rw [Schema.readDefaulted, hinner]
  rw [Schema.readOptional] at hread
  split at hread
  · rename_i hnone
    exact ⟨0, by rw [hnone]; rfl⟩
  · rename_i hnull
    exact ⟨0, by rw [hnull]; rfl⟩
  · rename_i json _ hjson
    obtain ⟨status, hstatus, -⟩ := Option.map_eq_some_iff.1 hread
    obtain ⟨old, rfl, hold⟩ := Schema.format_read_eq_some_iff.1 hstatus
    obtain ⟨-, hgeneration, -⟩ := SectionStatus.read_eq_some_iff.1 hold
    rw [hjson]
    exact ⟨_, hgeneration⟩

namespace StatusWrite.Merges

variable {w : StatusWrite} {members merged : List (String × Json)}

/-- The message that has been merged can be read. -/
lemma exists_inner (h : w.Merges members merged) : ∃ inner message,
    merged.lookup "status" = some (.object inner) ∧
      inner.lookup "phase" = some (w.phase.json w.record.kind) ∧
      inner.lookup "observedGeneration" =
        (members.lookup "status").bind (·.member? "observedGeneration") ∧
      Schema.readDefaulted "error" Format.text "" inner = some message := by
  obtain ⟨inner, hinner, hphase, herror, hother⟩ := h.status
  have hmessage : ∃ message, Schema.readDefaulted "error" Format.text "" inner = some message := by
    rw [Schema.readDefaulted, herror]
    cases w.message.isEmpty with
    | false => exact ⟨_, rfl⟩
    | true => exact ⟨_, rfl⟩
  obtain ⟨message, hmessage⟩ := hmessage
  exact ⟨inner, message, hinner, hphase, hother _ (by decide) (by decide), hmessage⟩

variable {σ : Type} (spec : Format σ)

lemma isSome_read_instance (h : w.Merges members merged) (hkind : w.record.kind = .proxyInstance)
    (hread : ((Record.format w.record.kind spec InstanceStatus.schema.format).read
      (.object members)).isSome = true) :
    ((Record.format w.record.kind spec InstanceStatus.schema.format).read
      (.object merged)).isSome = true := by
  refine Record.isSome_read_of_status h.sameElse hread ?_
  obtain ⟨inner, message, hinner, hphase, -, hmessage⟩ := h.exists_inner
  obtain ⟨phase, hjson⟩ := InstancePhase.read_json w.phase
  have hphase' : (inner.lookup "phase").bind InstancePhase.format.read = some phase := by
    rw [hphase, hkind]
    exact hjson
  rw [Schema.readOptional, hinner]
  exact Option.isSome_map.trans (InstanceStatus.isSome_read hphase' hmessage)

lemma isSome_read_section (h : w.Merges members merged) (hkind : w.record.kind ≠ .proxyInstance)
    (hread : ((Record.format w.record.kind spec SectionStatus.schema.format).read
      (.object members)).isSome = true) :
    ((Record.format w.record.kind spec SectionStatus.schema.format).read
      (.object merged)).isSome = true := by
  refine Record.isSome_read_of_status h.sameElse hread ?_
  obtain ⟨inner, message, hinner, hphase, hgeneration, hmessage⟩ := h.exists_inner
  obtain ⟨phase, hjson⟩ := SectionPhase.read_json hkind w.phase
  have hphase' : (inner.lookup "phase").bind SectionPhase.format.read = some phase := by
    rw [hphase]
    exact hjson
  -- the generation is that of the status from before, which could be read
  obtain ⟨r, hr⟩ := Option.isSome_iff_exists.1 hread
  obtain ⟨-, -, hreported⟩ := Record.read_object_eq_some_iff.1 hr
  obtain ⟨generation, hgeneration⟩ := SectionStatus.exists_generation hreported hgeneration
  rw [Schema.readOptional, hinner]
  have hstatus : SectionStatus.schema.read inner = some ⟨phase, generation, message⟩ :=
    SectionStatus.read_eq_some_iff.2 ⟨hphase', hgeneration, hmessage⟩
  exact Option.isSome_map.trans (Option.isSome_iff_exists.2 ⟨_, hstatus⟩)

/-- **A record stays a record** when a status is merged into it. -/
lemma isRecord (h : w.Merges members merged)
    (hrecord : w.record.kind.isRecord (.object members) = true) :
    w.record.kind.isRecord (.object merged) = true := by
  have hsection := fun {σ : Type} (spec : Format σ) => h.isSome_read_section spec
  have hinstance := h.isSome_read_instance Spec.Instance.schema.format
  cases hkind : w.record.kind with
  | proxyInstance =>
    rw [hkind] at hrecord hinstance
    exact hinstance rfl hrecord
  | listen | frontend | backend | resolver =>
    rw [hkind] at hrecord hsection
    exact hsection _ nofun hrecord

/-- **Reporting a status changes nothing but the status.** -/
lemma sameButStatus (h : w.Merges members merged)
    (hkind : members.lookup "kind" = some (.text w.record.kind.name))
    (hrecord : w.record.kind.isRecord (.object members) = true) :
    Json.SameButStatus (.object members) (.object merged) :=
  .record w.record.kind hkind h.sameElse (hrecord.trans (h.isRecord hrecord).symm)

end StatusWrite.Merges

/-! ## Clusters -/

/-- Two clusters whose objects differ in their statuses at most. -/
def Cluster.SameButStatuses (a b : Cluster) : Prop :=
  List.Forall₂ Json.SameButStatus a.objects b.objects

namespace Cluster.SameButStatuses

variable {a b : Cluster}

/-- **What ignores statuses is the same along both clusters.** -/
lemma map_list (h : SameButStatuses a b) {α : Type} {kind : String} {f : Json → α}
    (hf : Json.IgnoresStatus kind f) (space : String) :
    (a.list kind space).map f = (b.list kind space).map f := by
  rw [list, list]
  rw [SameButStatuses] at h
  generalize a.objects = l, b.objects = m at h
  induction h with
  | nil => rfl
  | @cons o p os ps hobject _ ih =>
    cases hof : isOf kind space o with
    | false =>
      have hof' : isOf kind space p = false := hobject.isOf_eq kind space ▸ hof
      rw [List.filter_cons_of_neg (by simp [hof]), List.filter_cons_of_neg (by simp [hof']), ih]
    | true =>
      have hof' : isOf kind space p = true := hobject.isOf_eq kind space ▸ hof
      rw [List.filter_cons_of_pos hof, List.filter_cons_of_pos hof', List.map_cons, List.map_cons,
        hf hobject hof, ih]

lemma store_eq (h : SameButStatuses a b) : a.store = b.store :=
  store_congr fun kind space => by simpa using h.map_list (Json.ignoresStatus_id kind) space

variable {kind : RecordKind} {space : String}

lemma map_listing (h : SameButStatuses a b) {α : Type} {f : Json → α}
    (hf : Json.IgnoresStatus kind.name f) (space : String) :
    (a.listing kind.objectKind space).map (·.map f) =
      (b.listing kind.objectKind space).map (·.map f) := by
  rw [listing, listing]
  cases Target.path? (kind.objectKind.collection space ++ "?") with
  | none => rfl
  | some path =>
    simp only [Option.bind_eq_bind, Option.bind_some]
    cases kind.objectKind.collectionAt? path with
    | none => rfl
    | some space' => exact congrArg some (h.map_list hf space')

lemma readable_eq (h : SameButStatuses a b) : a.readable kind space = b.readable kind space := by
  have hmap := h.map_listing (Json.ignoresStatus_isRecord kind) space
  have hall : ∀ c : Cluster, c.readable kind space =
      ((c.listing kind.objectKind space).map (·.map kind.isRecord)).any (·.all id) := by
    intro c
    rw [readable]
    cases c.listing kind.objectKind space with
    | none => rfl
    | some l => simp
  rw [hall, hall, hmap]

/-- The selected records of a kind are the same but for statuses. -/
lemma map_selected (h : SameButStatuses a b) {σ τ : Type} {spec : Format σ} {status : Format τ}
    {format : Format (Record σ τ)} (hf : format = Record.format kind spec status)
    (hread : ∀ o, kind.isRecord o = (format.read o).isSome) (s : Selector) :
    ((a.selected kind space s).filterMap format.read).map Record.unreported =
      ((b.selected kind space s).filterMap format.read).map Record.unreported := by
  let f o := if s.selectsObject o then (format.read o).map Record.unreported else none
  have hf' : Json.IgnoresStatus kind.name f := by
    intro o p space' hobject hof
    simp only [f, hobject.selectsObject_eq, Json.ignoresStatus_read hf hread hobject hof]
  have hselected : ∀ c : Cluster,
      ((c.selected kind space s).filterMap format.read).map Record.unreported =
        (((c.listing kind.objectKind space).map (·.map f)).getD []).filterMap id := by
    intro c
    rw [selected, List.map_filterMap, List.filterMap_filter]
    cases c.listing kind.objectKind space with
    | none => rfl
    | some l => simp [List.filterMap_map, f]
  rw [hselected, hselected, h.map_listing hf']

/-- So is what is found under a name. -/
lemma map_at? (h : SameButStatuses a b) {α : Type} {f : Json → α}
    (hf : Json.IgnoresStatus kind.name f) (path : String) :
    (a.at? kind.objectKind path).map f = (b.at? kind.objectKind path).map f := by
  rw [at?, at?]
  cases kind.objectKind.objectAt? path with
  | none => rfl
  | some place =>
    obtain ⟨space, name⟩ := place
    let named o := (metadataText "name" o, f o)
    have hnamed : Json.IgnoresStatus kind.objectKind.name named := by
      intro o p space' hobject hof
      have hname : "name" ∈ Metadata.schema.keys := by decide
      simp only [named, hobject.metadataText_eq hname, hf hobject hof]
    have hfind : ∀ c : Cluster, (c.find? kind.objectKind.name space name).map f =
        (((c.list kind.objectKind.name space).map named).find?
          (fun n => n.1 = some name)).map (·.2) := by
      intro c
      rw [find?, List.find?_map, Option.map_map]
      rfl
    rw [Option.bind_some, Option.bind_some, hfind, hfind, h.map_list hnamed space]

lemma map_read (h : SameButStatuses a b) {σ τ : Type} {spec : Format σ} {status : Format τ}
    {format : Format (Record σ τ)} (hf : format = Record.format kind spec status)
    (hread : ∀ o, kind.isRecord o = (format.read o).isSome) (space name : String) :
    (a.read kind.objectKind space name format.read).map Record.unreported =
      (b.read kind.objectKind space name format.read).map Record.unreported := by
  let f o := (format.read o).map Record.unreported
  have hread' : ∀ c : Cluster,
      (c.read kind.objectKind space name format.read).map Record.unreported =
        if name.isEmpty then .error .failed
        else (Target.path? (kind.objectKind.object space name)).elim (.error .failed) fun path =>
          ((c.at? kind.objectKind path).map f).elim (.error .absent)
            (·.elim (.error .failed) .ok) := by
    intro c
    rw [Cluster.read]
    split
    · rfl
    · cases Target.path? (kind.objectKind.object space name) with
      | none => rfl
      | some path =>
        rw [Option.elim_some]
        dsimp only
        cases c.at? kind.objectKind path with
        | none => rfl
        | some o =>
          rw [Option.map_some, Option.elim_some]
          cases hr : format.read o <;> simp [f, hr, Except.map]
  simp only [hread', f, h.map_at? (Json.ignoresStatus_read hf hread)]

end Cluster.SameButStatuses

namespace Controller

variable {c : Controller} {a b : Cluster}

lemma map_selectedRecords (h : a.SameButStatuses b) (selector : Selector) :
    (c.selectedRecords a selector).unreported = (c.selectedRecords b selector).unreported := by
  simp only [selectedRecords, Records.unreported,
    h.map_selected (rfl : Record.listens = _) fun _ => rfl,
    h.map_selected (rfl : Record.frontends = _) fun _ => rfl,
    h.map_selected (rfl : Record.backends = _) fun _ => rfl,
    h.map_selected (rfl : Record.resolvers = _) fun _ => rfl]

lemma unreadable?_eq_of_sameButStatuses (h : a.SameButStatuses b) :
    c.unreadable? a = c.unreadable? b := by
  rw [unreadable?, unreadable?]
  simp only [h.readable_eq]

/-- **What is read for a pass is the same but for statuses.** -/
lemma map_fetch (h : a.SameButStatuses b) :
    (c.fetch a).map (fun fetched => (fetched.1.unreported, fetched.2.unreported)) =
      (c.fetch b).map (fun fetched => (fetched.1.unreported, fetched.2.unreported)) := by
  have hfound : (c.foundInstance a).map Record.unreported =
      (c.foundInstance b).map Record.unreported :=
    h.map_read (rfl : Record.instances = _) (fun _ => rfl) c.space c.name
  rw [fetch_eq, fetch_eq, unreadable?_eq_of_sameButStatuses h]
  cases ha : c.foundInstance a with
  | error fault =>
    cases hb : c.foundInstance b with
    | error fault' => rfl
    | ok j => simp [ha, hb, Except.map] at hfound
  | ok i =>
    cases hb : c.foundInstance b with
    | error fault' => simp [ha, hb, Except.map] at hfound
    | ok j =>
      simp only [ha, hb, Except.map, Except.ok.injEq] at hfound
      have hspec : i.unreported.spec = j.unreported.spec := congrArg Record.spec hfound
      change i.spec = j.spec at hspec
      cases c.unreadable? b with
      | some kind => rfl
      | none => simp only [Except.map, hfound, hspec, map_selectedRecords h]

end Controller

end ProxyFleet
