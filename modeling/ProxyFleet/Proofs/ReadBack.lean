import ProxyFleet.Proofs.Lossless
import ProxyFleet.Proofs.TimestampText
import ProxyFleet.Record

/-!
# Reading written records

**Parts.**  The schema of each part of a record is complete (`Schema.Complete`).  Its members are
lossless by the instances that follow `<$>` and `<*>`; what is left for each part is that no two of
its members share a key, that together they give the part back, and which parts of it have to be
read back for that.

**Moments.**  Metadata are read back if their moments are whole seconds (`Metadata.complete`), and
metadata with fractions of a second are written like those without (`Metadata.write_whole`).

**Durations.**  A part with durations in it is read back if these are precise; `durations` collects
them, part by part, up to the specification of each kind of record.

**Records.**  The version and the kind are written beside the members of a record, and read by none
of them (`Record.lossless`).  What is read back is the record in whole seconds (`Record.whole`).

Main statement: `Record.written_records_read_back`.
-/

namespace ProxyFleet

/-! ## Selectors -/

instance : SelectorExpression.operatorFormat.Lossless (fun _ => True) :=
  Format.lossless_tag fun operator => by cases operator <;> decide

instance SelectorExpression.complete : SelectorExpression.schema.Complete (fun _ => True) := by
  unfold schema
  exact .of_members (by decide) rfl (by simp)

instance Selector.complete : Selector.schema.Complete (fun _ => True) := by
  unfold schema
  exact .of_members (by decide) rfl (by simp)

/-! ## Metadata -/

instance : Format.timestamp.Lossless (fun t => t.time.nanos = 0) where
  read_write {t} h := (Timestamp.parse?_text t).trans
    (congrArg some (Timestamp.whole_eq_self_iff.2 h))
  write_ne_null t := by simp [Format.timestamp]

instance OwnerReference.complete : OwnerReference.schema.Complete (fun _ => True) := by
  unfold schema
  exact .of_members (by decide) rfl (by simp)

/-- The moments in managed fields. -/
def ManagedFields.moments (f : ManagedFields) : List Timestamp := f.time.toList

instance ManagedFields.complete :
    ManagedFields.schema.Complete (fun f => ∀ t ∈ f.moments, t.time.nanos = 0) := by
  unfold schema
  exact .of_members (by decide) rfl fun f h => by simpa [moments] using h

/-- The moments in metadata. -/
def Metadata.moments (m : Metadata) : List Timestamp :=
  m.created.toList ++ m.deleted.toList ++ m.managedFields.toList.flatMap (·.flatMap (·.moments))

instance Metadata.complete :
    Metadata.schema.Complete (fun m => ∀ t ∈ m.moments, t.time.nanos = 0) := by
  unfold schema
  exact .of_members (by decide) rfl fun m h => by
    simp only [moments, List.forall_mem_append, List.forall_mem_flatMap] at h
    simpa [and_assoc] using h

namespace Spec

/-! ## Files and addresses -/

instance KeyRef.complete : KeyRef.schema.Complete (fun _ => True) := by
  unfold schema
  exact .of_members (by decide) rfl (by simp)

instance ExternalKeyRef.complete : ExternalKeyRef.schema.Complete (fun _ => True) := by
  unfold schema
  exact .of_members (by decide) rfl (by simp)

instance ErrorPage.complete : ErrorPage.schema.Complete (fun _ => True) := by
  unfold schema
  exact .of_members (by decide) rfl (by simp)

instance ErrorFile.complete : ErrorFile.schema.Complete (fun _ => True) := by
  unfold schema
  exact .of_members (by decide) rfl (by simp)

instance CertificateSource.complete : CertificateSource.schema.Complete (fun _ => True) := by
  unfold schema
  exact .of_members (by decide) rfl (by simp)

instance Certificate.complete : Certificate.schema.Complete (fun _ => True) := by
  unfold schema
  exact .of_members (by decide) rfl (by simp)

instance OcspFile.complete : OcspFile.schema.Complete (fun _ => True) := by
  unfold schema
  exact .of_members (by decide) rfl (by simp)

instance CertificateElement.complete : CertificateElement.schema.Complete (fun _ => True) := by
  unfold schema
  exact .of_members (by decide) rfl (by simp)

instance CertificateList.complete : CertificateList.schema.Complete (fun _ => True) := by
  unfold schema
  exact .of_members (by decide) rfl (by simp)

instance Tls.complete : Tls.schema.Complete (fun _ => True) := by
  unfold schema
  exact .of_members (by decide) rfl (by simp)

instance Bind.complete : Bind.schema.Complete (fun _ => True) := by
  unfold schema
  exact .of_members (by decide) rfl (by simp)

/-! ## Rules -/

instance Condition.complete : Condition.schema.Complete (fun _ => True) := by
  unfold schema
  exact .of_members (by decide) rfl (by simp)

instance Acl.complete : Acl.schema.Complete (fun _ => True) := by
  unfold schema
  exact .of_members (by decide) rfl (by simp)

/-- The durations in a rule on connections. -/
def TcpRule.durations (r : TcpRule) : List Duration := r.timeout.toList

instance TcpRule.complete : TcpRule.schema.Complete (fun r => ∀ d ∈ r.durations, d.Precise) := by
  unfold schema
  exact .of_members (by decide) rfl fun r h => by simpa [durations] using h

instance VariableSource.complete : VariableSource.schema.Complete (fun _ => True) := by
  unfold schema
  exact .of_members (by decide) rfl (by simp)

instance Variable.complete : Variable.schema.Complete (fun _ => True) := by
  unfold schema
  exact .of_members (by decide) rfl (by simp)

instance HeaderValue.complete : HeaderValue.schema.Complete (fun _ => True) := by
  unfold schema
  exact .of_members (by decide) rfl (by simp)

instance HeaderRule.complete : HeaderRule.schema.Complete (fun _ => True) := by
  unfold schema
  exact .of_members (by decide) rfl (by simp)

instance PathRule.complete : PathRule.schema.Complete (fun _ => True) := by
  unfold schema
  exact .of_members (by decide) rfl (by simp)

instance ReplacePath.complete : ReplacePath.schema.Complete (fun _ => True) := by
  unfold schema
  exact .of_members (by decide) rfl (by simp)

instance Deny.complete : Deny.schema.Complete (fun _ => True) := by
  unfold schema
  exact .of_members (by decide) rfl (by simp)

instance RedirectKind.complete : RedirectKind.schema.Complete (fun _ => True) := by
  unfold schema
  exact .of_members (by decide) rfl (by simp)

instance RedirectCookie.complete : RedirectCookie.schema.Complete (fun _ => True) := by
  unfold schema
  exact .of_members (by decide) rfl (by simp)

instance RedirectOption.complete : RedirectOption.schema.Complete (fun _ => True) := by
  unfold schema
  exact .of_members (by decide) rfl (by simp)

instance Redirect.complete : Redirect.schema.Complete (fun _ => True) := by
  unfold schema
  exact .of_members (by decide) rfl (by simp)

instance AnswerContent.complete : AnswerContent.schema.Complete (fun _ => True) := by
  unfold schema
  exact .of_members (by decide) rfl (by simp)

instance Answer.complete : Answer.schema.Complete (fun _ => True) := by
  unfold schema
  exact .of_members (by decide) rfl (by simp)

instance HttpRules.complete : HttpRules.schema.Complete (fun _ => True) := by
  unfold schema
  exact .of_members (by decide) rfl (by simp)

instance ForwardFor.complete : ForwardFor.schema.Complete (fun _ => True) := by
  unfold schema
  exact .of_members (by decide) rfl (by simp)

/-! ## Servers -/

/-- The durations in a server's check. -/
def Check.durations (c : Check) : List Duration := c.interval.toList

instance Check.complete : Check.schema.Complete (fun c => ∀ d ∈ c.durations, d.Precise) := by
  unfold schema
  exact .of_members (by decide) rfl fun c h => by simpa [durations] using h

instance ProxyV2Options.complete : ProxyV2Options.schema.Complete (fun _ => True) := by
  unfold schema
  exact .of_members (by decide) rfl (by simp)

instance ProxyV2.complete : ProxyV2.schema.Complete (fun _ => True) := by
  unfold schema
  exact .of_members (by decide) rfl (by simp)

instance ProxyProtocol.complete : ProxyProtocol.schema.Complete (fun _ => True) := by
  unfold schema
  exact .of_members (by decide) rfl (by simp)

instance NameRef.complete : NameRef.schema.Complete (fun _ => True) := by
  unfold schema
  exact .of_members (by decide) rfl (by simp)

/-- The durations in settings of servers. -/
def ServerParams.durations (p : ServerParams) : List Duration :=
  p.check.toList.flatMap (·.durations)

instance ServerParams.complete :
    ServerParams.schema.Complete (fun p => ∀ d ∈ p.durations, d.Precise) := by
  unfold schema
  exact .of_members (by decide) rfl fun p h => by
    simp only [durations, List.forall_mem_flatMap] at h
    simpa using h

/-- The durations in a server. -/
def Server.durations (s : Server) : List Duration := s.params.durations

instance Server.complete : Server.schema.Complete (fun s => ∀ d ∈ s.durations, d.Precise) := by
  unfold schema
  exact .of_members (by decide) rfl fun s h => by simpa [durations] using h

/-- The durations in a server template. -/
def ServerTemplate.durations (t : ServerTemplate) : List Duration := t.params.durations

instance ServerTemplate.complete :
    ServerTemplate.schema.Complete (fun t => ∀ d ∈ t.durations, d.Precise) := by
  unfold schema
  exact .of_members (by decide) rfl fun t h => by simpa [durations] using h

instance Balance.complete : Balance.schema.Complete (fun _ => True) := by
  unfold schema
  exact .of_members (by decide) rfl (by simp)

instance HashType.complete : HashType.schema.Complete (fun _ => True) := by
  unfold schema
  exact .of_members (by decide) rfl (by simp)

instance HttpCheck.complete : HttpCheck.schema.Complete (fun _ => True) := by
  unfold schema
  exact .of_members (by decide) rfl (by simp)

instance CookieMode.complete : CookieMode.schema.Complete (fun _ => True) := by
  unfold schema
  exact .of_members (by decide) rfl (by simp)

instance Cookie.complete : Cookie.schema.Complete (fun _ => True) := by
  unfold schema
  exact .of_members (by decide) rfl (by simp)

/-! ## Sections -/

/-- The durations in shared settings. -/
def Base.durations (b : Base) : List Duration :=
  b.tcpRequest.flatMap (·.durations) ++ b.timeouts.entries.map (·.2)

instance Base.complete : Base.schema.Complete (fun b => ∀ d ∈ b.durations, d.Precise) := by
  unfold schema
  exact .of_members (by decide) rfl fun b h => by
    simp only [durations, List.forall_mem_append, List.forall_mem_flatMap, List.forall_mem_map] at h
    simpa using h

instance RegexMapping.complete : RegexMapping.schema.Complete (fun _ => True) := by
  unfold schema
  exact .of_members (by decide) rfl (by simp)

instance BackendReference.complete : BackendReference.schema.Complete (fun _ => True) := by
  unfold schema
  exact .of_members (by decide) rfl (by simp)

instance SwitchingRule.complete : SwitchingRule.schema.Complete (fun _ => True) := by
  unfold schema
  exact .of_members (by decide) rfl (by simp)

/-- The durations in a frontend. -/
def Frontend.durations (f : Frontend) : List Duration := f.base.durations

instance Frontend.complete : Frontend.schema.Complete (fun f => ∀ d ∈ f.durations, d.Precise) := by
  unfold schema
  exact .of_members (by decide) rfl fun f h => by simpa [durations] using h

/-- The durations in a backend. -/
def Backend.durations (b : Backend) : List Duration :=
  b.base.durations ++ b.checkTimeout.toList ++ b.servers.flatMap (·.durations) ++
    b.templates.flatMap (·.durations)

instance Backend.complete : Backend.schema.Complete (fun b => ∀ d ∈ b.durations, d.Precise) := by
  unfold schema
  exact .of_members (by decide) rfl fun b h => by
    simp only [durations, List.forall_mem_append, List.forall_mem_flatMap] at h
    simpa using h

/-- The durations in a listen. -/
def Listen.durations (l : Listen) : List Duration :=
  l.base.durations ++ l.servers.flatMap (·.durations) ++ l.templates.flatMap (·.durations) ++
    l.checkTimeout.toList

instance Listen.complete : Listen.schema.Complete (fun l => ∀ d ∈ l.durations, d.Precise) := by
  unfold schema
  exact .of_members (by decide) rfl fun l h => by
    simp only [durations, List.forall_mem_append, List.forall_mem_flatMap] at h
    simpa using h

instance Nameserver.complete : Nameserver.schema.Complete (fun _ => True) := by
  unfold schema
  exact .of_members (by decide) rfl (by simp)

/-- The durations in holding times. -/
def Hold.durations (h : Hold) : List Duration :=
  [h.nx, h.obsolete, h.other, h.refused, h.timeout, h.valid].flatMap Option.toList

instance Hold.complete : Hold.schema.Complete (fun h => ∀ d ∈ h.durations, d.Precise) := by
  unfold schema
  exact .of_members (by decide) rfl fun t h => by
    simp only [durations, List.forall_mem_flatMap] at h
    simpa [and_assoc] using h

/-- The durations in a resolver's timeouts. -/
def ResolverTimeouts.durations (t : ResolverTimeouts) : List Duration :=
  t.resolve.toList ++ t.retry.toList

instance ResolverTimeouts.complete :
    ResolverTimeouts.schema.Complete (fun t => ∀ d ∈ t.durations, d.Precise) := by
  unfold schema
  exact .of_members (by decide) rfl fun t h => by
    simp only [durations, List.forall_mem_append] at h
    simpa using h

/-- The durations in a resolver. -/
def Resolver.durations (r : Resolver) : List Duration :=
  r.hold.toList.flatMap (·.durations) ++ r.timeouts.toList.flatMap (·.durations)

instance Resolver.complete : Resolver.schema.Complete (fun r => ∀ d ∈ r.durations, d.Precise) := by
  unfold schema
  exact .of_members (by decide) rfl fun r h => by
    simp only [durations, List.forall_mem_append, List.forall_mem_flatMap] at h
    simpa using h

/-! ## Instances -/

instance Metrics.complete : Metrics.schema.Complete (fun _ => True) := by
  unfold schema
  exact .of_members (by decide) rfl (by simp)

instance BindTlsOptions.complete : BindTlsOptions.schema.Complete (fun _ => True) := by
  unfold schema
  exact .of_members (by decide) rfl (by simp)

instance GlobalTls.complete : GlobalTls.schema.Complete (fun _ => True) := by
  unfold schema
  exact .of_members (by decide) rfl (by simp)

/-- The durations in tuning of encryption. -/
def TlsTuning.durations (t : TlsTuning) : List Duration := t.lifetime.toList

instance TlsTuning.complete :
    TlsTuning.schema.Complete (fun t => ∀ d ∈ t.durations, d.Precise) := by
  unfold schema
  exact .of_members (by decide) rfl fun t h => by simpa [durations] using h

/-- The durations in tuning of the process. -/
def Tuning.durations (t : Tuning) : List Duration := t.tls.toList.flatMap (·.durations)

instance Tuning.complete : Tuning.schema.Complete (fun t => ∀ d ∈ t.durations, d.Precise) := by
  unfold schema
  exact .of_members (by decide) rfl fun t h => by
    simp only [durations, List.forall_mem_flatMap] at h
    simpa using h

instance GlobalLogging.complete : GlobalLogging.schema.Complete (fun _ => True) := by
  unfold schema
  exact .of_members (by decide) rfl (by simp)

/-- The durations in process-wide settings. -/
def Global.durations (g : Global) : List Duration :=
  g.statsTimeout.toList ++ g.tuning.toList.flatMap (·.durations) ++ g.hardStopAfter.toList

instance Global.complete : Global.schema.Complete (fun g => ∀ d ∈ g.durations, d.Precise) := by
  unfold schema
  exact .of_members (by decide) rfl fun g h => by
    simp only [durations, List.forall_mem_append, List.forall_mem_flatMap] at h
    simpa using h

instance DefaultsLogging.complete : DefaultsLogging.schema.Complete (fun _ => True) := by
  unfold schema
  exact .of_members (by decide) rfl (by simp)

/-- The durations in defaults of sections. -/
def Defaults.durations (s : Defaults) : List Duration := s.timeouts.entries.map (·.2)

instance Defaults.complete : Defaults.schema.Complete (fun s => ∀ d ∈ s.durations, d.Precise) := by
  unfold schema
  exact .of_members (by decide) rfl fun s h => by
    simp only [durations, List.forall_mem_map] at h
    simpa using h

/-- The durations in an instance's configuration. -/
def Configuration.durations (c : Configuration) : List Duration :=
  c.global.durations ++ c.defaults.durations

instance Configuration.complete :
    Configuration.schema.Complete (fun c => ∀ d ∈ c.durations, d.Precise) := by
  unfold schema
  exact .of_members (by decide) rfl fun c h => by
    simp only [durations, List.forall_mem_append] at h
    simpa using h

/-- The durations in an instance. -/
def Instance.durations (i : Instance) : List Duration := i.configuration.durations

instance Instance.complete : Instance.schema.Complete (fun i => ∀ d ∈ i.durations, d.Precise) := by
  unfold schema
  exact .of_members (by decide) rfl fun i h => by simpa [durations] using h

end Spec

/-! ## Statuses -/

instance : SectionPhase.format.Lossless (fun _ => True) :=
  Format.lossless_tag fun phase => by cases phase <;> decide

instance SectionStatus.complete : SectionStatus.schema.Complete (fun _ => True) := by
  unfold schema
  exact .of_members (by decide) rfl (by simp)

instance : InstancePhase.format.Lossless (fun _ => True) :=
  Format.lossless_tag fun phase => by cases phase <;> decide

instance InstanceStatus.complete : InstanceStatus.schema.Complete (fun _ => True) := by
  unfold schema
  exact .of_members (by decide) rfl (by simp)

/-! ## Whole seconds -/

namespace Timestamp

lemma map_write_whole (t : Option Timestamp) :
    (t.map whole).map Format.timestamp.write = t.map Format.timestamp.write := by
  cases t <;> rfl

lemma map_whole_eq_self {t : Option Timestamp} (h : ∀ x ∈ t.toList, x.time.nanos = 0) :
    t.map whole = t := by
  cases t with
  | none => rfl
  | some t => exact congrArg some (whole_eq_self_iff.2 (h t (by simp)))

end Timestamp

namespace ManagedFields

/-- Managed fields without the fraction of a second. -/
def whole (f : ManagedFields) : ManagedFields := { f with time := f.time.map .whole }

lemma moments_whole (f : ManagedFields) : f.whole.moments = f.moments.map .whole := by
  obtain ⟨_, _, _, _, _, _, time⟩ := f
  cases time <;> rfl

lemma write_whole (f : ManagedFields) : schema.format.write f.whole = schema.format.write f := by
  refine congrArg Json.object ?_
  simp only [schema, Schema.write_seq, Schema.write_map, Schema.write_omitted, whole,
    Timestamp.map_write_whole]

lemma whole_eq_self {f : ManagedFields} (h : ∀ t ∈ f.moments, t.time.nanos = 0) :
    f.whole = f := by
  rw [whole, Timestamp.map_whole_eq_self h]

end ManagedFields

namespace Metadata

/-- Metadata without fractions of a second. -/
def whole (m : Metadata) : Metadata :=
  { m with
    created := m.created.map .whole
    deleted := m.deleted.map .whole
    managedFields := m.managedFields.map (·.map .whole) }

lemma moments_whole (m : Metadata) : m.whole.moments = m.moments.map .whole := by
  rw [moments, moments, whole]
  cases m.created <;> cases m.deleted <;> cases m.managedFields <;>
    simp [List.map_flatMap, List.flatMap_map, ManagedFields.moments_whole]

lemma nanos_eq_zero_of_mem_whole {m : Metadata} {t : Timestamp} (h : t ∈ m.whole.moments) :
    t.time.nanos = 0 := by
  rw [moments_whole] at h
  obtain ⟨t, -, rfl⟩ := List.mem_map.1 h
  rfl

/-- **Fractions of a second are not written.** -/
lemma write_whole (m : Metadata) : schema.format.write m.whole = schema.format.write m := by
  have hfields : ∀ l : Option (List ManagedFields),
      (l.map (·.map .whole)).map ManagedFields.schema.format.list.write =
        l.map ManagedFields.schema.format.list.write := fun l => by
    simp only [Format.list, Option.map_map, Function.comp_def, List.map_map,
      ManagedFields.write_whole]
  refine congrArg Json.object ?_
  simp only [schema, Schema.write_seq, Schema.write_map, Schema.write_omitted, whole,
    Timestamp.map_write_whole, hfields]

lemma whole_eq_self_iff {m : Metadata} : m.whole = m ↔ ∀ t ∈ m.moments, t.time.nanos = 0 := by
  constructor
  · intro h t ht
    rw [← h] at ht
    exact nanos_eq_zero_of_mem_whole ht
  · intro h
    simp only [moments, List.forall_mem_append, List.forall_mem_flatMap] at h
    obtain ⟨⟨hcreated, hdeleted⟩, hmanaged⟩ := h
    have hfields : m.managedFields.map (·.map .whole) = m.managedFields := by
      cases hlist : m.managedFields with
      | none => rfl
      | some fields =>
        rw [hlist, Option.toList_some] at hmanaged
        exact congrArg some ((List.map_congr_left fun f hf => ManagedFields.whole_eq_self
          (hmanaged fields List.mem_cons_self f hf)).trans (List.map_id fields))
    rw [whole, Timestamp.map_whole_eq_self hcreated, Timestamp.map_whole_eq_self hdeleted, hfields]

end Metadata

/-! ## Records -/

namespace Record

variable {σ τ : Type} {kind : RecordKind} {spec : Format σ} {status : Format τ}

/-- The members that a record is read from. -/
def members (spec : Format σ) (status : Format τ) : Schema (Record σ τ) (Record σ τ) :=
  mk <$> .required "metadata" Metadata.schema.format (·.metadata)
    <*> .required "spec" spec (·.spec)
    <*> .omitted "status" status (·.status)

lemma keys_members : (members spec status).keys = ["metadata", "spec", "status"] := rfl

instance complete_members {KeepsSpec : σ → Prop} {KeepsStatus : τ → Prop}
    [spec.Lossless KeepsSpec] [status.Lossless KeepsStatus] :
    (members spec status).Complete (fun r => (∀ t ∈ r.metadata.moments, t.time.nanos = 0) ∧
      KeepsSpec r.spec ∧ ∀ s ∈ r.status, KeepsStatus s) := by
  have hnodup : (members spec status).keys.Nodup := by
    rw [keys_members]
    decide
  unfold members at hnodup ⊢
  exact .of_members hnodup rfl fun _ h => ⟨⟨h.1, h.2.1⟩, h.2.2⟩

/-- The version and the kind, which are written as well, hide no member. -/
instance lossless {KeepsSpec : σ → Prop} {KeepsStatus : τ → Prop} [spec.Lossless KeepsSpec]
    [status.Lossless KeepsStatus] : (format kind spec status).Lossless
      (fun r => (∀ t ∈ r.metadata.moments, t.time.nanos = 0) ∧ KeepsSpec r.spec ∧
        ∀ s ∈ r.status, KeepsStatus s) where
  read_write {r} hr := by
    have hmembers : (members spec status).Complete _ := complete_members
    refine hmembers.lossless.read_eq hr hmembers.nodup fun key hkey => ?_
    rw [keys_members] at hkey
    have hversion : (key == "apiVersion") = false := by
      fin_cases hkey <;> decide
    have hkind : (key == "kind") = false := by
      fin_cases hkey <;> decide
    have hwrite : (members spec status).write r =
      [("metadata", Metadata.schema.format.write r.metadata), ("spec", spec.write r.spec)] ++
        r.status.toList.map (fun s => ("status", status.write s)) := rfl
    rw [hwrite]
    simp only [List.cons_append, List.lookup_cons, hversion, hkind]
  write_ne_null _ := by simp [format]

/-- A record without fractions of a second in its metadata. -/
def whole (r : Record σ τ) : Record σ τ := { r with metadata := r.metadata.whole }

lemma write_whole (r : Record σ τ) :
    (format kind spec status).write r.whole = (format kind spec status).write r := by
  simp only [format, whole, Metadata.write_whole]

lemma whole_eq_self_iff {r : Record σ τ} :
    r.whole = r ↔ ∀ t ∈ r.metadata.moments, t.time.nanos = 0 := by
  rw [← Metadata.whole_eq_self_iff]
  constructor
  · exact fun h => congrArg Record.metadata h
  · exact fun h => by rw [whole, h]

/-- **What a format of records reads is read back from what is written for it**, in whole seconds,
and is written the same again, if the durations in it fit into fifty-three places. -/
def RoundTrips (format : Format (Record σ τ)) (durations : σ → List Duration) : Prop :=
  ∀ json r, format.read json = some r → (∀ d ∈ durations r.spec, d.nanos < 2 ^ 53) →
    format.read (format.write r) = some r.whole ∧
      (format.read (format.write r)).map format.write = some (format.write r)

lemma roundTrips {durations : σ → List Duration}
    [spec.Lossless (fun s => ∀ d ∈ durations s, d.Precise)] [status.Lossless (fun _ => True)] :
    RoundTrips (format kind spec status) durations := by
  intro json r _ hdurations
  have hread : (format kind spec status).read ((format kind spec status).write r) =
      some r.whole := by
    rw [← write_whole]
    exact Format.Lossless.read_write
      ⟨fun _ => Metadata.nanos_eq_zero_of_mem_whole, hdurations, fun _ _ => trivial⟩
  refine ⟨hread, ?_⟩
  rw [hread, Option.map_some, write_whole]

/-- **Every record is read back from what is written for it**, whatever its kind, but for fractions
of a second in the moments of its metadata, and is written the same again.  So it is read back as it
is exactly if these moments are whole seconds. -/
theorem written_records_read_back :
    RoundTrips instances Spec.Instance.durations ∧ RoundTrips listens Spec.Listen.durations ∧
      RoundTrips frontends Spec.Frontend.durations ∧ RoundTrips backends Spec.Backend.durations ∧
      RoundTrips resolvers Spec.Resolver.durations ∧
      ∀ (σ τ : Type) (r : Record σ τ), r.whole = r ↔ ∀ t ∈ r.metadata.moments, t.time.nanos = 0 :=
  ⟨roundTrips, roundTrips, roundTrips, roundTrips, roundTrips, fun _ _ _ => whole_eq_self_iff⟩

/-- A frontend with settings of many kinds: some that stand among the members of others, a set that
names a value twice, a null, a duration below zero, and a status.  It was made within a second. -/
def stagingFrontend : Json :=
  .object [("kind", .text "Frontend"),
    ("metadata", .object [("name", .text "staging"), ("generation", .int 3),
      ("creationTimestamp", .text "2024-05-01T12:00:00.5+02:00")]),
    ("spec", .object [
      ("timeouts", .object [("client", .text "-1m30s")]),
      ("tcpRequest", .list [.object [("type", .text "inspect-delay"), ("condition", .text "slow"),
        ("timeout", .text "2.5ms")]]),
      ("backendSwitching", .list [.object [("conditionType", .null), ("backend", .object [
        ("regexMapping", .object [("name", .text "hosts"), ("parameter", .text "req.hdr(host)"),
          ("selector", .object [("matchExpressions", .list [.object [("key", .text "tier"),
            ("operator", .text "In"),
            ("values", .list [.text "b", .text "a", .text "b"])]])])])])]]),
      ("defaultBackend", .object [("name", .text "web")])]),
    ("status", .object [("phase", .text "Active")])]

theorem written_records_read_back_negative_timeout :
    ∃ r, frontends.read stagingFrontend = some r ∧
      r.spec.durations = [⟨false, 2500000⟩, ⟨true, 90000000000⟩] ∧
      frontends.read (frontends.write r) = some r.whole ∧
      (frontends.read (frontends.write r)).map frontends.write = some (frontends.write r) := by
  have hread : (frontends.read stagingFrontend).map (·.spec.durations) =
      some [⟨false, 2500000⟩, ⟨true, 90000000000⟩] := by decide +kernel
  obtain ⟨r, hr, hdurations⟩ := Option.map_eq_some_iff.1 hread
  have hprecise : ∀ d ∈ r.spec.durations, d.nanos < 2 ^ 53 := by
    rw [hdurations]
    decide
  exact ⟨r, hr, hdurations, written_records_read_back.2.2.1 stagingFrontend r hr hprecise⟩

/-- The half of a second is lost, so that the record is not read back as it is. -/
theorem half_second_not_read_back :
    ∃ r, frontends.read stagingFrontend = some r ∧ (∀ d ∈ r.spec.durations, d.nanos < 2 ^ 53) ∧
      frontends.read (frontends.write r) ≠ some r := by
  have hread : (frontends.read stagingFrontend).map
      (fun r => (r.spec.durations, r.metadata.created.map (·.time.nanos))) =
        some ([⟨false, 2500000⟩, ⟨true, 90000000000⟩], some 500000000) := by decide +kernel
  have hagain : ((frontends.read stagingFrontend).bind
      fun r => frontends.read (frontends.write r)).map (·.metadata.created.map (·.time.nanos)) =
        some (some 0) := by decide +kernel
  obtain ⟨r, hr, hparts⟩ := Option.map_eq_some_iff.1 hread
  obtain ⟨hdurations, hcreated⟩ := Prod.mk.inj hparts
  refine ⟨r, hr, ?_, fun hback => ?_⟩
  · rw [hdurations]
    decide
  · rw [hr, Option.bind_some, hback, Option.map_some, hcreated] at hagain
    exact absurd hagain (by decide)

end Record

end ProxyFleet
