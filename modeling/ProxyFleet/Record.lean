import ProxyFleet.Metadata
import ProxyFleet.Spec.Instance
import ProxyFleet.Spec.Section

/-!
# Records

A record is what users hand in: metadata that identify it, a specification of its kind, and the
status that was last reported on it.
-/

namespace ProxyFleet

/-- The kinds of records that take part in a synthesis pass. -/
inductive RecordKind
  | proxyInstance
  | listen
  | frontend
  | backend
  | resolver
  deriving DecidableEq

namespace RecordKind

/-- The name of a kind. -/
def name : RecordKind → String
  | .proxyInstance => "Instance"
  | .listen => "Listen"
  | .frontend => "Frontend"
  | .backend => "Backend"
  | .resolver => "Resolver"

/-- The name of a kind in paths of the cluster's interface. -/
def plural : RecordKind → String
  | .proxyInstance => "instances"
  | .listen => "listens"
  | .frontend => "frontends"
  | .backend => "backends"
  | .resolver => "resolvers"

/-- The group and version that the records of a kind belong to. -/
def apiVersion : RecordKind → String
  | .proxyInstance => "proxy.haproxy.com/v1alpha1"
  | _ => "config.haproxy.com/v1alpha1"

end RecordKind

/-- The phase of a section record. -/
inductive SectionPhase
  | active
  | error
  deriving DecidableEq

/-- The status reported on a section record. -/
structure SectionStatus where
  phase : SectionPhase
  observedGeneration : Int64
  error : String
  deriving DecidableEq

/-- The phases as they are written. -/
def SectionPhase.format : Format SectionPhase := .tag [("Active", .active), ("Error", .error)]

/-- The members of a section record's status. -/
def SectionStatus.schema : Schema SectionStatus SectionStatus :=
  mk <$> .required "phase" SectionPhase.format (·.phase)
    <*> .defaulted "observedGeneration" .int64 0 (·.observedGeneration)
    <*> .sparse "error" .text "" String.isEmpty (·.error)

/-- The phase of an instance. -/
inductive InstancePhase
  | running
  | pending
  | error
  deriving DecidableEq

/-- The status reported on an instance. -/
structure InstanceStatus where
  phase : InstancePhase
  error : String
  deriving DecidableEq

/-- The phases as they are written. -/
def InstancePhase.format : Format InstancePhase :=
  .tag [("Running", .running), ("Pending", .pending), ("Error", .error)]

/-- The members of an instance's status. -/
def InstanceStatus.schema : Schema InstanceStatus InstanceStatus :=
  mk <$> .required "phase" InstancePhase.format (·.phase)
    <*> .sparse "error" .text "" String.isEmpty (·.error)

/-- A record with a specification of type `σ` and a status of type `τ`. -/
structure Record (σ τ : Type) where
  metadata : Metadata
  spec : σ
  status : Option τ

/-- The format of a kind of record.  Its version and kind are written and not looked at. -/
def Record.format {σ τ : Type} (kind : RecordKind) (spec : Format σ) (status : Format τ) :
    Format (Record σ τ) where
  read :=
    (mk <$> .required "metadata" Metadata.schema.format (·.metadata)
      <*> .required "spec" spec (·.spec)
      <*> .omitted "status" status (·.status) : Schema (Record σ τ) (Record σ τ)).format.read
  write r :=
    .object ([("apiVersion", .text kind.apiVersion), ("kind", .text kind.name),
      ("metadata", Metadata.schema.format.write r.metadata), ("spec", spec.write r.spec)] ++
      r.status.toList.map (fun s => ("status", status.write s)))

/-- An instance as it is handed in. -/
abbrev InstanceRecord := Record Spec.Instance InstanceStatus
/-- A listen as it is handed in. -/
abbrev ListenRecord := Record Spec.Listen SectionStatus
/-- A frontend as it is handed in. -/
abbrev FrontendRecord := Record Spec.Frontend SectionStatus
/-- A backend as it is handed in. -/
abbrev BackendRecord := Record Spec.Backend SectionStatus
/-- A resolver as it is handed in. -/
abbrev ResolverRecord := Record Spec.Resolver SectionStatus

namespace Record

/-- The format of instances. -/
def instances : Format InstanceRecord :=
  format .proxyInstance Spec.Instance.schema.format InstanceStatus.schema.format

/-- The format of listens. -/
def listens : Format ListenRecord :=
  format .listen Spec.Listen.schema.format SectionStatus.schema.format

/-- The format of frontends. -/
def frontends : Format FrontendRecord :=
  format .frontend Spec.Frontend.schema.format SectionStatus.schema.format

/-- The format of backends. -/
def backends : Format BackendRecord :=
  format .backend Spec.Backend.schema.format SectionStatus.schema.format

/-- The format of resolvers. -/
def resolvers : Format ResolverRecord :=
  format .resolver Spec.Resolver.schema.format SectionStatus.schema.format

end Record

end ProxyFleet
