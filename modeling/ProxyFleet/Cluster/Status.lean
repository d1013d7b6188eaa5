import ProxyFleet.Cluster
import ProxyFleet.Pass

/-!
# Statuses in a cluster

What a pass reports on a record is merged into the status of its object.  The cluster accepts this
for objects that it holds and that are records of their kind.

* `StatusWrite.patch` : what is merged into an object.
* `Cluster.report` : the request that is sent, and whether it succeeds.
-/

namespace ProxyFleet

/-- A request that changes an object. -/
structure Request where
  method : String
  path : String
  contentType : String
  body : Json

/-- How a kind of record is called in a cluster. -/
def RecordKind.objectKind (kind : RecordKind) : ObjectKind :=
  ⟨kind.name, "/apis/" ++ kind.apiVersion, kind.plural⟩

/-- How a phase is written in the status of a kind of record. -/
def Phase.json (kind : RecordKind) : Phase → Json :=
  match kind with
  | .proxyInstance => fun
    | .active => InstancePhase.format.write .running
    | .error => InstancePhase.format.write .error
  | _ => fun
    | .active => SectionPhase.format.write .active
    | .error => SectionPhase.format.write .error

namespace StatusWrite

/-- What is merged into the object.  Without a message, an earlier one is taken away. -/
def patch (w : StatusWrite) : Json :=
  .object [("apiVersion", .text w.record.kind.apiVersion), ("kind", .text w.record.kind.name),
    ("name", .text w.record.name),
    ("status", .object [("phase", w.phase.json w.record.kind),
      ("error", if w.message.isEmpty then .null else .text w.message)])]

/-- The request that merges a status, unless it cannot be sent. -/
def request? (w : StatusWrite) : Option Request :=
  if w.record.name.isEmpty then none
  else
    (Target.path? (w.record.kind.objectKind.status w.record.space w.record.name ++ "?")).map
      (fun path => ⟨"PATCH", path, "application/merge-patch+json", w.patch⟩)

/-- The message about a status that could not be merged. -/
def faultMessage (w : StatusWrite) : String := "failed to patch status of " ++ w.record.text

end StatusWrite

/-- Whether an object is a record of a kind. -/
def RecordKind.isRecord (kind : RecordKind) (o : Json) : Bool :=
  match kind with
  | .proxyInstance => (Record.instances.read o).isSome
  | .listen => (Record.listens.read o).isSome
  | .frontend => (Record.frontends.read o).isSome
  | .backend => (Record.backends.read o).isSome
  | .resolver => (Record.resolvers.read o).isSome

/-- What came of reporting a status: the request that was sent, if any, and the result. -/
structure Reported where
  request : Option Request
  result : Except String Unit

/-- Where statuses are reported to. -/
abbrev StatusSink := StatusWrite → Reported

/-- Statuses are not reported. -/
def StatusSink.off : StatusSink := fun _ => ⟨none, .ok ()⟩

namespace Cluster

/-- Reports a status. -/
def report (c : Cluster) (w : StatusWrite) : Reported :=
  match w.request? with
  | none => ⟨none, .error w.faultMessage⟩
  | some r =>
    ⟨some r,
      if (c.at? w.record.kind.objectKind r.path).any w.record.kind.isRecord then .ok ()
      else .error w.faultMessage⟩

end Cluster

end ProxyFleet
