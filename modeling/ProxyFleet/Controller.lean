import ProxyFleet.Cluster.Status
import ProxyFleet.Cluster.Value
import ProxyFleet.Counters
import ProxyFleet.Directory

/-!
# Controllers

A controller keeps a directory in line with one instance of a cluster.  Each time it looks, it
reads the instance and the records that the instance selects, runs a pass, reports statuses, and
writes the artifact set if it is not the one that it wrote last.

* `Controller.fetch` : what is read for a pass.
* `Controller.publish` : when an artifact set is written.
* `Controller.reconcile` : one look at the cluster.
-/

namespace ProxyFleet

/-- What a controller is to do. -/
structure Controller where
  /-- The namespace of the instance and of its records. -/
  space : String
  /-- The name of the instance. -/
  name : String
  /-- Whether statuses are reported. -/
  reports : Bool
  /-- The path of the directory that artifact sets are written into. -/
  directory : String

/-- Why a look at the cluster failed. -/
inductive ReconcileFault
  /-- The instance could not be read. -/
  | proxyInstance (space name : String)
  /-- The records of a kind could not be read. -/
  | records (kind : RecordKind)
  /-- The pass failed. -/
  | pass (fault : PassFault)
  /-- The artifact set could not be written. -/
  | write (fault : WriteFault)
  deriving DecidableEq

/-- The message of a fault. -/
def ReconcileFault.message : ReconcileFault → String
  | .proxyInstance space name => "failed to get instance " ++ space ++ "/" ++ name
  | .records kind => "failed to list " ++ kind.name
  | .pass fault => fault.message
  | .write fault => fault.message

/-- What a controller keeps, and the directory that it writes into. -/
structure ControllerState where
  /-- The fingerprint of the artifact set that was written last. -/
  written : Option String
  counters : Counters
  tree : FileTree

/-- What came of a look at the cluster. -/
structure Reconciled where
  state : ControllerState
  /-- What came of reporting each status.  None of them has to succeed. -/
  reports : List Reported
  result : Except ReconcileFault Unit

/-- The requests that were sent. -/
def Reconciled.requests (r : Reconciled) : List Request := r.reports.filterMap (·.request)

namespace Controller

/-- The records of a kind that a selector selects. -/
def select {σ τ : Type} (cluster : Cluster) (space : String) (kind : RecordKind)
    (format : Format (Record σ τ)) (selector : Selector) :
    Except ReconcileFault (List (Record σ τ)) :=
  match cluster.readAll kind.objectKind space format.read with
  | none => .error (.records kind)
  | some records => .ok (records.filter (fun r => selector.selects r.metadata.allLabels))

/-- Reads the instance and the records that it selects. -/
def fetch (c : Controller) (cluster : Cluster) :
    Except ReconcileFault (InstanceRecord × Records) := do
  let i ← (cluster.read RecordKind.proxyInstance.objectKind c.space c.name
    Record.instances.read).mapError (fun _ => .proxyInstance c.space c.name)
  let selector := i.spec.configuration.selector
  let listens ← select cluster c.space .listen Record.listens selector
  let frontends ← select cluster c.space .frontend Record.frontends selector
  let backends ← select cluster c.space .backend Record.backends selector
  let resolvers ← select cluster c.space .resolver Record.resolvers selector
  return (i, ⟨listens, frontends, backends, resolvers⟩)

/-- Writes an artifact set unless it is the one that was written last. -/
def publish (c : Controller) (i : Interruption) (set : ArtifactSet) (s : ControllerState) :
    ControllerState × Except ReconcileFault Unit :=
  if s.written = some set.fingerprint then (s, .ok ())
  else
    let w := set.write c.directory i s.tree
    match w.result with
    | .ok () => (⟨some set.fingerprint, s.counters, w.tree⟩, .ok ())
    | .error fault => (⟨s.written, s.counters, w.tree⟩, .error (.write fault))

/-- Where the controller reports statuses to. -/
def sink (c : Controller) (cluster : Cluster) : StatusSink :=
  if c.reports then cluster.report else .off

/-- Looks at the cluster once, reporting statuses to a given sink. -/
def look (c : Controller) (cluster : Cluster) (sink : StatusSink) (cancel : Cancellation)
    (i : Interruption) (s : ControllerState) : Reconciled :=
  match c.fetch cluster with
  | .error fault => ⟨s, [], .error fault⟩
  | .ok (record, records) =>
    let o := Pass.run cluster.store cancel record records
    let s := ⟨s.written, s.counters.record o.result, s.tree⟩
    let reports := o.statuses.map sink
    match o.result with
    | .error fault => ⟨s, reports, .error (.pass fault)⟩
    | .ok set =>
      let (s, result) := c.publish i set s
      ⟨s, reports, result⟩

/-- Looks at the cluster once. -/
def reconcile (c : Controller) (cluster : Cluster) (cancel : Cancellation) (i : Interruption)
    (s : ControllerState) : Reconciled :=
  c.look cluster (c.sink cluster) cancel i s

end Controller

end ProxyFleet
