import ProxyFleet.Artifact
import ProxyFleet.SideFile
import ProxyFleet.Text.Blank
import ProxyFleet.Text.Utf8

/-!
# Synthesis passes

A pass turns an instance and its records into an artifact set.  It is a function of the records,
the store and the point at which it is cancelled; along with the outcome it tells what it read,
and what it reports on the records follows from the outcome alone.
-/

namespace ProxyFleet

/-- Why a stored value could not be had. -/
inductive LookupFault
  /-- The object lacks the key. -/
  | missing (use : FileUse) (ref : StoreRef)
  /-- The store could not read the object. -/
  | failed (ref : StoreRef) (cause : String)
  deriving DecidableEq

/-- The message of a fault. -/
def LookupFault.message : LookupFault → String
  | .missing use ref =>
    "key " ++ ref.key ++ " not found in " ++ use.label ++ " " ++ ref.kind.name ++ ": " ++ ref.object
  | .failed ref _ => "failed to read " ++ ref.kind.name ++ " " ++ ref.object

/-- Why a pass failed. -/
inductive PassFault
  /-- A record is not valid. -/
  | mapping (record : RecordRef) (fault : Fault)
  /-- The name of a record is taken by one of the given kind. -/
  | collision (record : RecordRef) (existing : RecordKind)
  /-- A stored value that a record refers to could not be had. -/
  | lookup (record : RecordRef) (fault : LookupFault)
  /-- A record maps to a backend without a host pattern. -/
  | sideFile (record backend : RecordRef)
  | cancelled
  deriving DecidableEq

namespace PassFault

/-- The record that a fault is about. -/
def record? : PassFault → Option RecordRef
  | .mapping record _ => some record
  | .collision record _ => some record
  | .lookup record _ => some record
  | .sideFile record _ => some record
  | .cancelled => none

/-- The message that is reported on a record, which does not name the record again. -/
def statusMessage : PassFault → String
  | .mapping _ fault => fault.message
  | .collision record existing =>
    "name " ++ record.name ++ " already used by resource of kind " ++ existing.name
  | .lookup _ fault => fault.message
  | .sideFile _ backend => "regex not found in backend: " ++ backend.space ++ "/" ++ backend.name
  | .cancelled => "synthesis cancelled"

/-- The message of a fault. -/
def message (e : PassFault) : String :=
  match e with
  | .mapping record _ | .lookup record _ | .sideFile record _ =>
    record.text ++ ": " ++ e.statusMessage
  | .collision _ _ | .cancelled => e.statusMessage

/-- The fault of a record that cannot be taken up. -/
def ofClaim (record : RecordRef) : ClaimFault → PassFault
  | .cancelled => .cancelled
  | .collision existing => .collision record existing
  | .invalid fault => .mapping record fault

end PassFault

/-! ## Work on side files -/

/-- How far a pass has come: how often it has looked whether it is cancelled, and what it has
read. -/
structure Course where
  looks : Nat
  reads : List StoreRef
  deriving DecidableEq

/-- A pass that has taken up all records has looked at its start and before each of them. -/
def Course.afterFleet (f : Fleet) : Course := ⟨f.refs.length + 1, []⟩

/-- A computation that reads stored values and may fail. -/
abbrev Reading (α : Type) := ExceptT PassFault (StateM Course) α

/-- What the work on side files has brought about. -/
structure Progress where
  files : KeyMap String
  /-- The lines of the environment. -/
  environment : List String

/-- Nothing yet. -/
def Progress.none : Progress := ⟨.empty, []⟩

namespace Reading

variable (store : Store) (cancel : Cancellation)

/-- Stops a cancelled pass. -/
def checkpoint : Reading Unit := do
  let course ← get
  set (⟨course.looks + 1, course.reads⟩ : Course)
  if cancel.holds course.looks course.reads.length then throw .cancelled

/-- Reads a stored value as text. -/
def value (owner : RecordRef) (use : FileUse) (ref : StoreRef) : Reading String := do
  checkpoint cancel
  modify (fun course => ⟨course.looks, course.reads ++ [ref]⟩)
  match store ref with
  | .error cause => throw (.lookup owner (.failed ref cause))
  | .ok none => throw (.lookup owner (.missing use ref))
  | .ok (some bytes) => return Text.ofBytes bytes

/-- The content of a source. -/
def content (owner : RecordRef) (use : FileUse) : Section.Source → Reading String
  | .inline content => return content
  | .stored refs => do
    let values ← refs.mapM (value store cancel owner use)
    return String.intercalate "\n" (values.map Text.trim)

/-- The value of a variable. -/
def variableValue (owner : RecordRef) : Section.VariableValue → Reading String
  | .literal value => return value
  | .secret ref => value store cancel owner .header ref

/-- Does one task. -/
def task (p : Progress) : Task → Reading Progress
  | .checkpoint => do
    checkpoint cancel
    return p
  | .find owner use path source => do
    let content ← content store cancel owner use source
    return { p with files := p.files.insert path content }
  | .put path content => return { p with files := p.files.insert path content }
  | .define owner v => do
    let value ← variableValue store cancel owner v.value
    return { p with environment := p.environment ++ [v.name ++ "=" ++ value] }
  | .refuse owner backend => throw (.sideFile owner backend)

/-- Does a row of tasks. -/
def tasks (l : List Task) : Reading Progress := l.foldlM (task store cancel) .none

end Reading

/-- All files, with the variables of the environment among them. -/
def Progress.allFiles (p : Progress) : KeyMap String :=
  if p.environment.isEmpty then p.files
  else p.files.insert SideFile.envPath (String.intercalate "\n" p.environment)

/-! ## Passes -/

/-- The phase that is reported on a record. -/
inductive Phase
  /-- The record was used in a pass that succeeded. -/
  | active
  | error
  deriving DecidableEq

/-- What is reported on a record. -/
structure StatusWrite where
  record : RecordRef
  phase : Phase
  message : String
  deriving DecidableEq

/-- What came of a pass: its result, what it read, and what it reports. -/
structure Outcome where
  result : Except PassFault ArtifactSet
  reads : List StoreRef
  statuses : List StatusWrite

namespace Pass

/-- What identifies an instance. -/
def instanceRef (i : InstanceRecord) : RecordRef := i.ref .proxyInstance ""

/-- Checks the instance and takes up the records. -/
def prepare (cancel : Cancellation) (i : InstanceRecord) (records : Records) :
    Except PassFault (Section.Instance × Fleet) := do
  if cancel.holds 0 0 then throw .cancelled
  let owner := instanceRef i
  let content ← (Section.Instance.ofSpec owner.space owner.name i.spec).mapError (.mapping owner)
  let fleet ← (Fleet.ofRecords cancel owner records).mapError (fun e => .ofClaim e.1 e.2)
  return (content, fleet)

/-- What is reported after a pass that succeeded: every record is in use, the instance last. -/
def successStatuses (owner : RecordRef) (used : List RecordRef) : List StatusWrite :=
  (used ++ [owner]).map (fun r => ⟨r, .active, ""⟩)

/-- What is reported after a pass that failed: the fault, on the record that it is about and then
on the instance.  Nothing is reported after a cancelled pass. -/
def failureStatuses (owner : RecordRef) (e : PassFault) : List StatusWrite :=
  if e = .cancelled then []
  else
    ((e.record?.filter (fun r => r ≠ owner)).toList ++ [owner]).map
      (fun r => ⟨r, .error, e.statusMessage⟩)

/-- Runs a pass. -/
def run (store : Store) (cancel : Cancellation) (i : InstanceRecord) (records : Records) :
    Outcome :=
  let owner := instanceRef i
  match prepare cancel i records with
  | .error e => ⟨.error e, [], failureStatuses owner e⟩
  | .ok (content, fleet) =>
    let work := Reading.tasks store cancel (SideFile.tasks owner content fleet)
    match work.run.run (Course.afterFleet fleet) with
    | (.error e, course) => ⟨.error e, course.reads, failureStatuses owner e⟩
    | (.ok p, course) =>
      ⟨.ok ⟨Fragment.render (fleet.fragments content), p.allFiles⟩, course.reads,
        successStatuses owner fleet.refs⟩

end Pass

end ProxyFleet
