import ProxyFleet.Record
import ProxyFleet.Section.Instance
import ProxyFleet.Section.Listen
import ProxyFleet.Section.Resolver

/-!
# Fleets

The records of one instance, ordered, named apart and checked.  Records are taken up kind by kind,
listens first, then frontends, backends and resolvers, and within a kind in the order of their
namespaces and names; the order in which they were handed in does not matter.  Every record claims
its name, and no two records may claim the same one, nor the instance's.

A pass looks now and then whether it is cancelled: when it starts, before it takes up a record,
before it turns to the side files of a record, and before it reads a stored value.  What it does
depends on when it is cancelled only through the look that finds it so.  A pass that is cancelled
takes up no further record.
-/

namespace ProxyFleet

/-! ## Cancellation -/

/-- When a pass is cancelled. -/
inductive Cancellation
  | never
  /-- Before the pass starts. -/
  | before
  /-- Between the look of the given number and the next one. -/
  | afterLook (number : Nat)
  /-- While the read of the given number is answered; that read still succeeds. -/
  | duringRead (number : Nat)
  deriving DecidableEq

/-- Whether a pass is cancelled that has looked so often before and has made so many reads. -/
def Cancellation.holds : Cancellation → Nat → Nat → Bool
  | .never, _, _ => false
  | .before, _, _ => true
  | .afterLook number, looks, _ => decide (number ≤ looks)
  | .duringRead number, _, reads => decide (0 < number ∧ number ≤ reads)

/-! ## Records -/

/-- What identifies a record. -/
structure RecordRef where
  kind : RecordKind
  space : String
  name : String
  deriving DecidableEq

/-- How messages name a record. -/
def RecordRef.text (r : RecordRef) : String := r.kind.name ++ " " ++ r.space ++ "/" ++ r.name

/-- The records that an instance selects, in any order. -/
structure Records where
  listens : List ListenRecord
  frontends : List FrontendRecord
  backends : List BackendRecord
  resolvers : List ResolverRecord

/-- A checked record: what identifies it, its labels, and its section. -/
structure Entry (α : Type) where
  ref : RecordRef
  labels : Labels
  content : α

/-- The checked records of one instance, each kind in order. -/
structure Fleet where
  listens : List (Entry Section.Listen)
  frontends : List (Entry Section.Frontend)
  backends : List (Entry Section.Backend)
  resolvers : List (Entry Section.Resolver)

namespace Record

variable {σ τ : Type}

/-- Whether a record stands before another: by its namespace, where one without comes first, and
then by its name. -/
def before (a b : Record σ τ) : Bool :=
  match a.metadata.space, b.metadata.space with
  | none, some _ => true
  | some _, none => false
  | none, none => decide (a.metadata.anyName < b.metadata.anyName)
  | some s, some t =>
    decide (s < t) || (decide (s = t) && decide (a.metadata.anyName < b.metadata.anyName))

/-- Records in order.  Those of which neither stands before the other keep their places. -/
def sorted (records : List (Record σ τ)) : List (Record σ τ) :=
  records.mergeSort (fun a b => !b.before a)

/-- What identifies a record.  One without a namespace counts as one of the given namespace. -/
def ref (kind : RecordKind) (space : String) (r : Record σ τ) : RecordRef :=
  ⟨kind, r.metadata.space.getD space, r.metadata.anyName⟩

end Record

/-- Why a record cannot be taken up. -/
inductive ClaimFault
  /-- The pass is cancelled. -/
  | cancelled
  /-- Its name is that of an earlier record of the given kind. -/
  | collision (existing : RecordKind)
  /-- Its specification is not valid. -/
  | invalid (fault : Fault)
  deriving DecidableEq

/-- The names that are taken, and the kinds of the records that took them. -/
abbrev Claims := List (String × RecordKind)

/-- Claims the name of a record and checks it.  A pass has looked whether it is cancelled when it
started and before each record that it took up, that is, once for every name that is taken. -/
def Entry.ofRecord {σ τ α : Type} (cancel : Cancellation) (kind : RecordKind) (space : String)
    (check : String → σ → Except Fault α) (claims : Claims) (r : Record σ τ) :
    Except (RecordRef × ClaimFault) (Entry α) :=
  let ref := r.ref kind space
  if cancel.holds claims.length 0 then .error (ref, .cancelled)
  else
    match claims.lookup ref.name with
    | some existing => .error (ref, .collision existing)
    | none =>
      match check ref.name r.spec with
      | .error fault => .error (ref, .invalid fault)
      | .ok content => .ok ⟨ref, r.metadata.allLabels, content⟩

/-- Takes up ordered records of one kind, and adds their names to the claims. -/
def Entry.ofRecords {σ τ α : Type} (cancel : Cancellation) (kind : RecordKind) (space : String)
    (check : String → σ → Except Fault α) :
    Claims → List (Record σ τ) → Except (RecordRef × ClaimFault) (List (Entry α) × Claims)
  | claims, [] => .ok ([], claims)
  | claims, r :: rest => do
    let entry ← ofRecord cancel kind space check claims r
    let (entries, claims) ←
      ofRecords cancel kind space check ((entry.ref.name, kind) :: claims) rest
    return (entry :: entries, claims)

namespace Fleet

/-- Takes up all records of an instance. -/
def ofRecords (cancel : Cancellation) (owner : RecordRef) (records : Records) :
    Except (RecordRef × ClaimFault) Fleet := do
  let claims : Claims := [(owner.name, .proxyInstance)]
  let (listens, claims) ← Entry.ofRecords cancel .listen owner.space
    (Section.Listen.ofSpec owner.space) claims (Record.sorted records.listens)
  let (frontends, claims) ← Entry.ofRecords cancel .frontend owner.space
    (Section.Frontend.ofSpec owner.space) claims (Record.sorted records.frontends)
  let (backends, claims) ← Entry.ofRecords cancel .backend owner.space
    (Section.Backend.ofSpec owner.space) claims (Record.sorted records.backends)
  let (resolvers, _) ← Entry.ofRecords cancel .resolver owner.space
    Section.Resolver.ofSpec claims (Record.sorted records.resolvers)
  return ⟨listens, frontends, backends, resolvers⟩

/-- What identifies the records of a fleet, kind by kind. -/
def refs (f : Fleet) : List RecordRef :=
  f.listens.map (·.ref) ++ f.frontends.map (·.ref) ++ f.backends.map (·.ref) ++
    f.resolvers.map (·.ref)

/-- The sections of the document: those of the instance and the resolvers, the frontends of the
listens before the others, the backends likewise, and metrics at the end. -/
def fragments (i : Section.Instance) (f : Fleet) : List Fragment :=
  [i.global.fragment, i.defaults.fragment] ++
    f.resolvers.map (·.content.fragment) ++
    f.listens.map (·.content.frontend.fragment) ++
    f.frontends.map (·.content.fragment) ++
    f.listens.map (·.content.backend.fragment) ++
    f.backends.map (·.content.fragment) ++
    (i.metrics.map (·.fragment)).toList

end Fleet

end ProxyFleet
