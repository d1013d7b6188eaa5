import ProxyFleet.Selector
import ProxyFleet.Timestamp

/-!
# Metadata

What identifies and describes an object of a cluster.  Users hand in a part of it; the rest is kept
by the cluster for itself, such as when the object was made, who owns it, and who has set which of
its fields.
-/

namespace ProxyFleet

/-- An object that another one belongs to. -/
structure OwnerReference where
  apiVersion : String
  /-- Whether the owner is kept until this object is gone. -/
  blocksDeletion : Option Bool
  isController : Option Bool
  kind : String
  name : String
  uid : String

/-- The members of a reference to an owner. -/
def OwnerReference.schema : Schema OwnerReference OwnerReference :=
  mk <$> .lenient "apiVersion" .text "" (·.apiVersion)
    <*> .omitted "blockOwnerDeletion" .bool (·.blocksDeletion)
    <*> .omitted "controller" .bool (·.isController)
    <*> .lenient "kind" .text "" (·.kind)
    <*> .lenient "name" .text "" (·.name)
    <*> .lenient "uid" .text "" (·.uid)

/-- Which fields of an object somebody has set. -/
structure ManagedFields where
  apiVersion : Option String
  fieldsType : Option String
  /-- The fields, in a form of their own. -/
  fields : Option { json : Json // json ≠ .null }
  manager : Option String
  operation : Option String
  subresource : Option String
  time : Option Timestamp

/-- The members of fields that somebody has set. -/
def ManagedFields.schema : Schema ManagedFields ManagedFields :=
  mk <$> .omitted "apiVersion" .text (·.apiVersion)
    <*> .omitted "fieldsType" .text (·.fieldsType)
    <*> .omitted "fieldsV1" .given (·.fields)
    <*> .omitted "manager" .text (·.manager)
    <*> .omitted "operation" .text (·.operation)
    <*> .omitted "subresource" .text (·.subresource)
    <*> .omitted "time" .timestamp (·.time)

/-- What identifies and describes an object. -/
structure Metadata where
  annotations : Option (KeyMap String)
  created : Option Timestamp
  /-- How many seconds the object may take to end. -/
  deletionGrace : Option Int64
  deleted : Option Timestamp
  finalizers : Option (List String)
  generateName : Option String
  generation : Option Int64
  labels : Option Labels
  managedFields : Option (List ManagedFields)
  name : Option String
  space : Option String
  owners : Option (List OwnerReference)
  resourceVersion : Option String
  selfLink : Option String
  uid : Option String

namespace Metadata

/-- No metadata. -/
def none : Metadata :=
  ⟨.none, .none, .none, .none, .none, .none, .none, .none, .none, .none, .none, .none, .none, .none,
    .none⟩

/-- The members of metadata. -/
def schema : Schema Metadata Metadata :=
  mk <$> .omitted "annotations" Format.text.map (·.annotations)
    <*> .omitted "creationTimestamp" .timestamp (·.created)
    <*> .omitted "deletionGracePeriodSeconds" .int64 (·.deletionGrace)
    <*> .omitted "deletionTimestamp" .timestamp (·.deleted)
    <*> .omitted "finalizers" Format.text.list (·.finalizers)
    <*> .omitted "generateName" .text (·.generateName)
    <*> .omitted "generation" .int64 (·.generation)
    <*> .omitted "labels" Format.text.map (·.labels)
    <*> .omitted "managedFields" ManagedFields.schema.format.list (·.managedFields)
    <*> .omitted "name" .text (·.name)
    <*> .omitted "namespace" .text (·.space)
    <*> .omitted "ownerReferences" OwnerReference.schema.format.list (·.owners)
    <*> .omitted "resourceVersion" .text (·.resourceVersion)
    <*> .omitted "selfLink" .text (·.selfLink)
    <*> .omitted "uid" .text (·.uid)

/-- The name, or else the text that names are generated from. -/
def anyName (m : Metadata) : String := (m.name.or m.generateName).getD ""

/-- The labels, none if they were left out. -/
def allLabels (m : Metadata) : Labels := m.labels.getD .empty

end Metadata

end ProxyFleet
