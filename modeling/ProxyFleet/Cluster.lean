import ProxyFleet.Cluster.Target
import ProxyFleet.Json

/-!
# Clusters

The objects that a controller finds when it looks.  An object is asked for by its kind, namespace
and name; all objects of a kind in a namespace are listed in the order in which the cluster holds
them.  The cluster answers about whatever the path of the request leads to.

* `Cluster.read` : one object, and why it could not be had.
* `Cluster.readAll` : all objects of a kind; a single one that cannot be read makes it fail.
-/

namespace ProxyFleet

/-- The objects of a cluster. -/
structure Cluster where
  objects : List Json

/-- Why an object could not be had. -/
inductive ReadFault
  /-- The cluster holds no such object. -/
  | absent
  /-- The request cannot be made, or the object is not what it should be. -/
  | failed
  deriving DecidableEq

namespace Cluster

/-- A text in the metadata of an object. -/
def metadataText (key : String) (o : Json) : Option String := do
  (← (← o.member? "metadata").member? key).text?

/-- Whether an object is of a kind and in a namespace. -/
def isOf (kind space : String) (o : Json) : Bool :=
  (o.member? "kind").bind Json.text? = some kind && metadataText "namespace" o = some space

/-- The objects of a kind in a namespace. -/
def list (c : Cluster) (kind space : String) : List Json := c.objects.filter (isOf kind space)

/-- The object of a kind with a name. -/
def find? (c : Cluster) (kind space name : String) : Option Json :=
  (c.list kind space).find? (fun o => metadataText "name" o = some name)

/-- The object of a kind that a path leads to. -/
def at? (c : Cluster) (kind : ObjectKind) (path : String) : Option Json :=
  (kind.objectAt? path).bind (fun (space, name) => c.find? kind.name space name)

/-- Reads the object of a kind with a name, which may not be empty. -/
def read {α : Type} (c : Cluster) (kind : ObjectKind) (space name : String)
    (read : Json → Option α) : Except ReadFault α :=
  if name.isEmpty then .error .failed
  else
    match Target.path? (kind.object space name) with
    | none => .error .failed
    | some path =>
      match c.at? kind path with
      | none => .error .absent
      | some o => (read o).elim (.error .failed) .ok

/-- Reads all objects of a kind in a namespace, none of which may fail. -/
def readAll {α : Type} (c : Cluster) (kind : ObjectKind) (space : String)
    (read : Json → Option α) : Option (List α) := do
  let path ← Target.path? (kind.collection space ++ "?")
  let space ← kind.collectionAt? path
  (c.list kind.name space).mapM read

end Cluster

end ProxyFleet
