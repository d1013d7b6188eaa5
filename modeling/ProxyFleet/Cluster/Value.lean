import ProxyFleet.Base64
import ProxyFleet.Cluster
import ProxyFleet.Record
import ProxyFleet.Store
import ProxyFleet.Text.Utf8

/-!
# Values in a cluster

Config maps hold texts and bytes under keys, secrets hold bytes.  Bytes are written in base 64, and
a null is no bytes.  The store of a cluster reads an object anew for every reference.

* `Cluster.store` : what the store of a cluster answers.
-/

namespace ProxyFleet

/-- A config map: texts and bytes by key. -/
structure ConfigMap where
  data : KeyMap String
  binaryData : KeyMap (List UInt8)

/-- A secret: bytes by key. -/
structure Secret where
  data : KeyMap (List UInt8)

/-- Reads bytes in base 64.  Null stands for no bytes. -/
def readBytes : Json → Option (List UInt8)
  | .null => some []
  | .text s => Base64.decode? s.toList
  | _ => none

/-- Reads a map that may be absent or null. -/
def readMap {α : Type} (key : String) (read : Json → Option α) (members : List (String × Json)) :
    Option (KeyMap α) :=
  match members.lookup key with
  | none | some .null => some .empty
  | some (.object entries) =>
    (entries.mapM (fun e => (read e.2).map (fun a => (e.1, a)))).map KeyMap.ofList
  | some _ => none

/-- Whether the members that an object shares with others are as they should be: its version, its
metadata, and whether it may change. -/
def hasObjectForm (members : List (String × Json)) : Bool :=
  (match members.lookup "apiVersion" with
    | none => true
    | some version => version.text? = some "v1") &&
  (Schema.readOptional "metadata" Metadata.schema.format members).isSome &&
  (Schema.readOptional "immutable" .bool members).isSome

namespace ConfigMap

/-- Reads a config map. -/
def read? : Json → Option ConfigMap
  | .object members =>
    if hasObjectForm members then do
      return ⟨← readMap "data" Json.text? members, ← readMap "binaryData" readBytes members⟩
    else none
  | _ => none

/-- The value under a key.  A text takes precedence over bytes. -/
def value? (m : ConfigMap) (key : String) : Option (List UInt8) :=
  ((m.data.get? key).map Text.utf8).or (m.binaryData.get? key)

end ConfigMap

namespace Secret

/-- Reads a secret.  Texts that are still to be stored are checked and not looked at. -/
def read? : Json → Option Secret
  | .object members =>
    if hasObjectForm members then do
      let _ ← readMap "stringData" Json.text? members
      let _ ← Schema.readOptional "type" .text members
      return ⟨← readMap "data" readBytes members⟩
    else none
  | _ => none

/-- The value under a key. -/
def value? (s : Secret) (key : String) : Option (List UInt8) := s.data.get? key

end Secret

/-- How a kind is called in a cluster. -/
def StoreKind.objectKind : StoreKind → ObjectKind
  | .configMap => ⟨"ConfigMap", "/api/v1", "configmaps"⟩
  | .secret => ⟨"Secret", "/api/v1", "secrets"⟩

/-- The message about an object that could not be read. -/
def StoreRef.faultMessage (r : StoreRef) : ReadFault → String
  | .absent => r.kind.name ++ " " ++ r.object ++ " not found"
  | .failed => "failed to get " ++ r.kind.name ++ " " ++ r.object

namespace Cluster

/-- Reads the value that an object of the referenced kind holds. -/
def value (c : Cluster) (r : StoreRef) : Except ReadFault (Option (List UInt8)) :=
  match r.kind with
  | .configMap =>
    (c.read r.kind.objectKind r.space r.name ConfigMap.read?).map (·.value? r.key)
  | .secret => (c.read r.kind.objectKind r.space r.name Secret.read?).map (·.value? r.key)

/-- The values of a cluster. -/
def store (c : Cluster) : Store := fun r => (c.value r).mapError r.faultMessage

end Cluster

end ProxyFleet
