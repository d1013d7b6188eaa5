/-!
# Stored values

Values that records refer to stand under keys of config maps and secrets.  A store answers a
reference with the bytes of the value, with nothing when the object lacks the key, or with the
reason why it could not be read.
-/

namespace ProxyFleet

/-- The kinds of objects that hold values. -/
inductive StoreKind
  | configMap
  | secret
  deriving DecidableEq

/-- The name of a kind. -/
def StoreKind.name : StoreKind → String
  | .configMap => "configmap"
  | .secret => "secret"

/-- A key of a config map or secret. -/
structure StoreRef where
  kind : StoreKind
  space : String
  name : String
  key : String
  deriving DecidableEq

/-- The object that a reference points into. -/
def StoreRef.object (r : StoreRef) : String := r.space ++ "/" ++ r.name

/-- What a store answers. -/
abbrev StoreAnswer := Except String (Option (List UInt8))

/-- A store of values.  Nothing is kept between two reads. -/
abbrev Store := StoreRef → StoreAnswer

end ProxyFleet
