import ProxyFleet.Json
import ProxyFleet.KeyMap

/-!
# Schemas of records

A `Format` tells how the values of a type are read from JSON and written as JSON.  A `Schema` does
so for the members of an object: its keys, how a value is read from them, and the members it
writes for a record.  Schemas are put together with `<$>` and `<*>` in the order of the fields of a
structure, so that each field is described once, for both directions.

A member is of one of these kinds:

* `required`: it has to be there.
* `optional`: it may be absent or null, and is written as null.
* `omitted`: it may be absent or null, and is then left out.
* `defaulted`: it may be absent, but not null; it is always written.
* `lenient`: it may be absent or null, and is always written.
* `sparse`: it may be absent, but not null; an empty value is left out.

Members that no schema names are passed over.
-/

namespace ProxyFleet

/-- How the values of a type are read from JSON and written as JSON. -/
structure Format (α : Type) where
  read : Json → Option α
  write : α → Json

/-- How a value of `α` is read from the members of an object, and how the members of that object
are written for a record of type `σ`. -/
structure Schema (σ α : Type) where
  keys : List String
  read : List (String × Json) → Option α
  write : σ → List (String × Json)

namespace Schema

variable {σ τ α β : Type}

/-- Schemas combine field by field: each reads its own members, and all are written in turn. -/
instance : Applicative (Schema σ) where
  pure a := ⟨[], fun _ => some a, fun _ => []⟩
  seq f x := ⟨f.keys ++ (x ()).keys,
    fun members => do return (← f.read members) (← (x ()).read members),
    fun s => f.write s ++ (x ()).write s⟩

/-- A member that has to be there. -/
def required (key : String) (format : Format α) (get : σ → α) : Schema σ α where
  keys := [key]
  read members := (members.lookup key).bind format.read
  write s := [(key, format.write (get s))]

/-- Reads a member that may be absent or null. -/
def readOptional (key : String) (format : Format α) (members : List (String × Json)) :
    Option (Option α) :=
  match members.lookup key with
  | none | some .null => some none
  | some json => (format.read json).map some

/-- A member that may be absent or null, and is written as null. -/
def optional (key : String) (format : Format α) (get : σ → Option α) : Schema σ (Option α) where
  keys := [key]
  read := readOptional key format
  write s := [(key, ((get s).map format.write).getD .null)]

/-- A member that may be absent or null, and is then left out. -/
def omitted (key : String) (format : Format α) (get : σ → Option α) : Schema σ (Option α) where
  keys := [key]
  read := readOptional key format
  write s := (get s).toList.map (fun a => (key, format.write a))

/-- Reads a member that may be absent, but not null. -/
def readDefaulted (key : String) (format : Format α) (default : α)
    (members : List (String × Json)) : Option α :=
  match members.lookup key with
  | none => some default
  | some json => format.read json

/-- A member that may be absent, but not null, and is always written. -/
def defaulted (key : String) (format : Format α) (default : α) (get : σ → α) : Schema σ α where
  keys := [key]
  read := readDefaulted key format default
  write s := [(key, format.write (get s))]

/-- A member that may be absent or null, which stands for its default, and is always written. -/
def lenient (key : String) (format : Format α) (default : α) (get : σ → α) : Schema σ α where
  keys := [key]
  read members := (readOptional key format members).map (·.getD default)
  write s := [(key, format.write (get s))]

/-- A member that may be absent, but not null.  Its default is what counts as empty, and an empty
value is left out. -/
def sparse (key : String) (format : Format α) (default : α) (isEmpty : α → Bool) (get : σ → α) :
    Schema σ α where
  keys := [key]
  read := readDefaulted key format default
  write s := if isEmpty (get s) then [] else [(key, format.write (get s))]

/-- The members of a part of the record, which stand among its own. -/
def inlined (schema : Schema τ α) (get : σ → τ) : Schema σ α where
  keys := schema.keys
  read := schema.read
  write s := schema.write (get s)

/-- The format of records that a schema describes completely. -/
def format (schema : Schema σ σ) : Format σ where
  read
    | .object members => schema.read members
    | _ => none
  write s := .object (schema.write s)

end Schema

namespace Format

variable {α : Type}

/-- Texts. -/
def text : Format String := ⟨Json.text?, .text⟩

/-- Truth values. -/
def bool : Format Bool where
  read
    | .bool b => some b
    | _ => none
  write := .bool

/-- Whole numbers of sixty-four bits. -/
def int64 : Format Int64 where
  read
    | .int n =>
      if Int64.minValue.toInt ≤ n ∧ n ≤ Int64.maxValue.toInt then some (.ofInt n) else none
    | _ => none
  write n := .int n.toInt

/-- Any value but null, as it is. -/
def given : Format { json : Json // json ≠ .null } where
  read
    | .null => none
    | .bool b => some ⟨.bool b, nofun⟩
    | .int n => some ⟨.int n, nofun⟩
    | .decimal digits => some ⟨.decimal digits, nofun⟩
    | .text s => some ⟨.text s, nofun⟩
    | .list items => some ⟨.list items, nofun⟩
    | .object members => some ⟨.object members, nofun⟩
  write json := json

/-- Lists. -/
def list (format : Format α) : Format (List α) where
  read
    | .list items => items.mapM format.read
    | _ => none
  write l := .list (l.map format.write)

/-- Maps from text keys. -/
def map (format : Format α) : Format (KeyMap α) where
  read
    | .object members =>
      (members.mapM (fun m => (format.read m.2).map (fun a => (m.1, a)))).map KeyMap.ofList
    | _ => none
  write m := .object (m.entries.map (fun e => (e.1, format.write e.2)))

/-- Sets of texts, in ascending order when written. -/
def textSet : Format TextSet where
  read json := (text.list.read json).map TextSet.ofList
  write s := text.list.write s.toList

/-- The name that stands for a value. -/
def nameOf [DecidableEq α] (names : List (String × α)) (a : α) : String :=
  ((names.find? (fun e => e.2 = a)).map (·.1)).getD ""

/-- One of several names.  A name may also be the only key of an object that holds null. -/
def tag [DecidableEq α] (names : List (String × α)) : Format α where
  read
    | .text name => names.lookup name
    | .object [(name, .null)] => names.lookup name
    | _ => none
  write a := .text (nameOf names a)

end Format

end ProxyFleet
