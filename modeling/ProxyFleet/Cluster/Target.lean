import ProxyFleet.Text.Search
import ProxyFleet.Text.Utf8

/-!
# Request targets

A request says in one text what it is about: a path, and perhaps a query after a question mark and
a fragment after a number sign.  The cluster gets the path alone.  In it a namespace and the name
of a kind reach up to a slash each, and the name of an object is all that follows.  Names go into
the text as they are, so a name with one of the marks in it cuts the path short, and the cluster
answers about something else.

* `path?_eq_self` : a text without marks is its own path.
* `objectAt?_object`, `objectAt?_status` : an object is found where it and its status are asked
  for, unless its namespace has a slash.
-/

namespace ProxyFleet

/-! ## Texts -/

namespace Target

/-- The most bytes that a target may have. -/
def maxBytes : Nat := 65534

/-- Whether a character ends the path. -/
def endsPath (c : Char) : Bool := c = '?' || c = '#'

/-- Whether a character may stand in a path. -/
def isPathChar (c : Char) : Bool :=
  ' ' < c && c ≠ '<' && c ≠ '>' && c ≠ '\x60' && c ≠ '\x7f'

/-- Whether a character may stand in a query. -/
def isQueryChar (c : Char) : Bool :=
  ' ' < c && c ≠ '\x22' && c ≠ '<' && c ≠ '>' && c ≠ '\x7f'

/-- Whether what follows a path may follow it.  Anything may stand in a fragment. -/
def isTail : List Char → Bool
  | '?' :: query => (query.takeWhile (· ≠ '#')).all isQueryChar
  | _ => true

/-- The path of a target that can be sent. -/
def path? (target : String) : Option String :=
  let path := target.toList.takeWhile (fun c => !endsPath c)
  let tail := target.toList.dropWhile (fun c => !endsPath c)
  if (Text.utf8 target).length ≤ maxBytes && path.all isPathChar && isTail tail then
    some (String.ofList path)
  else none

/-- A text without marks is its own path, provided that it can be sent. -/
theorem path?_eq_self {target : String} (hl : (Text.utf8 target).length ≤ maxBytes)
    (hp : ∀ c ∈ target.toList, isPathChar c = true) (he : ∀ c ∈ target.toList, endsPath c = false) :
    path? target = some target := by
  have key : ∀ l : List Char, (∀ c ∈ l, endsPath c = false) →
      l.takeWhile (fun c => !endsPath c) = l ∧ l.dropWhile (fun c => !endsPath c) = [] := by
    intro l h
    induction l with
    | nil => simp
    | cons c rest ih => simp [h c, ih (fun d hd => h d (List.mem_cons_of_mem c hd))]
  obtain ⟨ht, hd⟩ := key target.toList he
  simp [path?, ht, hd, hl, List.all_eq_true.2 hp, isTail]

/-- Cuts a text at its first slash. -/
def cut? (s : String) : Option (String × String) :=
  match s.toList.dropWhile (· ≠ '/') with
  | [] => none
  | _ :: after => some (String.ofList (s.toList.takeWhile (· ≠ '/')), String.ofList after)

/-- A text is cut where the first slash was put in. -/
theorem cut?_append {a : String} (h : '/' ∉ a.toList) (b : String) :
    cut? (a ++ "/" ++ b) = some (a, b) := by
  have key : ∀ l : List Char, '/' ∉ l →
      (l ++ '/' :: b.toList).takeWhile (· ≠ '/') = l ∧
        (l ++ '/' :: b.toList).dropWhile (· ≠ '/') = '/' :: b.toList := by
    intro l hl
    induction l with
    | nil => simp
    | cons c rest ih =>
      rw [List.mem_cons, not_or] at hl
      simpa [Ne.symm hl.1] using ih hl.2
  obtain ⟨ht, hd⟩ := key a.toList h
  have e : (a ++ "/" ++ b).toList = a.toList ++ '/' :: b.toList := by simp
  rw [cut?, e, hd, ht]
  simp

end Target

/-! ## Places -/

/-- How a kind of object is called. -/
structure ObjectKind where
  /-- The name that objects bear. -/
  name : String
  /-- The path under which the cluster has the version of the kind. -/
  root : String
  /-- The name in paths. -/
  plural : String
  deriving DecidableEq

namespace ObjectKind

/-- The path of all namespaces. -/
def spaces (k : ObjectKind) : String := k.root ++ "/namespaces/"

/-- Where the objects of a kind in a namespace are asked for. -/
def collection (k : ObjectKind) (space : String) : String := k.spaces ++ (space ++ "/" ++ k.plural)

/-- Where the object of a kind with a name is asked for. -/
def object (k : ObjectKind) (space name : String) : String :=
  k.spaces ++ (space ++ "/" ++ k.plural ++ "/" ++ name)

/-- Where the status of an object is asked for. -/
def status (k : ObjectKind) (space name : String) : String := k.object space name ++ "/status"

/-- The namespace whose objects of a kind have a path. -/
def collectionAt? (k : ObjectKind) (path : String) : Option String := do
  let (space, plural) ← Target.cut? (← Text.withoutStart k.spaces path)
  if plural = k.plural then some space else none

/-- The namespace and the name of the object of a kind that has a path, or whose status has it. -/
def objectAt? (k : ObjectKind) (path : String) : Option (String × String) := do
  let (space, rest) ← Target.cut? (← Text.withoutStart k.spaces path)
  let (plural, name) ← Target.cut? rest
  if plural = k.plural then some (space, (Text.withoutEnd "/status" name).getD name) else none

/-- The objects of a namespace are found where they are asked for. -/
theorem collectionAt?_collection {k : ObjectKind} {space : String} (hs : '/' ∉ space.toList) :
    k.collectionAt? (k.collection space) = some space := by
  simp [collectionAt?, collection, Text.withoutStart_eq_some_iff.2 rfl, Target.cut?_append hs]

/-- What is found at a path that goes on with any text after the kind. -/
theorem objectAt?_append {k : ObjectKind} {space : String} (hs : '/' ∉ space.toList)
    (hk : '/' ∉ k.plural.toList) (rest : String) :
    k.objectAt? (k.object space rest) =
      some (space, (Text.withoutEnd "/status" rest).getD rest) := by
  have h : k.object space rest = k.spaces ++ (space ++ "/" ++ (k.plural ++ "/" ++ rest)) := by
    simp [object, String.append_assoc]
  simp [objectAt?, h, Text.withoutStart_eq_some_iff.2 rfl, Target.cut?_append hs,
    Target.cut?_append hk]

/-- An object is found where it is asked for, unless its name ends like the path of a status. -/
theorem objectAt?_object {k : ObjectKind} {space name : String} (hs : '/' ∉ space.toList)
    (hk : '/' ∉ k.plural.toList) (hn : Text.withoutEnd "/status" name = none) :
    k.objectAt? (k.object space name) = some (space, name) := by
  simp [objectAt?_append hs hk, hn]

/-- An object is found where its status is asked for. -/
theorem objectAt?_status {k : ObjectKind} {space : String} (hs : '/' ∉ space.toList)
    (hk : '/' ∉ k.plural.toList) (name : String) :
    k.objectAt? (k.status space name) = some (space, name) := by
  have h : k.status space name = k.object space (name ++ "/status") := by
    simp [status, object, String.append_assoc]
  rw [h, objectAt?_append hs hk, Text.withoutEnd_eq_some_iff.2 rfl]
  rfl

end ObjectKind

end ProxyFleet
