import ProxyFleet.KeyMap
import ProxyFleet.Section.Value

/-!
# Timeouts of a section

Each kind of section accepts its own timeouts.  A `Timeouts` value belongs to one kind, its scope,
and holds a number of milliseconds under some of the names that the scope accepts.

* `Timeouts.get?_insert` : what stands under a name after an insertion.
* `Timeouts.insert_eq_error_iff` : an insertion fails exactly on a name the scope does not accept.
-/

namespace ProxyFleet.Section

/-- The kinds of sections that accept timeouts. -/
inductive TimeoutScope
  | frontend
  | backend
  /-- Both halves of a listen. -/
  | listen
  | defaults
  deriving DecidableEq

/-- The names that a scope accepts, in the order in which they are written. -/
def TimeoutScope.keys : TimeoutScope → List String
  | .frontend => ["client", "http-keep-alive", "http-request"]
  | .backend =>
    ["check", "connect", "http-keep-alive", "http-request", "queue", "server", "tunnel"]
  | .listen =>
    ["check", "client", "connect", "http-keep-alive", "http-request", "queue", "server", "tunnel"]
  | .defaults =>
    ["check", "client", "client-fin", "connect", "http-keep-alive", "http-request", "queue",
      "server", "server-fin", "tunnel"]

/-- Timeouts in milliseconds by name. -/
structure Timeouts where
  scope : TimeoutScope
  values : KeyMap Nat
  deriving DecidableEq

namespace Timeouts

/-- No timeouts yet. -/
def empty (scope : TimeoutScope) : Timeouts := ⟨scope, .empty⟩

/-- Sets a timeout, in place of the one with the same name. -/
def insert (t : Timeouts) (key : String) (millis : Nat) : Except Fault Timeouts :=
  if key ∈ t.scope.keys then .ok { t with values := t.values.insert key millis }
  else .error (.unknownTimeout key)

/-- The timeout of a name. -/
def get? (t : Timeouts) (key : String) : Option Nat := t.values.get? key

/-- Whether no timeout is set. -/
def isEmpty (t : Timeouts) : Bool := t.values.isEmpty

/-- The timeouts in the order in which they are written. -/
def toList (t : Timeouts) : List (String × Nat) :=
  t.scope.keys.filterMap (fun key => (t.get? key).map (fun millis => (key, millis)))

/-- The timeouts that another scope accepts too. -/
def project (t : Timeouts) (scope : TimeoutScope) : Timeouts :=
  ⟨scope, t.values.filterKeys (fun key => scope.keys.contains key)⟩

/-- The statements that set the timeouts. -/
def statements (t : Timeouts) : List String :=
  t.toList.map (fun e => statement ["timeout", e.1, toString e.2])

/-- Declared timeouts in key order.  A length of time is looked at before its name. -/
def ofSpec (scope : TimeoutScope) (declared : KeyMap Duration) : Except Fault Timeouts :=
  declared.entries.foldlM (fun t e => do t.insert e.1 (← millis ("timeout " ++ e.1) e.2))
    (empty scope)

/-- Sets the timeout of checks, if one is declared. -/
def setCheck (t : Timeouts) (declared : Option Duration) : Except Fault Timeouts :=
  match declared with
  | none => .ok t
  | some d => do t.insert "check" (← millis "timeout check" d)

/-- An insertion fails exactly on a name that the scope does not accept. -/
theorem insert_eq_error_iff {t : Timeouts} {key : String} {millis : Nat} {e : Fault} :
    t.insert key millis = .error e ↔ key ∉ t.scope.keys ∧ e = .unknownTimeout key := by
  by_cases h : key ∈ t.scope.keys <;> simp [insert, h, eq_comm]

/-- What stands under a name after an insertion. -/
theorem get?_insert {t u : Timeouts} {key : String} {millis : Nat}
    (h : t.insert key millis = .ok u) (k : String) :
    u.get? k = if k = key then some millis else t.get? k := by
  by_cases hk : key ∈ t.scope.keys
  · simp only [insert, hk, if_true, Except.ok.injEq] at h
    simp [← h, get?]
  · simp [insert, hk] at h

end Timeouts

end ProxyFleet.Section
