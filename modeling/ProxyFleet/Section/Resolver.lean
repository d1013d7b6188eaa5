import ProxyFleet.Fragment
import ProxyFleet.Section.Value
import ProxyFleet.Spec.Section

/-!
# Resolvers

How the names of servers are looked up while the proxy runs.
-/

namespace ProxyFleet.Section

/-- A server that names are looked up at. -/
structure Nameserver where
  name : String
  address : String
  port : Port
  deriving DecidableEq

namespace Nameserver

/-- The statement of a server. -/
def statement (n : Nameserver) : String :=
  Section.statement ["nameserver", n.name, n.address ++ ":" ++ n.port.text]

/-- Checks a declared server. -/
def ofSpec (n : Spec.Nameserver) : Except Fault Nameserver := do
  return ⟨n.name, n.address, ← Section.port n.port⟩

end Nameserver

/-- How many milliseconds the last answer is kept, by the kind of answer. -/
structure Hold where
  nx : Option Nat
  obsolete : Option Nat
  other : Option Nat
  refused : Option Nat
  timeout : Option Nat
  valid : Option Nat
  deriving DecidableEq

namespace Hold

/-- The lengths of time by the name of the kind of answer. -/
def toList (h : Hold) : List (String × Option Nat) :=
  [("nx", h.nx), ("obsolete", h.obsolete), ("other", h.other), ("refused", h.refused),
    ("timeout", h.timeout), ("valid", h.valid)]

/-- The statements of the lengths of time. -/
def statements (h : Hold) : List String :=
  h.toList.filterMap (fun e => e.2.map (fun n => statement ["hold", e.1, toString n]))

/-- Checks declared lengths of time. -/
def ofSpec (h : Spec.Hold) : Except Fault Hold := do
  return ⟨← millis? "hold nx" h.nx, ← millis? "hold obsolete" h.obsolete,
    ← millis? "hold other" h.other, ← millis? "hold refused" h.refused,
    ← millis? "hold timeout" h.timeout, ← millis? "hold valid" h.valid⟩

end Hold

/-- A section of resolvers. -/
structure Resolver where
  name : String
  nameservers : List Nameserver
  acceptedPayloadSize : Option Int64
  hold : Hold
  /-- In milliseconds. -/
  timeoutResolve : Nat
  /-- In milliseconds. -/
  timeoutRetry : Nat
  parseResolvConf : Bool
  resolveRetries : Int64
  deriving DecidableEq

namespace Resolver

/-- The timeout that stands where none is declared, in milliseconds. -/
def defaultTimeout : Nat := 1000

/-- The number of retries that stands where none is declared. -/
def defaultRetries : Int64 := 3

/-- The section of resolvers. -/
def fragment (r : Resolver) : Fragment where
  kind := .resolvers
  name := some r.name
  statements :=
    r.nameservers.map Nameserver.statement ++
      (r.acceptedPayloadSize.map (fun n => statement ["accepted_payload_size", digits n])).toList ++
      r.hold.statements ++
      [statement ["timeout", "resolve", toString r.timeoutResolve],
        statement ["timeout", "retry", toString r.timeoutRetry]] ++
      flag "parse-resolv-conf" r.parseResolvConf ++
      [statement ["resolve_retries", digits r.resolveRetries]]

/-- Checks declared resolvers. -/
def ofSpec (name : String) (r : Spec.Resolver) : Except Fault Resolver := do
  let nameservers ← r.nameservers.mapM Nameserver.ofSpec
  let hold ← Hold.ofSpec (r.hold.getD .none)
  let timeouts := r.timeouts.getD .none
  let resolve ← millis? "timeout resolve" timeouts.resolve
  let retry ← millis? "timeout retry" timeouts.retry
  return {
    name
    nameservers
    acceptedPayloadSize := r.acceptedPayloadSize
    hold
    timeoutResolve := resolve.getD defaultTimeout
    timeoutRetry := retry.getD defaultTimeout
    parseResolvConf := r.parseResolvConf.getD false
    resolveRetries := r.resolveRetries.getD defaultRetries }

end Resolver

end ProxyFleet.Section
