import ProxyFleet.Section.Backend
import ProxyFleet.Section.Frontend

/-!
# Listens

A listen is a frontend and a backend under one name, checked once.  The frontend sends everything
to the backend, and each half keeps the timeouts that its kind of section accepts.
-/

namespace ProxyFleet.Section

/-- A frontend and a backend under one name. -/
structure Listen where
  name : String
  base : Base
  binds : List Bind
  pool : Pool
  /-- Added to every certificate list of the binds. -/
  hostCertificate : Option CertificateElement
  deriving DecidableEq

namespace Listen

/-- The shared settings with the timeouts that a kind of section accepts. -/
def halfBase (l : Listen) (scope : TimeoutScope) : Base :=
  { l.base with timeouts := l.base.timeouts.project scope }

/-- The half that listens. -/
def frontend (l : Listen) : Frontend :=
  ⟨l.name, l.halfBase .frontend, l.binds, [], some l.name⟩

/-- The half that serves. -/
def backend (l : Listen) : Backend := ⟨l.name, l.halfBase .backend, l.pool, none, none⟩

/-- Checks a declared listen. -/
def ofSpec (space name : String) (l : Spec.Listen) : Except Fault Listen := do
  let base ← Base.ofSpec space .listen l.base
  let timeouts ← base.timeouts.setCheck l.checkTimeout
  let binds ← l.binds.mapM (Bind.ofSpec space)
  let servers ← l.servers.mapM (Server.ofSpec space)
  let templates ← l.templates.mapM (ServerTemplate.ofSpec space)
  let cookie ← l.cookie.mapM Cookie.ofSpec
  let hostCertificate ← l.hostCertificate.mapM (CertificateElement.ofSpec space)
  return {
    name
    base := { base with timeouts }
    binds
    pool := {
      servers
      templates
      balance := balanceOf l.balance
      hashType := l.hashType.map HashType.ofSpec
      redispatch := l.redispatch.getD false
      cookie
      healthCheck := HealthCheck.ofSpec l.httpCheck l.tcpCheck }
    hostCertificate }

end Listen

end ProxyFleet.Section
