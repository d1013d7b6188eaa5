import ProxyFleet.Section.File
import ProxyFleet.Spec.Bind

/-!
# Listening addresses

The addresses a frontend listens on.  Settings of encryption count only where it is enabled, and a
certificate list only on an encrypted address.
-/

namespace ProxyFleet.Section

/-- Encryption of an address. -/
structure BindTls where
  certificate : Option Certificate
  caCertificate : Option Certificate
  verify : Option Verify
  minVersion : Option String
  deriving DecidableEq

/-- An address to listen on. -/
structure Bind where
  name : String
  address : String
  port : Port
  /-- The last port of a range, above the first one. -/
  lastPort : Option Port
  transparent : Bool
  acceptProxy : Bool
  tls : Option BindTls
  certificateList : Option CertificateList
  deriving DecidableEq

namespace Bind

/-- The certificates that the address itself refers to: its own and the one it verifies with. -/
def certificates (b : Bind) : List Certificate :=
  match b.tls with
  | none => []
  | some tls => tls.certificate.toList ++ tls.caCertificate.toList

/-- The address with its port or range of ports. -/
def endpoint (b : Bind) : String :=
  b.address ++ ":" ++ b.port.text ++ ((b.lastPort.map (fun p => "-" ++ p.text)).getD "")

/-- The words on encryption in front of the other settings. -/
def tlsWords (tls : BindTls) : List String :=
  clause "crt" (tls.certificate.map Certificate.path) ++
    clause "ca-file" (tls.caCertificate.map Certificate.path) ++ ["ssl"] ++
    clause "verify" (tls.verify.map Verify.name)

/-- The words on encryption after the other settings. -/
def lastTlsWords (list : Option CertificateList) (tls : BindTls) : List String :=
  clause "crt-list" (list.map CertificateList.path) ++ clause "ssl-min-ver" tls.minVersion

/-- The statement of an address. -/
def statement (b : Bind) : String :=
  Section.statement (["bind", b.endpoint] ++ clause "name" (nonEmpty b.name) ++
    (b.tls.map tlsWords).getD [] ++ flag "accept-proxy" b.acceptProxy ++
    flag "transparent" b.transparent ++ (b.tls.map (lastTlsWords b.certificateList)).getD [])

/-- Checks declared encryption. -/
def tlsOfSpec (space : String) (t : Spec.Tls) : Except Fault BindTls := do
  return ⟨← t.certificate.mapM (Certificate.ofSpec space),
    ← t.caCertificate.mapM (Certificate.ofSpec space), ← Verify.ofName t.verify,
    t.minVersion.bind nonEmpty⟩

/-- The last port of a range.  It has to be above the first one. -/
def lastPortOfSpec (first : Port) (last : Int64) : Except Fault Port :=
  match (Port.ofInt? last.toInt).filter (fun p => decide (first.number < p.number)) with
  | some p => .ok p
  | none => .error (.portRange first.number last.toInt)

/-- Checks a declared address. -/
def ofSpec (space : String) (b : Spec.Bind) : Except Fault Bind := do
  let port ← Section.port b.port
  let lastPort ← b.portRangeEnd.mapM (lastPortOfSpec port)
  let tls ← (b.tls.filter (·.enabled)).mapM (tlsOfSpec space)
  let list ←
    match tls, b.certificateList with
    | some _, some list => do pure (some (← CertificateList.ofSpec space list))
    | _, _ => pure none
  return ⟨b.name, b.address.getD "", port, lastPort, b.transparent, b.acceptProxy.getD false, tls,
    list⟩

end Bind

end ProxyFleet.Section
