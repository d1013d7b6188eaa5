import ProxyFleet.Digest.Md5
import ProxyFleet.Section.Bind
import ProxyFleet.Spec.Server

/-!
# Servers

The servers of a backend and the templates that servers are made from, with their statements.
-/

namespace ProxyFleet.Section

/-- Encryption of the connection to a server. -/
structure ServerTls where
  certificate : Option Certificate
  caCertificate : Option Certificate
  verify : Option Verify
  minVersion : Option String
  sni : Option String
  alpn : List String
  deriving DecidableEq

/-- How the state of a server is checked. -/
structure Check where
  /-- In milliseconds. -/
  interval : Option Nat
  rise : Option Int64
  fall : Option Int64
  deriving DecidableEq

/-- What the second version of the proxy protocol header carries along, in the order in which it
is written. -/
inductive ProxyV2Option
  | ssl
  | certCn
  | sslCipher
  | certSig
  | certKey
  | authority
  | crc32c
  | uniqueId
  deriving DecidableEq

namespace ProxyV2Option

/-- The name of an option. -/
def name : ProxyV2Option → String
  | .ssl => "ssl"
  | .certCn => "cert-cn"
  | .sslCipher => "ssl-cipher"
  | .certSig => "cert-sig"
  | .certKey => "cert-key"
  | .authority => "authority"
  | .crc32c => "crc32c"
  | .uniqueId => "unique-id"

/-- The options that a declaration chooses. -/
def chosen (o : Spec.ProxyV2Options) : List ProxyV2Option :=
  (if o.ssl then [.ssl] else []) ++ (if o.certCn then [.certCn] else []) ++
    (if o.sslCipher then [.sslCipher] else []) ++ (if o.certSig then [.certSig] else []) ++
    (if o.certKey then [.certKey] else []) ++ (if o.authority then [.authority] else []) ++
    (if o.crc32c then [.crc32c] else []) ++ (if o.uniqueId then [.uniqueId] else [])

end ProxyV2Option

/-- The proxy protocol header sent to a server. -/
inductive ProxyProtocol
  | v1
  | v2 (options : List ProxyV2Option)
  | v2Ssl
  | v2SslCn
  deriving DecidableEq

namespace ProxyProtocol

/-- The words of a header. -/
def words : ProxyProtocol → List String
  | .v1 => ["send-proxy"]
  | .v2 options =>
    ["send-proxy-v2"] ++ if options.isEmpty then []
      else ["proxy-v2-options", String.intercalate "," (options.map ProxyV2Option.name)]
  | .v2Ssl => ["send-proxy-v2-ssl"]
  | .v2SslCn => ["send-proxy-v2-ssl-cn"]

/-- The headers that a declaration chooses.  A setting of its own chooses the first version too. -/
def chosen (s : Spec.ServerParams) : List ProxyProtocol :=
  let p := s.proxyProtocol.getD .none
  (if s.sendProxy.getD false || p.v1 then [.v1] else []) ++
    (match p.v2.filter (·.enabled) with
      | some second => [.v2 (ProxyV2Option.chosen (second.options.getD .none))]
      | none => []) ++
    (if p.v2Ssl then [.v2Ssl] else []) ++ (if p.v2SslCn then [.v2SslCn] else [])

/-- Checks that a declaration chooses at most one header. -/
def ofSpec (s : Spec.ServerParams) : Except Fault (Option ProxyProtocol) :=
  match chosen s with
  | [] => .ok none
  | [p] => .ok (some p)
  | _ => .error .proxyProtocol

end ProxyProtocol

/-- The settings that servers and server templates share. -/
structure ServerParams where
  tls : Option ServerTls
  weight : Option Nat
  check : Option Check
  initAddr : Option String
  resolvers : Option String
  proxyProtocol : Option ProxyProtocol
  verifyHost : Option String
  /-- Whether a cookie keeps clients with the server. -/
  cookie : Bool
  deriving DecidableEq

namespace ServerParams

/-- The certificates that a server refers to: its own and the one it is verified with. -/
def certificates (p : ServerParams) : List Certificate :=
  match p.tls with
  | none => []
  | some tls => tls.certificate.toList ++ tls.caCertificate.toList

/-- The settings on which servers and templates differ. -/
structure Emitted where
  alpn : Option String
  cookie : Option String
  verify : Option Verify

/-- The words of the settings, in the order in which the proxy documents them. -/
def words (p : ServerParams) (e : Emitted) : List String :=
  flag "check" p.check.isSome ++
    (match p.tls with
      | some tls =>
        ["ssl"] ++ clause "alpn" e.alpn ++
          clause "ca-file" (tls.caCertificate.map Certificate.path)
      | none => []) ++
    clause "cookie" e.cookie ++
    clause "crt" ((p.tls.bind (·.certificate)).map Certificate.path) ++
    clause "fall" ((p.check.bind (·.fall)).map digits) ++
    clause "init-addr" p.initAddr ++
    clause "inter" ((p.check.bind (·.interval)).map (fun n => toString n)) ++
    clause "resolvers" p.resolvers ++
    clause "rise" ((p.check.bind (·.rise)).map digits) ++
    (p.proxyProtocol.map ProxyProtocol.words).getD [] ++
    clause "sni" (p.tls.bind (·.sni)) ++
    clause "ssl-min-ver" (p.tls.bind (·.minVersion)) ++
    clause "verify" (e.verify.map Verify.name) ++
    clause "verifyhost" p.verifyHost ++
    clause "weight" (p.weight.map (fun n => toString n))

/-- The weight of a server among the others. -/
def weightOfSpec (n : Int64) : Except Fault Nat :=
  if 0 ≤ n.toInt ∧ n.toInt ≤ 256 then .ok n.toInt.toNat else .error (.weight n.toInt)

/-- Checks declared encryption. -/
def tlsOfSpec (space : String) (t : Spec.Tls) : Except Fault ServerTls := do
  return ⟨← t.certificate.mapM (Certificate.ofSpec space),
    ← t.caCertificate.mapM (Certificate.ofSpec space), ← Verify.ofName t.verify,
    t.minVersion.bind nonEmpty, t.sni.bind nonEmpty, t.alpn⟩

/-- Checks declared settings.  Encryption and checks count only where they are enabled. -/
def ofSpec (space : String) (s : Spec.ServerParams) : Except Fault ServerParams := do
  let tls ← (s.tls.filter (·.enabled)).mapM (tlsOfSpec space)
  let check ← (s.check.filter (·.enabled)).mapM
    (fun c => do return Check.mk (← millis? "check inter" c.interval) c.rise c.fall)
  let weight ← s.weight.mapM weightOfSpec
  let proxyProtocol ← ProxyProtocol.ofSpec s
  return ⟨tls, weight, check, s.initAddr.bind nonEmpty, s.resolvers.map (·.name), proxyProtocol,
    s.verifyHost.bind nonEmpty, s.cookie⟩

end ServerParams

/-! ## Servers -/

/-- A server of a backend. -/
structure Server where
  name : String
  address : String
  port : Port
  params : ServerParams
  deriving DecidableEq

namespace Server

/-- The address of a server with its port. -/
def endpoint (s : Server) : String := s.address ++ ":" ++ s.port.text

/-- How a server is verified.  Only an explicit demand is written; without a certificate to verify
with, nothing can be verified. -/
def verify (tls : ServerTls) : Option Verify :=
  if tls.verify = some .required then some .required
  else if tls.caCertificate.isNone then some .none
  else none

/-- The protocols offered to a server, which are written only where it has to be verified. -/
def alpn (tls : ServerTls) : Option String :=
  if tls.verify = some .required ∧ !tls.alpn.isEmpty then some (String.intercalate "," tls.alpn)
  else none

/-- The statement of a server.  Its cookie is a digest of its address. -/
def statement (s : Server) : String :=
  Section.statement (["server", s.name, s.endpoint] ++ s.params.words
    ⟨s.params.tls.bind alpn, if s.params.cookie then some (Digest.md5Hex s.endpoint) else none,
      s.params.tls.bind verify⟩)

/-- Checks a declared server. -/
def ofSpec (space : String) (s : Spec.Server) : Except Fault Server := do
  return ⟨s.name, s.address, ← Section.port s.port, ← ServerParams.ofSpec space s.params⟩

end Server

/-! ## Templates -/

/-- A template of servers that are found under one host name. -/
structure ServerTemplate where
  nameStart : String
  first : Option Int64
  count : Int64
  fqdn : String
  port : Port
  params : ServerParams
  deriving DecidableEq

namespace ServerTemplate

/-- The number of servers, or the first and the last one. -/
def range (t : ServerTemplate) : String :=
  match t.first with
  | none => digits t.count
  | some first => digits first ++ "-" ++ digits t.count

/-- How the servers are verified: as declared, unless there is no certificate to verify with. -/
def verify (tls : ServerTls) : Option Verify :=
  if tls.caCertificate.isNone then some .none else tls.verify

/-- The statement of a template. -/
def statement (t : ServerTemplate) : String :=
  Section.statement (["server-template", t.nameStart, t.range, t.fqdn ++ ":" ++ t.port.text] ++
    t.params.words ⟨none, none, t.params.tls.bind verify⟩)

/-- Checks a declared template. -/
def ofSpec (space : String) (t : Spec.ServerTemplate) : Except Fault ServerTemplate := do
  return ⟨t.nameStart, t.first, t.count, t.fqdn, ← Section.port t.port,
    ← ServerParams.ofSpec space t.params⟩

end ServerTemplate

end ProxyFleet.Section
