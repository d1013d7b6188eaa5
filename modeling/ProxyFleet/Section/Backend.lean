import ProxyFleet.Fragment
import ProxyFleet.Section.Base
import ProxyFleet.Section.Server

/-!
# Backends

Pools of servers: how a server is chosen, how clients are kept with it, and how it is checked.
-/

namespace ProxyFleet.Section

/-- How what a server is chosen by is hashed. -/
structure HashType where
  method : Option String
  function : Option String
  modifier : Option String
  deriving DecidableEq

namespace HashType

/-- The statement of a way to hash. -/
def statement (h : HashType) : String :=
  Section.statement
    (["hash-type"] ++ h.method.toList ++ h.function.toList ++ h.modifier.toList)

/-- A declared way to hash, without its empty parts. -/
def ofSpec (h : Spec.HashType) : HashType :=
  ⟨h.method.bind nonEmpty, h.function.bind nonEmpty, h.modifier.bind nonEmpty⟩

end HashType

/-- How the state of servers is asked for. -/
inductive HealthCheck
  | http (method uri : String)
  | tcp
  deriving DecidableEq

namespace HealthCheck

/-- The statement of a check. -/
def statement : HealthCheck → String
  | .http method uri => Section.statement ["option", "httpchk", method, uri]
  | .tcp => Section.statement ["option", "tcp-check"]

/-- The declared check; one by request wins. -/
def ofSpec (http : Option Spec.HttpCheck) (tcp : Option Bool) : Option HealthCheck :=
  match http with
  | some check => some (.http check.method check.uri)
  | none => if tcp.getD false then some .tcp else none

end HealthCheck

/-- How a persistence cookie is placed. -/
inductive CookieMode
  | replaced
  | inserted
  | prefixed
  deriving DecidableEq

namespace CookieMode

/-- The name of a mode. -/
def name : CookieMode → String
  | .replaced => "rewrite"
  | .inserted => "insert"
  | .prefixed => "prefix"

/-- The modes that a declaration chooses. -/
def chosen (m : Spec.CookieMode) : List CookieMode :=
  (if m.replaced then [.replaced] else []) ++ (if m.inserted then [.inserted] else []) ++
    (if m.prefixed then [.prefixed] else [])

/-- Checks that a declaration chooses at most one mode. -/
def ofSpec (m : Spec.CookieMode) : Except Fault (Option CookieMode) :=
  match chosen m with
  | [] => .ok none
  | [mode] => .ok (some mode)
  | _ => .error .cookieMode

end CookieMode

/-- A cookie that keeps clients with a server. -/
structure Cookie where
  /-- The declared name, of which the proxy sees only a digest. -/
  name : String
  mode : Option CookieMode
  domains : List String
  attributes : List String
  httpOnly : Bool
  indirect : Bool
  maxIdle : Int64
  maxLife : Int64
  noCache : Bool
  postOnly : Bool
  preserve : Bool
  secure : Bool
  dynamic : Bool
  deriving DecidableEq

namespace Cookie

/-- The digest that stands for the declared name. -/
def digest (c : Cookie) : String := Digest.md5Hex c.name

/-- A limit in seconds, written when it is positive. -/
def limit (keyword : String) (n : Int64) : List String :=
  if 0 < n.toInt then [keyword, digits n] else []

/-- The statement of a cookie. -/
def statement (c : Cookie) : String :=
  Section.statement (["cookie", c.digest] ++ c.domains.flatMap (fun d => ["domain", d]) ++
    c.attributes.flatMap (fun a => ["attr", a]) ++ flag "httponly" c.httpOnly ++
    flag "indirect" c.indirect ++ limit "maxidle" c.maxIdle ++ limit "maxlife" c.maxLife ++
    flag "nocache" c.noCache ++ flag "postonly" c.postOnly ++ flag "preserve" c.preserve ++
    (c.mode.map CookieMode.name).toList ++ flag "secure" c.secure ++ flag "dynamic" c.dynamic)

/-- The statements of a cookie; a dynamic one has a key of its own. -/
def statements (c : Cookie) : List String :=
  [c.statement] ++
    if c.dynamic then [Section.statement ["dynamic-cookie-key", c.digest]] else []

/-- Checks a declared cookie. -/
def ofSpec (c : Spec.Cookie) : Except Fault Cookie := do
  return ⟨c.name, ← CookieMode.ofSpec c.mode, c.domains, c.attributes, c.httpOnly.getD false,
    c.indirect.getD false, c.maxIdle, c.maxLife, c.noCache.getD false, c.postOnly.getD false,
    c.preserve.getD false, c.secure.getD false, c.dynamic.getD false⟩

end Cookie

/-- The declared algorithm in lower case, unless it is empty. -/
def balanceOf (b : Option Spec.Balance) : Option String :=
  b.bind (fun b => nonEmpty (Text.lower b.algorithm))

/-- The settings of a pool that listens and backends share. -/
structure Pool where
  servers : List Server
  templates : List ServerTemplate
  /-- The name of the algorithm, in lower case. -/
  balance : Option String
  hashType : Option HashType
  redispatch : Bool
  cookie : Option Cookie
  healthCheck : Option HealthCheck
  deriving DecidableEq

namespace Pool

/-- The settings of the servers and then of the templates. -/
def params (p : Pool) : List ServerParams := p.servers.map (·.params) ++ p.templates.map (·.params)

end Pool

/-- A backend. -/
structure Backend where
  name : String
  base : Base
  pool : Pool
  /-- The pattern of the hosts that a mapping sends here. -/
  hostRegex : Option String
  hostCertificate : Option CertificateElement
  deriving DecidableEq

namespace Backend

/-- The section of a backend. -/
def fragment (b : Backend) : Fragment where
  kind := .backend
  name := some b.name
  statements :=
    b.base.modeStatements ++
      (b.pool.balance.map (fun name => statement ["balance", name])).toList ++
      (b.pool.hashType.map HashType.statement).toList ++ b.base.forwardForStatements ++
      flag "option http-pretend-keepalive" b.base.pretendKeepalive ++
      flag "option redispatch" b.pool.redispatch ++
      (b.pool.healthCheck.map HealthCheck.statement).toList ++
      (b.pool.cookie.map Cookie.statements).getD [] ++ b.base.timeouts.statements ++
      b.base.ruleStatements ++ b.pool.servers.map Server.statement ++
      b.pool.templates.map ServerTemplate.statement

/-- Checks a declared backend. -/
def ofSpec (space name : String) (b : Spec.Backend) : Except Fault Backend := do
  let base ← Base.ofSpec space .backend b.base
  let timeouts ← base.timeouts.setCheck b.checkTimeout
  let servers ← b.servers.mapM (Server.ofSpec space)
  let templates ← b.templates.mapM (ServerTemplate.ofSpec space)
  let cookie ← b.cookie.mapM Cookie.ofSpec
  let hostCertificate ← b.hostCertificate.mapM (CertificateElement.ofSpec space)
  return {
    name
    base := { base with timeouts }
    pool := {
      servers
      templates
      balance := balanceOf b.balance
      hashType := b.hashType.map HashType.ofSpec
      redispatch := b.redispatch.getD false
      cookie
      healthCheck := HealthCheck.ofSpec b.httpCheck b.tcpCheck }
    hostRegex := nonEmpty b.hostRegex
    hostCertificate }

end Backend

end ProxyFleet.Section
