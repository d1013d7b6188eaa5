import ProxyFleet.Duration.Parse
import ProxyFleet.Spec.Bind

/-!
# Declared servers

The servers of a pool, how they are checked and chosen, and what keeps a client with one of them.
-/

namespace ProxyFleet.Spec

/-- How the state of a server is checked. -/
structure Check where
  enabled : Bool
  interval : Option Duration
  rise : Option Int64
  fall : Option Int64
  deriving DecidableEq

/-- The members of a server's check. -/
def Check.schema : Schema Check Check :=
  mk <$> .required "enabled" .bool (·.enabled)
    <*> .optional "inter" .duration (·.interval)
    <*> .optional "rise" .int64 (·.rise)
    <*> .optional "fall" .int64 (·.fall)

/-- What the second version of the proxy protocol header carries along. -/
structure ProxyV2Options where
  ssl : Bool
  certCn : Bool
  sslCipher : Bool
  certSig : Bool
  certKey : Bool
  authority : Bool
  crc32c : Bool
  uniqueId : Bool
  deriving DecidableEq

/-- Nothing is carried along. -/
def ProxyV2Options.none : ProxyV2Options :=
  ⟨false, false, false, false, false, false, false, false⟩

/-- The members of options of the second version. -/
def ProxyV2Options.schema : Schema ProxyV2Options ProxyV2Options :=
  mk <$> .defaulted "ssl" .bool false (·.ssl)
    <*> .defaulted "certCn" .bool false (·.certCn)
    <*> .defaulted "sslCipher" .bool false (·.sslCipher)
    <*> .defaulted "certSig" .bool false (·.certSig)
    <*> .defaulted "certKey" .bool false (·.certKey)
    <*> .defaulted "authority" .bool false (·.authority)
    <*> .defaulted "crc32C" .bool false (·.crc32c)
    <*> .defaulted "uniqueID" .bool false (·.uniqueId)

/-- The second version of the proxy protocol header. -/
structure ProxyV2 where
  enabled : Bool
  options : Option ProxyV2Options
  deriving DecidableEq

/-- The members of the second version. -/
def ProxyV2.schema : Schema ProxyV2 ProxyV2 :=
  mk <$> .defaulted "enabled" .bool false (·.enabled)
    <*> .optional "options" ProxyV2Options.schema.format (·.options)

/-- The proxy protocol header sent to a server.  At most one form may be chosen. -/
structure ProxyProtocol where
  v1 : Bool
  v2 : Option ProxyV2
  v2Ssl : Bool
  v2SslCn : Bool
  deriving DecidableEq

/-- No form chosen. -/
def ProxyProtocol.none : ProxyProtocol := ⟨false, .none, false, false⟩

/-- The members of the header that is sent. -/
def ProxyProtocol.schema : Schema ProxyProtocol ProxyProtocol :=
  mk <$> .defaulted "v1" .bool false (·.v1)
    <*> .optional "v2" ProxyV2.schema.format (·.v2)
    <*> .defaulted "v2SSL" .bool false (·.v2Ssl)
    <*> .defaulted "v2SSLCN" .bool false (·.v2SslCn)

/-- The resolvers that look a server's name up. -/
structure NameRef where
  name : String
  deriving DecidableEq

/-- The members of a reference by name. -/
def NameRef.schema : Schema NameRef NameRef :=
  mk <$> .required "name" .text (·.name)

/-- The settings that servers and server templates share. -/
structure ServerParams where
  tls : Option Tls
  weight : Option Int64
  check : Option Check
  initAddr : Option String
  resolvers : Option NameRef
  sendProxy : Option Bool
  proxyProtocol : Option ProxyProtocol
  verifyHost : Option String
  /-- Whether a cookie keeps clients with the server. -/
  cookie : Bool
  deriving DecidableEq

/-- The members of settings of servers. -/
def ServerParams.schema : Schema ServerParams ServerParams :=
  mk <$> .optional "ssl" Tls.schema.format (·.tls)
    <*> .optional "weight" .int64 (·.weight)
    <*> .optional "check" Check.schema.format (·.check)
    <*> .optional "initAddr" .text (·.initAddr)
    <*> .optional "resolvers" NameRef.schema.format (·.resolvers)
    <*> .optional "sendProxy" .bool (·.sendProxy)
    <*> .optional "SendProxyV2" ProxyProtocol.schema.format (·.proxyProtocol)
    <*> .optional "verifyHost" .text (·.verifyHost)
    <*> .defaulted "cookie" .bool false (·.cookie)

/-- A server of a pool. -/
structure Server where
  params : ServerParams
  name : String
  address : String
  port : Int64
  deriving DecidableEq

/-- The members of a server. -/
def Server.schema : Schema Server Server :=
  mk <$> .inlined ServerParams.schema (·.params)
    <*> .required "name" .text (·.name)
    <*> .required "address" .text (·.address)
    <*> .required "port" .int64 (·.port)

/-- Servers that are found under one host name; their names share a beginning. -/
structure ServerTemplate where
  params : ServerParams
  nameStart : String
  first : Option Int64
  count : Int64
  fqdn : String
  port : Int64
  deriving DecidableEq

/-- The members of a server template. -/
def ServerTemplate.schema : Schema ServerTemplate ServerTemplate :=
  mk <$> .inlined ServerParams.schema (·.params)
    <*> .required "prefix" .text (·.nameStart)
    <*> .optional "numMin" .int64 (·.first)
    <*> .required "num" .int64 (·.count)
    <*> .required "fqdn" .text (·.fqdn)
    <*> .required "port" .int64 (·.port)

/-! ## The pool as a whole -/

/-- How a server is chosen. -/
structure Balance where
  algorithm : String
  deriving DecidableEq

/-- The members of balancing. -/
def Balance.schema : Schema Balance Balance :=
  mk <$> .required "algorithm" .text (·.algorithm)

/-- How what a server is chosen by is hashed. -/
structure HashType where
  method : Option String
  function : Option String
  modifier : Option String
  deriving DecidableEq

/-- The members of a hash. -/
def HashType.schema : Schema HashType HashType :=
  mk <$> .optional "method" .text (·.method)
    <*> .optional "function" .text (·.function)
    <*> .optional "modifier" .text (·.modifier)

/-- A request that checks the state of a server. -/
structure HttpCheck where
  uri : String
  method : String
  deriving DecidableEq

/-- The members of a check by requests. -/
def HttpCheck.schema : Schema HttpCheck HttpCheck :=
  mk <$> .required "uri" .text (·.uri) <*> .required "method" .text (·.method)

/-- How a persistence cookie is placed.  At most one mode may be chosen. -/
structure CookieMode where
  replaced : Bool
  inserted : Bool
  prefixed : Bool
  deriving DecidableEq

/-- No mode chosen. -/
def CookieMode.none : CookieMode := ⟨false, false, false⟩

/-- The members of the mode of a cookie. -/
def CookieMode.schema : Schema CookieMode CookieMode :=
  mk <$> .defaulted "rewrite" .bool false (·.replaced)
    <*> .defaulted "insert" .bool false (·.inserted)
    <*> .defaulted "prefix" .bool false (·.prefixed)

/-- A cookie that keeps a client with a server. -/
structure Cookie where
  name : String
  mode : CookieMode
  indirect : Option Bool
  noCache : Option Bool
  postOnly : Option Bool
  preserve : Option Bool
  httpOnly : Option Bool
  secure : Option Bool
  dynamic : Option Bool
  domains : List String
  maxIdle : Int64
  maxLife : Int64
  attributes : List String
  deriving DecidableEq

/-- The members of a cookie. -/
def Cookie.schema : Schema Cookie Cookie :=
  mk <$> .defaulted "name" .text "" (·.name)
    <*> .defaulted "mode" CookieMode.schema.format .none (·.mode)
    <*> .optional "indirect" .bool (·.indirect)
    <*> .optional "noCache" .bool (·.noCache)
    <*> .optional "postOnly" .bool (·.postOnly)
    <*> .optional "preserve" .bool (·.preserve)
    <*> .optional "httpOnly" .bool (·.httpOnly)
    <*> .optional "secure" .bool (·.secure)
    <*> .optional "dynamic" .bool (·.dynamic)
    <*> .sparse "domain" Format.text.list [] List.isEmpty (·.domains)
    <*> .defaulted "maxIdle" .int64 0 (·.maxIdle)
    <*> .defaulted "maxLife" .int64 0 (·.maxLife)
    <*> .sparse "attribute" Format.text.list [] List.isEmpty (·.attributes)

end ProxyFleet.Spec
