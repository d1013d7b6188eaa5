import ProxyFleet.Spec.Rule
import ProxyFleet.Spec.Server

/-!
# Declared sections

The records that become sections of the document: frontends, backends, listens, which are both
under one name, and resolvers.
-/

namespace ProxyFleet.Spec

/-- The settings that frontends, backends and listens share. -/
structure Base where
  mode : Option String
  httpRequest : Option HttpRules
  tcpRequest : List TcpRule
  acls : List Acl
  /-- Timeouts by name. -/
  timeouts : KeyMap Duration
  errorFiles : List ErrorFile
  forwardFor : Option ForwardFor
  pretendKeepalive : Option Bool
  deriving DecidableEq

/-- The members of shared settings. -/
def Base.schema : Schema Base Base :=
  mk <$> .optional "mode" .text (·.mode)
    <*> .optional "httpRequest" HttpRules.schema.format (·.httpRequest)
    <*> .sparse "tcpRequest" TcpRule.schema.format.list [] List.isEmpty (·.tcpRequest)
    <*> .sparse "acl" Acl.schema.format.list [] List.isEmpty (·.acls)
    <*> .sparse "timeouts" Format.duration.map .empty KeyMap.isEmpty (·.timeouts)
    <*> .sparse "errorFiles" ErrorFile.schema.format.list [] List.isEmpty (·.errorFiles)
    <*> .optional "forwardFor" ForwardFor.schema.format (·.forwardFor)
    <*> .optional "httpPretendKeepalive" .bool (·.pretendKeepalive)

/-! ## Frontends -/

/-- A parameter of a request that is matched against the host patterns of the selected backends. -/
structure RegexMapping where
  name : String
  parameter : String
  selector : Selector
  deriving DecidableEq

/-- The members of a mapping by pattern. -/
def RegexMapping.schema : Schema RegexMapping RegexMapping :=
  mk <$> .required "name" .text (·.name)
    <*> .required "parameter" .text (·.parameter)
    <*> .defaulted "selector" Selector.schema.format .all (·.selector)

/-- The backend of a rule: one by name, or one found by a mapping. -/
structure BackendReference where
  name : Option String
  mapping : Option RegexMapping
  deriving DecidableEq

/-- The members of a reference to a backend. -/
def BackendReference.schema : Schema BackendReference BackendReference :=
  mk <$> .optional "name" .text (·.name)
    <*> .optional "regexMapping" RegexMapping.schema.format (·.mapping)

/-- A rule that sends requests to a backend. -/
structure SwitchingRule where
  condition : Condition
  backend : BackendReference
  deriving DecidableEq

/-- The members of a rule that chooses a backend. -/
def SwitchingRule.schema : Schema SwitchingRule SwitchingRule :=
  mk <$> .inlined Condition.schema (·.condition)
    <*> .required "backend" BackendReference.schema.format (·.backend)

/-- Where the proxy listens and where requests go from there. -/
structure Frontend where
  base : Base
  binds : List Bind
  switching : List SwitchingRule
  defaultBackend : NameRef
  deriving DecidableEq

/-- The members of a frontend. -/
def Frontend.schema : Schema Frontend Frontend :=
  mk <$> .inlined Base.schema (·.base)
    <*> .defaulted "binds" Bind.schema.format.list [] (·.binds)
    <*> .sparse "backendSwitching" SwitchingRule.schema.format.list [] List.isEmpty (·.switching)
    <*> .required "defaultBackend" NameRef.schema.format (·.defaultBackend)

/-! ## Backends -/

/-- A pool of servers. -/
structure Backend where
  base : Base
  checkTimeout : Option Duration
  servers : List Server
  templates : List ServerTemplate
  balance : Option Balance
  /-- The pattern of the hosts that a mapping sends here. -/
  hostRegex : String
  /-- The certificate that frontends which select this backend serve. -/
  hostCertificate : Option CertificateElement
  redispatch : Option Bool
  hashType : Option HashType
  cookie : Option Cookie
  httpCheck : Option HttpCheck
  tcpCheck : Option Bool
  deriving DecidableEq

/-- The members of a backend. -/
def Backend.schema : Schema Backend Backend :=
  mk <$> .inlined Base.schema (·.base)
    <*> .optional "checkTimeout" .duration (·.checkTimeout)
    <*> .sparse "servers" Server.schema.format.list [] List.isEmpty (·.servers)
    <*> .sparse "serverTemplates" ServerTemplate.schema.format.list [] List.isEmpty (·.templates)
    <*> .optional "balance" Balance.schema.format (·.balance)
    <*> .sparse "hostRegex" .text "" String.isEmpty (·.hostRegex)
    <*> .optional "hostCertificate" CertificateElement.schema.format (·.hostCertificate)
    <*> .optional "redispatch" .bool (·.redispatch)
    <*> .optional "hashType" HashType.schema.format (·.hashType)
    <*> .optional "cookie" Cookie.schema.format (·.cookie)
    <*> .optional "httpchk" HttpCheck.schema.format (·.httpCheck)
    <*> .optional "tcpCheck" .bool (·.tcpCheck)

/-! ## Listens -/

/-- A frontend and a backend under one name; the frontend sends everything to its backend. -/
structure Listen where
  base : Base
  binds : List Bind
  servers : List Server
  templates : List ServerTemplate
  checkTimeout : Option Duration
  balance : Option Balance
  redispatch : Option Bool
  hashType : Option HashType
  cookie : Option Cookie
  /-- The certificate that is added to every certificate list of the binds. -/
  hostCertificate : Option CertificateElement
  httpCheck : Option HttpCheck
  tcpCheck : Option Bool
  deriving DecidableEq

/-- The members of a listen. -/
def Listen.schema : Schema Listen Listen :=
  mk <$> .inlined Base.schema (·.base)
    <*> .defaulted "binds" Bind.schema.format.list [] (·.binds)
    <*> .sparse "servers" Server.schema.format.list [] List.isEmpty (·.servers)
    <*> .sparse "serverTemplates" ServerTemplate.schema.format.list [] List.isEmpty (·.templates)
    <*> .optional "checkTimeout" .duration (·.checkTimeout)
    <*> .optional "balance" Balance.schema.format (·.balance)
    <*> .optional "redispatch" .bool (·.redispatch)
    <*> .optional "hashType" HashType.schema.format (·.hashType)
    <*> .optional "cookie" Cookie.schema.format (·.cookie)
    <*> .optional "hostCertificate" CertificateElement.schema.format (·.hostCertificate)
    <*> .optional "httpCheck" HttpCheck.schema.format (·.httpCheck)
    <*> .optional "tcpCheck" .bool (·.tcpCheck)

/-! ## Resolvers -/

/-- A server that names are looked up at. -/
structure Nameserver where
  name : String
  address : String
  port : Int64
  deriving DecidableEq

/-- The members of a name server. -/
def Nameserver.schema : Schema Nameserver Nameserver :=
  mk <$> .required "name" .text (·.name)
    <*> .required "address" .text (·.address)
    <*> .defaulted "port" .int64 0 (·.port)

/-- How long the last answer is kept, by the kind of answer. -/
structure Hold where
  nx : Option Duration
  obsolete : Option Duration
  other : Option Duration
  refused : Option Duration
  timeout : Option Duration
  valid : Option Duration
  deriving DecidableEq

/-- Nothing declared about any kind of answer. -/
def Hold.none : Hold := ⟨.none, .none, .none, .none, .none, .none⟩

/-- The members of holding times. -/
def Hold.schema : Schema Hold Hold :=
  mk <$> .optional "nx" .duration (·.nx)
    <*> .optional "obsolete" .duration (·.obsolete)
    <*> .optional "other" .duration (·.other)
    <*> .optional "refused" .duration (·.refused)
    <*> .optional "timeout" .duration (·.timeout)
    <*> .optional "valid" .duration (·.valid)

/-- How long a look-up may take, and how long to wait before it is tried again. -/
structure ResolverTimeouts where
  resolve : Option Duration
  retry : Option Duration
  deriving DecidableEq

/-- Neither declared. -/
def ResolverTimeouts.none : ResolverTimeouts := ⟨.none, .none⟩

/-- The members of a resolver's timeouts. -/
def ResolverTimeouts.schema : Schema ResolverTimeouts ResolverTimeouts :=
  mk <$> .optional "resolve" .duration (·.resolve) <*> .optional "retry" .duration (·.retry)

/-- How names of servers are looked up. -/
structure Resolver where
  nameservers : List Nameserver
  acceptedPayloadSize : Option Int64
  parseResolvConf : Option Bool
  resolveRetries : Option Int64
  hold : Option Hold
  timeouts : Option ResolverTimeouts
  deriving DecidableEq

/-- The members of a resolver. -/
def Resolver.schema : Schema Resolver Resolver :=
  mk <$> .sparse "nameservers" Nameserver.schema.format.list [] List.isEmpty (·.nameservers)
    <*> .optional "acceptedPayloadSize" .int64 (·.acceptedPayloadSize)
    <*> .optional "parseResolvConf" .bool (·.parseResolvConf)
    <*> .optional "resolveRetries" .int64 (·.resolveRetries)
    <*> .optional "hold" Hold.schema.format (·.hold)
    <*> .optional "timeouts" ResolverTimeouts.schema.format (·.timeouts)

end ProxyFleet.Spec
