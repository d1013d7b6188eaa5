import ProxyFleet.Fragment
import ProxyFleet.Section.File
import ProxyFleet.Section.Timeouts
import ProxyFleet.Spec.Instance
import ProxyFleet.Text.Blank

/-!
# Instances

The sections that one instance gives: the settings of the process, the defaults of the other
sections, and a frontend for metrics if there is one.
-/

namespace ProxyFleet.Section

/-! ## Process-wide settings -/

/-- Where the process logs to. -/
structure LogTarget where
  address : String
  facility : String
  level : Option String
  format : Option String
  deriving DecidableEq

namespace LogTarget

/-- The local socket that stands where no address is declared. -/
def defaultAddress : String := "/var/lib/rsyslog/rsyslog.sock"

/-- The facility that stands where none is declared. -/
def defaultFacility : String := "local0"

/-- The statement of a target. -/
def statement (t : LogTarget) : String :=
  Section.statement (["log", t.address] ++ clause "format" t.format ++ [t.facility] ++
    t.level.toList)

/-- The declared target. -/
def ofSpec (l : Spec.GlobalLogging) : LogTarget :=
  ⟨(nonEmpty l.address).getD defaultAddress, (nonEmpty l.facility).getD defaultFacility,
    nonEmpty l.level, nonEmpty l.format⟩

end LogTarget

/-- Defaults of encrypted addresses. -/
structure GlobalTls where
  ciphers : List String
  cipherSuites : List String
  minVersion : Option String
  deriving DecidableEq

namespace GlobalTls

/-- A statement that lists names with colons between them, if there are any. -/
def listed (keyword : String) (names : List String) : List String :=
  if names.isEmpty then [] else [statement [keyword, String.intercalate ":" names]]

/-- The statements of the defaults. -/
def statements (t : GlobalTls) : List String :=
  listed "ssl-default-bind-ciphers" t.ciphers ++
    listed "ssl-default-bind-ciphersuites" t.cipherSuites ++
    (t.minVersion.map
      (fun v => statement ["ssl-default-bind-options", "ssl-min-ver", v])).toList

/-- The declared defaults. -/
def ofSpec (t : Spec.GlobalTls) : GlobalTls :=
  ⟨t.ciphers, t.cipherSuites, (t.bindOptions.bind (·.minVersion)).bind nonEmpty⟩

end GlobalTls

/-- Tuning of the process. -/
structure Tuning where
  maxrewrite : Option Int64
  bufsize : Option Int64
  cacheSize : Option Int64
  keylog : Option String
  /-- In seconds. -/
  lifetime : Option Nat
  forcePrivateCache : Bool
  maxRecord : Option Int64
  defaultDhParam : Option Int64
  ctxCacheSize : Option Int64
  captureBufferSize : Option Int64
  deriving DecidableEq

namespace Tuning

/-- A statement that sets a number, if there is one. -/
def numeric (keyword : String) (n : Option Int64) : List String :=
  (n.map (fun n => statement [keyword, digits n])).toList

/-- The statements of the tuning. -/
def statements (t : Tuning) : List String :=
  numeric "tune.maxrewrite" t.maxrewrite ++ numeric "tune.bufsize" t.bufsize ++
    numeric "tune.ssl.cachesize" t.cacheSize ++
    (t.keylog.map (fun s => statement ["tune.ssl.keylog", s])).toList ++
    (t.lifetime.map (fun n => statement ["tune.ssl.lifetime", toString n])).toList ++
    flag "tune.ssl.force-private-cache" t.forcePrivateCache ++
    numeric "tune.ssl.maxrecord" t.maxRecord ++
    numeric "tune.ssl.default-dh-param" t.defaultDhParam ++
    numeric "tune.ssl.ssl-ctx-cache-size" t.ctxCacheSize ++
    numeric "tune.ssl.capture-buffer-size" t.captureBufferSize

/-- A length of time in whole seconds.  It must not carry a minus sign. -/
def lifetimeOf (d : Duration) : Except Fault Nat :=
  if d.negative then .error (.negativeDuration "tune.ssl.lifetime") else .ok d.secondsRounded

/-- A number, unless it is zero. -/
def nonZero (n : Int64) : Option Int64 := if n = 0 then none else some n

/-- Checks declared tuning. -/
def ofSpec (t : Spec.Tuning) : Except Fault Tuning :=
  match t.tls with
  | none => .ok ⟨t.maxrewrite, t.bufsize, none, none, none, false, none, none, none, none⟩
  | some s => do
    let lifetime ← s.lifetime.mapM lifetimeOf
    return ⟨t.maxrewrite, t.bufsize, s.cacheSize, nonEmpty s.keylog, lifetime,
      s.forcePrivateCache, s.maxRecord, nonZero s.defaultDhParam, nonZero s.ctxCacheSize,
      s.captureBufferSize⟩

end Tuning

/-- The settings of the process. -/
structure Global where
  maxconn : Option Int64
  nbthread : Option Int64
  /-- In milliseconds. -/
  hardStopAfter : Option Nat
  reload : Bool
  /-- In milliseconds. -/
  statsTimeout : Option Nat
  log : Option LogTarget
  /-- Whether a host name is logged, and which one if it is not the machine's own. -/
  sendHostname : Option (Option String)
  tls : Option GlobalTls
  tuning : Option Tuning
  additionalParameters : List String
  additionalCertificates : List Certificate
  deriving DecidableEq

namespace Global

/-- The socket over which the proxy is reloaded without losing connections. -/
def statsSocket : String :=
  "stats socket /var/lib/haproxy/run/haproxy.sock mode 600 level admin expose-fd listeners"

/-- The section of the process. -/
def fragment (g : Global) : Fragment where
  kind := .global
  name := none
  statements :=
    Tuning.numeric "maxconn" g.maxconn ++ Tuning.numeric "nbthread" g.nbthread ++
      (g.hardStopAfter.map (fun n => statement ["hard-stop-after", toString n])).toList ++
      flag statsSocket g.reload ++
      (g.statsTimeout.map (fun n => statement ["stats", "timeout", toString n])).toList ++
      (g.log.map LogTarget.statement).toList ++
      (g.sendHostname.map (fun h => statement ("log-send-hostname" :: h.toList))).toList ++
      (g.tls.map GlobalTls.statements).getD [] ++ (g.tuning.map Tuning.statements).getD [] ++
      g.additionalParameters

/-- Checks declared settings. -/
def ofSpec (space : String) (g : Spec.Global) : Except Fault Global := do
  let hardStopAfter ← millis? "hard-stop-after" g.hardStopAfter
  let statsTimeout ← millis? "stats timeout" g.statsTimeout
  let tuning ← g.tuning.mapM Tuning.ofSpec
  let certificates ← g.additionalCertificates.mapM (Certificate.ofSpec space)
  return {
    maxconn := g.maxconn
    nbthread := g.nbthread
    hardStopAfter
    reload := g.reload
    statsTimeout
    log := (g.logging.filter (·.enabled)).map LogTarget.ofSpec
    sendHostname :=
      (g.logging.filter (·.sendHostname.getD false)).map (fun l => l.hostname.bind nonEmpty)
    tls := g.tls.map GlobalTls.ofSpec
    tuning
    additionalParameters := Text.trimmedLines g.additionalParameters
    additionalCertificates := certificates }

end Global

/-! ## Defaults of sections -/

/-- The defaults of the other sections. -/
structure Defaults where
  mode : Option Mode
  logGlobal : Bool
  httpLog : Bool
  tcpLog : Bool
  timeouts : Timeouts
  errorFiles : List ErrorFile
  additionalParameters : List String
  deriving DecidableEq

namespace Defaults

/-- The section of defaults. -/
def fragment (d : Defaults) : Fragment where
  kind := .defaults
  name := none
  statements :=
    (d.mode.map (fun m => statement ["mode", m.name])).toList ++ flag "log global" d.logGlobal ++
      flag "option httplog" d.httpLog ++ flag "option tcplog" d.tcpLog ++ d.timeouts.statements ++
      d.errorFiles.map ErrorFile.statement ++ d.additionalParameters

/-- Checks declared defaults. -/
def ofSpec (space : String) (d : Spec.Defaults) : Except Fault Defaults := do
  let timeouts ← Timeouts.ofSpec .defaults d.timeouts
  let mode ← Mode.ofName d.mode
  let errorFiles ← d.errorFiles.mapM (ErrorFile.ofSpec space)
  return {
    mode
    logGlobal := (d.logging.map (·.enabled)).getD false
    httpLog := (d.logging.bind (·.httpLog)).getD false
    tcpLog := (d.logging.bind (·.tcpLog)).getD false
    timeouts
    errorFiles
    additionalParameters := Text.trimmedLines d.additionalParameters }

end Defaults

/-! ## Metrics -/

/-- A frontend that shows statistics and metrics. -/
structure Metrics where
  address : String
  port : Port
  deriving DecidableEq

namespace Metrics

/-- The address that stands where none is declared. -/
def defaultAddress : String := "0.0.0.0"

/-- The section of metrics. -/
def fragment (m : Metrics) : Fragment where
  kind := .frontend
  name := some "metrics"
  statements :=
    ["mode http", "stats enable", "stats uri /stats", "stats refresh 10000",
      statement ["bind", m.address ++ ":" ++ m.port.text, "name", "metrics"],
      "http-request use-service prometheus-exporter if \x7b path /metrics \x7d"]

/-- Checks declared metrics. -/
def ofSpec (m : Spec.Metrics) : Except Fault Metrics := do
  return ⟨(m.address.bind nonEmpty).getD defaultAddress, ← Section.port m.port⟩

end Metrics

/-! ## Instances -/

/-- What one instance gives. -/
structure Instance where
  name : String
  space : String
  global : Global
  defaults : Defaults
  metrics : Option Metrics
  deriving DecidableEq

namespace Instance

/-- Checks a declared instance. -/
def ofSpec (space name : String) (i : Spec.Instance) : Except Fault Instance := do
  let metrics ← (i.metrics.filter (·.enabled)).mapM Metrics.ofSpec
  let global ← Global.ofSpec space i.configuration.global
  let defaults ← Defaults.ofSpec space i.configuration.defaults
  return ⟨name, space, global, defaults, metrics⟩

end Instance

end ProxyFleet.Section
