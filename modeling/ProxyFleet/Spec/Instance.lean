import ProxyFleet.Duration.Parse
import ProxyFleet.Spec.File

/-!
# Declared instances

An instance stands for one fleet of proxies: the settings of the process as a whole, the defaults
of its sections, and the selector of the records that belong to it.
-/

namespace ProxyFleet.Spec

/-- A frontend that shows statistics and metrics. -/
structure Metrics where
  enabled : Bool
  address : Option String
  port : Int64
  deriving DecidableEq

/-- The members of metrics. -/
def Metrics.schema : Schema Metrics Metrics :=
  mk <$> .required "enabled" .bool (·.enabled)
    <*> .optional "address" .text (·.address)
    <*> .required "port" .int64 (·.port)

/-! ## Process-wide settings -/

/-- Options of encrypted binds that say nothing else. -/
structure BindTlsOptions where
  minVersion : Option String
  deriving DecidableEq

/-- The members of options of encrypted binds. -/
def BindTlsOptions.schema : Schema BindTlsOptions BindTlsOptions :=
  mk <$> .optional "minVersion" .text (·.minVersion)

/-- Defaults of encrypted binds. -/
structure GlobalTls where
  ciphers : List String
  cipherSuites : List String
  bindOptions : Option BindTlsOptions
  deriving DecidableEq

/-- The members of defaults of encrypted binds. -/
def GlobalTls.schema : Schema GlobalTls GlobalTls :=
  mk <$> .sparse "defaultBindCiphers" Format.text.list [] List.isEmpty (·.ciphers)
    <*> .sparse "defaultBindCipherSuites" Format.text.list [] List.isEmpty (·.cipherSuites)
    <*> .optional "defaultBindOptions" BindTlsOptions.schema.format (·.bindOptions)

/-- Tuning of encryption. -/
structure TlsTuning where
  cacheSize : Option Int64
  keylog : String
  lifetime : Option Duration
  forcePrivateCache : Bool
  maxRecord : Option Int64
  defaultDhParam : Int64
  ctxCacheSize : Int64
  captureBufferSize : Option Int64
  deriving DecidableEq

/-- The members of tuning of encryption. -/
def TlsTuning.schema : Schema TlsTuning TlsTuning :=
  mk <$> .optional "cacheSize" .int64 (·.cacheSize)
    <*> .sparse "keylog" .text "" String.isEmpty (·.keylog)
    <*> .optional "lifetime" .duration (·.lifetime)
    <*> .defaulted "forcePrivateCache" .bool false (·.forcePrivateCache)
    <*> .optional "maxRecord" .int64 (·.maxRecord)
    <*> .defaulted "defaultDHParam" .int64 0 (·.defaultDhParam)
    <*> .defaulted "ctxCacheSize" .int64 0 (·.ctxCacheSize)
    <*> .optional "captureBufferSize" .int64 (·.captureBufferSize)

/-- Tuning of the process. -/
structure Tuning where
  maxrewrite : Option Int64
  bufsize : Option Int64
  tls : Option TlsTuning
  deriving DecidableEq

/-- The members of tuning. -/
def Tuning.schema : Schema Tuning Tuning :=
  mk <$> .optional "maxrewrite" .int64 (·.maxrewrite)
    <*> .optional "bufsize" .int64 (·.bufsize)
    <*> .optional "ssl" TlsTuning.schema.format (·.tls)

/-- Where the process logs to: an address or a local socket. -/
structure GlobalLogging where
  enabled : Bool
  address : String
  facility : String
  level : String
  format : String
  sendHostname : Option Bool
  hostname : Option String
  deriving DecidableEq

/-- The members of process-wide logging. -/
def GlobalLogging.schema : Schema GlobalLogging GlobalLogging :=
  mk <$> .required "enabled" .bool (·.enabled)
    <*> .required "address" .text (·.address)
    <*> .sparse "facility" .text "" String.isEmpty (·.facility)
    <*> .sparse "level" .text "" String.isEmpty (·.level)
    <*> .sparse "format" .text "" String.isEmpty (·.format)
    <*> .optional "sendHostname" .bool (·.sendHostname)
    <*> .optional "hostname" .text (·.hostname)

/-- The settings of the process as a whole. -/
structure Global where
  /-- Whether the proxy can be reloaded without losing connections. -/
  reload : Bool
  statsTimeout : Option Duration
  logging : Option GlobalLogging
  /-- Further lines of the section. -/
  additionalParameters : String
  additionalCertificates : List Certificate
  maxconn : Option Int64
  nbthread : Option Int64
  tuning : Option Tuning
  tls : Option GlobalTls
  hardStopAfter : Option Duration
  deriving DecidableEq

/-- No settings. -/
def Global.none : Global :=
  ⟨false, .none, .none, "", [], .none, .none, .none, .none, .none⟩

/-- The members of process-wide settings. -/
def Global.schema : Schema Global Global :=
  mk <$> .defaulted "reload" .bool false (·.reload)
    <*> .optional "statsTimeout" .duration (·.statsTimeout)
    <*> .optional "logging" GlobalLogging.schema.format (·.logging)
    <*> .sparse "additionalParameters" .text "" String.isEmpty (·.additionalParameters)
    <*> .sparse "additionalCertificates" Certificate.schema.format.list [] List.isEmpty
      (·.additionalCertificates)
    <*> .optional "maxconn" .int64 (·.maxconn)
    <*> .optional "nbthread" .int64 (·.nbthread)
    <*> .optional "tune" Tuning.schema.format (·.tuning)
    <*> .optional "ssl" GlobalTls.schema.format (·.tls)
    <*> .optional "hardStopAfter" .duration (·.hardStopAfter)

/-! ## Defaults of sections -/

/-- What sections log. -/
structure DefaultsLogging where
  enabled : Bool
  httpLog : Option Bool
  tcpLog : Option Bool
  deriving DecidableEq

/-- The members of logging of sections. -/
def DefaultsLogging.schema : Schema DefaultsLogging DefaultsLogging :=
  mk <$> .required "enabled" .bool (·.enabled)
    <*> .optional "httpLog" .bool (·.httpLog)
    <*> .optional "tcpLog" .bool (·.tcpLog)

/-- The defaults of sections. -/
structure Defaults where
  mode : String
  errorFiles : List ErrorFile
  timeouts : KeyMap Duration
  logging : Option DefaultsLogging
  /-- Further lines of the section. -/
  additionalParameters : String
  deriving DecidableEq

/-- No settings. -/
def Defaults.none : Defaults := ⟨"", [], .empty, .none, ""⟩

/-- The members of defaults. -/
def Defaults.schema : Schema Defaults Defaults :=
  mk <$> .defaulted "mode" .text "" (·.mode)
    <*> .sparse "errorFiles" ErrorFile.schema.format.list [] List.isEmpty (·.errorFiles)
    <*> .defaulted "timeouts" Format.duration.map .empty (·.timeouts)
    <*> .optional "logging" DefaultsLogging.schema.format (·.logging)
    <*> .sparse "additionalParameters" .text "" String.isEmpty (·.additionalParameters)

/-! ## Instances -/

/-- The configuration of an instance. -/
structure Configuration where
  global : Global
  defaults : Defaults
  /-- Selects the records that belong to the instance. -/
  selector : Selector
  deriving DecidableEq

/-- No settings, and a selector that matches every record. -/
def Configuration.none : Configuration := ⟨.none, .none, .all⟩

/-- The members of an instance's configuration. -/
def Configuration.schema : Schema Configuration Configuration :=
  mk <$> .defaulted "global" Global.schema.format .none (·.global)
    <*> .defaulted "defaults" Defaults.schema.format .none (·.defaults)
    <*> .defaulted "selector" Selector.schema.format .all (·.selector)

/-- One fleet of proxies. -/
structure Instance where
  configuration : Configuration
  metrics : Option Metrics
  deriving DecidableEq

/-- The members of an instance. -/
def Instance.schema : Schema Instance Instance :=
  mk <$> .defaulted "configuration" Configuration.schema.format .none (·.configuration)
    <*> .optional "metrics" Metrics.schema.format (·.metrics)

end ProxyFleet.Spec
