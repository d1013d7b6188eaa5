import ProxyFleet.Spec.File

/-!
# Declared listening addresses

The addresses a section listens on, and the encryption of connections on either side of the proxy.
-/

namespace ProxyFleet.Spec

/-- Encryption of a bind or of the connection to a server. -/
structure Tls where
  enabled : Bool
  minVersion : Option String
  verify : Option String
  caCertificate : Option Certificate
  certificate : Option Certificate
  sni : Option String
  alpn : List String
  deriving DecidableEq

/-- The members of encryption settings. -/
def Tls.schema : Schema Tls Tls :=
  mk <$> .required "enabled" .bool (·.enabled)
    <*> .optional "minVersion" .text (·.minVersion)
    <*> .optional "verify" .text (·.verify)
    <*> .optional "caCertificate" Certificate.schema.format (·.caCertificate)
    <*> .optional "certificate" Certificate.schema.format (·.certificate)
    <*> .optional "sni" .text (·.sni)
    <*> .sparse "alpn" Format.text.list [] List.isEmpty (·.alpn)

/-- An address to listen on. -/
structure Bind where
  name : String
  address : Option String
  port : Int64
  portRangeEnd : Option Int64
  transparent : Bool
  tls : Option Tls
  certificateList : Option CertificateList
  /-- Whether the bind is kept out of services and routes. -/
  hidden : Option Bool
  acceptProxy : Option Bool
  deriving DecidableEq

/-- The members of an address. -/
def Bind.schema : Schema Bind Bind :=
  mk <$> .defaulted "name" .text "" (·.name)
    <*> .optional "address" .text (·.address)
    <*> .required "port" .int64 (·.port)
    <*> .optional "portRangeEnd" .int64 (·.portRangeEnd)
    <*> .defaulted "transparent" .bool false (·.transparent)
    <*> .optional "ssl" Tls.schema.format (·.tls)
    <*> .optional "sslCertificateList" CertificateList.schema.format (·.certificateList)
    <*> .optional "hidden" .bool (·.hidden)
    <*> .optional "acceptProxy" .bool (·.acceptProxy)

end ProxyFleet.Spec
