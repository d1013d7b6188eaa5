import ProxyFleet.Selector

/-!
# Declared files

What records declare about files beside the configuration document: certificates, certificate
lists and bodies of error pages, each given inline or by reference to a stored value.
-/

namespace ProxyFleet.Spec

/-! ## References -/

/-- A key of a config map or secret in the instance's namespace. -/
structure KeyRef where
  name : String
  key : String
  deriving DecidableEq

/-- The members of a reference to a key. -/
def KeyRef.schema : Schema KeyRef KeyRef :=
  mk <$> .required "name" .text (·.name) <*> .required "key" .text (·.key)

/-- A key of a secret in a namespace of its own. -/
structure ExternalKeyRef where
  space : String
  name : String
  key : String
  deriving DecidableEq

/-- The members of a reference with a namespace. -/
def ExternalKeyRef.schema : Schema ExternalKeyRef ExternalKeyRef :=
  mk <$> .required "namespace" .text (·.space)
    <*> .required "name" .text (·.name)
    <*> .required "key" .text (·.key)

/-! ## Error pages -/

/-- The body of an error page: a text, or else a key of a config map. -/
structure ErrorPage where
  name : String
  value : Option String
  configMapKey : Option KeyRef
  deriving DecidableEq

/-- The members of an error page. -/
def ErrorPage.schema : Schema ErrorPage ErrorPage :=
  mk <$> .required "name" .text (·.name)
    <*> .optional "value" .text (·.value)
    <*> .defaulted "valueFrom"
      (Schema.format (.optional "configMapKeyRef" KeyRef.schema.format id)) none (·.configMapKey)

/-- The page served for a status code. -/
structure ErrorFile where
  code : Int64
  page : ErrorPage
  deriving DecidableEq

/-- The members of a page with its status code. -/
def ErrorFile.schema : Schema ErrorFile ErrorFile :=
  mk <$> .required "code" .int64 (·.code) <*> .required "file" ErrorPage.schema.format (·.page)

/-! ## Certificates -/

/-- An entry of a certificate's sources, with up to three references. -/
structure CertificateSource where
  configMapKey : Option KeyRef
  secretKey : Option KeyRef
  externalSecretKey : Option ExternalKeyRef
  deriving DecidableEq

/-- The members of an entry of a certificate's sources. -/
def CertificateSource.schema : Schema CertificateSource CertificateSource :=
  mk <$> .optional "configMapKeyRef" KeyRef.schema.format (·.configMapKey)
    <*> .optional "secretKeyRef" KeyRef.schema.format (·.secretKey)
    <*> .optional "secretKeyExternalRef" ExternalKeyRef.schema.format (·.externalSecretKey)

/-- A certificate: a text, or else the values of its sources. -/
structure Certificate where
  name : String
  value : Option String
  sources : List CertificateSource
  deriving DecidableEq

/-- The members of a certificate. -/
def Certificate.schema : Schema Certificate Certificate :=
  mk <$> .required "name" .text (·.name)
    <*> .optional "value" .text (·.value)
    <*> .sparse "valueFrom" CertificateSource.schema.format.list [] List.isEmpty (·.sources)

/-- A response about the validity of a certificate, to be served with it. -/
structure OcspFile where
  name : String
  value : String
  deriving DecidableEq

/-- The members of a validity response. -/
def OcspFile.schema : Schema OcspFile OcspFile :=
  mk <$> .required "name" .text (·.name) <*> .required "value" .text (·.value)

/-- A certificate of a list, and the hosts that it is for. -/
structure CertificateElement where
  certificate : Certificate
  sniFilter : String
  alpn : List String
  /-- Whether validity responses are kept up to date. -/
  ocsp : Bool
  ocspFile : Option OcspFile
  deriving DecidableEq

/-- The members of a certificate of a list. -/
def CertificateElement.schema : Schema CertificateElement CertificateElement :=
  mk <$> .required "certificate" Certificate.schema.format (·.certificate)
    <*> .required "sniFilter" .text (·.sniFilter)
    <*> .sparse "alpn" Format.text.list [] List.isEmpty (·.alpn)
    <*> .defaulted "ocsp" .bool false (·.ocsp)
    <*> .optional "ocspFile" OcspFile.schema.format (·.ocspFile)

/-- A list of certificates, to which the host certificates of the selected backends are added. -/
structure CertificateList where
  name : String
  elements : List CertificateElement
  selector : Option Selector
  deriving DecidableEq

/-- The members of a certificate list. -/
def CertificateList.schema : Schema CertificateList CertificateList :=
  mk <$> .required "name" .text (·.name)
    <*> .sparse "elements" CertificateElement.schema.format.list [] List.isEmpty (·.elements)
    <*> .optional "selector" Selector.schema.format (·.selector)

end ProxyFleet.Spec
