import ProxyFleet.Artifact
import ProxyFleet.Section.Value
import ProxyFleet.Spec.File
import ProxyFleet.Store

/-!
# Files beside the document

Certificates, certificate lists and error pages as sections refer to them: each has a path in the
configuration directory and a source for its content.
-/

namespace ProxyFleet.Section

/-- Where the content of a file comes from. -/
inductive Source
  /-- A text, taken as it is. -/
  | inline (content : String)
  /-- Stored values, each trimmed, with line feeds between them. -/
  | stored (refs : List StoreRef)
  deriving DecidableEq

/-- The stored values that a source reads, in order. -/
def Source.refs : Source → List StoreRef
  | .inline _ => []
  | .stored refs => refs

/-! ## Certificates -/

/-- A certificate, with everything that belongs to it in one file. -/
structure Certificate where
  name : String
  source : Source
  deriving DecidableEq

namespace Certificate

/-- The path of the certificate's file. -/
def path (c : Certificate) : String := configPath c.name "crt"

/-- The references of one entry of a certificate's sources.  Only an external reference names a
namespace of its own. -/
def refsOf (space : String) (s : Spec.CertificateSource) : List StoreRef :=
  (s.configMapKey.toList.map (fun r => ⟨.configMap, space, r.name, r.key⟩)) ++
    (s.secretKey.toList.map (fun r => ⟨.secret, space, r.name, r.key⟩)) ++
    (s.externalSecretKey.toList.map (fun r => ⟨.secret, r.space, r.name, r.key⟩))

/-- Checks a declared certificate.  A text wins over sources. -/
def ofSpec (space : String) (c : Spec.Certificate) : Except Fault Certificate := do
  if c.name.isEmpty then throw (.empty "certificate name")
  let name ← fileName "certificate name" c.name
  return ⟨name, match c.value with
    | some content => .inline content
    | none => .stored (c.sources.flatMap (refsOf space))⟩

end Certificate

/-- What is said about the validity of a certificate. -/
inductive Ocsp
  | off
  /-- Responses are fetched and kept up to date. -/
  | update
  /-- The same, starting with a given response. -/
  | updateWith (name content : String)
  deriving DecidableEq

/-- The path of a validity response's file. -/
def ocspPath (name : String) : String := configPath name "ocsp"

/-- A certificate of a certificate list. -/
structure CertificateElement where
  certificate : Certificate
  sniFilter : String
  alpn : List String
  ocsp : Ocsp
  deriving DecidableEq

namespace CertificateElement

/-- The settings of an element, between brackets if there are any. -/
def settings (e : CertificateElement) : String :=
  let words := (if e.alpn.isEmpty then [] else ["alpn", String.intercalate "," e.alpn]) ++
    match e.ocsp with
    | .off => []
    | .update => ["ocsp-update", "on"]
    | .updateWith name _ => ["ocsp-update", "on", "ocsp", ocspPath name]
  if words.isEmpty then "" else "[" ++ statement words ++ "]"

/-- The element's line in a certificate list, with its line feed. -/
def line (e : CertificateElement) : String :=
  statement [e.certificate.path, e.settings, e.sniFilter, "\n"]

/-- Checks a declared element.  A validity response counts only while responses are on. -/
def ofSpec (space : String) (e : Spec.CertificateElement) : Except Fault CertificateElement := do
  let ocsp ←
    if e.ocsp then
      match e.ocspFile with
      | none => pure Ocsp.update
      | some file => do pure (Ocsp.updateWith (← fileName "ocsp file name" file.name) file.value)
    else pure Ocsp.off
  return ⟨← Certificate.ofSpec space e.certificate, e.sniFilter, e.alpn, ocsp⟩

end CertificateElement

/-- A file that lists certificates by the hosts they are for. -/
structure CertificateList where
  name : String
  elements : List CertificateElement
  /-- Selects the backends whose host certificates are added. -/
  selector : Option Selector
  deriving DecidableEq

namespace CertificateList

/-- The path of the list. -/
def path (l : CertificateList) : String := configPath l.name "map"

/-- Checks a declared list. -/
def ofSpec (space : String) (l : Spec.CertificateList) : Except Fault CertificateList := do
  if l.name.isEmpty then throw (.empty "certificate list name")
  let name ← fileName "certificate list name" l.name
  return ⟨name, ← l.elements.mapM (CertificateElement.ofSpec space), l.selector⟩

end CertificateList

/-! ## Error pages -/

/-- The status codes that may have a page of their own. -/
def errorFileCodes : List Nat :=
  [200, 400, 401, 403, 404, 405, 407, 408, 410, 413, 425, 429, 500, 501, 502, 503, 504]

/-- The page served for a status code.  One without a source is referred to but not written. -/
structure ErrorFile where
  code : Nat
  name : String
  source : Option Source
  deriving DecidableEq

namespace ErrorFile

/-- The path of the page. -/
def path (e : ErrorFile) : String := configPath e.name "http"

/-- The statement that names the page. -/
def statement (e : ErrorFile) : String := Section.statement ["errorfile", toString e.code, e.path]

/-- Checks a declared page.  A text wins over a reference. -/
def ofSpec (space : String) (e : Spec.ErrorFile) : Except Fault ErrorFile := do
  let code := e.code.toInt
  if !(0 ≤ code && errorFileCodes.contains code.toNat) then throw (.errorFileCode code)
  if e.page.name.isEmpty then throw (.empty "error file name")
  let name ← fileName "error file name" e.page.name
  return ⟨code.toNat, name,
    match e.page.value, e.page.configMapKey with
    | some content, _ => some (.inline content)
    | none, some r => some (.stored [⟨.configMap, space, r.name, r.key⟩])
    | none, none => none⟩

end ErrorFile

end ProxyFleet.Section
