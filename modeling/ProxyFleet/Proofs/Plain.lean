import Mathlib
import ProxyFleet.Pass

/-!
# Plain records

Records that declare as little as a record can.  They stand where a general statement is shown at
one input, each with just the declarations that the statement is about.
-/

namespace ProxyFleet

namespace Spec

/-- Shared settings with nothing declared. -/
def Base.none : Base := ⟨.none, .none, [], [], .empty, [], .none, .none⟩

/-- A frontend that listens nowhere and sends nothing on. -/
def Frontend.none : Frontend := ⟨.none, [], [], ⟨""⟩⟩

/-- A backend without servers. -/
def Backend.none : Backend :=
  ⟨.none, .none, [], [], .none, "", .none, .none, .none, .none, .none, .none⟩

/-- A listen that listens nowhere and has no servers. -/
def Listen.none : Listen :=
  ⟨.none, [], [], [], .none, .none, .none, .none, .none, .none, .none, .none⟩

/-- An instance with nothing declared, which selects every record. -/
def Instance.none : Instance :=
  ⟨⟨⟨false, .none, .none, "", [], .none, .none, .none, .none, .none⟩,
    ⟨"", [], .empty, .none, ""⟩, .all⟩, .none⟩

/-- An instance with a certificate and nothing else declared. -/
def Instance.withCertificate (name content : String) : Instance :=
  ⟨⟨⟨false, .none, .none, "", [⟨name, some content, []⟩], .none, .none, .none, .none, .none⟩,
    ⟨"", [], .empty, .none, ""⟩, .all⟩, .none⟩

/-- Encryption with a certificate. -/
def Tls.withCertificate (c : Certificate) : Tls := ⟨true, .none, .none, .none, some c, .none, []⟩

/-- An address on port 443 with encryption and perhaps a certificate list. -/
def Bind.encrypted (tls : Tls) (list : Option CertificateList) : Bind :=
  ⟨"", .none, 443, .none, false, some tls, list, .none, .none⟩

end Spec

/-- The metadata of a record with a name in a namespace. -/
def Metadata.named (space : Option String) (name : String) : Metadata :=
  { Metadata.none with space, name := some name }

/-- A record with a specification and nothing else. -/
def Record.plain {σ τ : Type} (space : Option String) (name : String) (spec : σ) : Record σ τ :=
  ⟨.named space name, spec, .none⟩

/-! ## Records with stored certificates -/

/-- A frontend whose certificate is kept in a secret of another namespace, and whose certificate
list takes those of the backends of a shop. -/
def hostsFrontend : FrontendRecord :=
  .plain (some "edge") "web"
    { Spec.Frontend.none with
      binds := [.encrypted
        (.withCertificate ⟨"web", none, [⟨none, none, some ⟨"vault", "web", "pem"⟩⟩]⟩)
        (some ⟨"hosts", [], some (.ofLabels (KeyMap.empty.insert "app" "shop"))⟩)] }

/-- A backend of an application, with a host certificate that is kept in a secret. -/
def hostedBackend (name app : String) : BackendRecord :=
  ⟨{ Metadata.named (some "edge") name with labels := some (KeyMap.empty.insert "app" app) },
    { Spec.Backend.none with
      hostCertificate := some ⟨⟨name, none, [⟨none, some ⟨"tls-" ++ name, "pem"⟩, none⟩]⟩,
        name ++ ".test", [], false, none⟩ },
    none⟩

end ProxyFleet
