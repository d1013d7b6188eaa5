import ProxyFleet.Proofs.Checks
import ProxyFleet.Proofs.OneLine
import ProxyFleet.Proofs.SectionNames

/-!
# Line feeds in statements

A statement is put together from fixed words, numbers, digests, and texts that a record declares.
The texts are written as they are, so a line feed in one of them ends the line of its statement,
and what follows it stands in the document on a line of its own.

**Rules and files.**  For each part of a section, `texts` are the declared texts that its statement
writes, and the statement stands on one line exactly if they do (`Acl.oneLine_statement`,
`HttpRule.oneLine_statement`, `Bind.oneLine_statement`, `Server.oneLine_statement` and so on).

**Sections.**  The same for the statements of a whole section (`Frontend.oneLines_statements` and
so on).  Additional parameters add nothing here: they are cut into lines when they are checked.

Main statement: `Section.Written.lines_iff`.
-/

namespace ProxyFleet.Section

/-! ## Conditions, tests and rules -/

def Condition.texts (c : Option Condition) : List String := (c.map (·.test)).toList

lemma Condition.oneLines_words {c : Condition} : OneLines c.words ↔ OneLine c.test := by
  have hkeyword : OneLine (if c.negated then "unless" else "if") := by
    cases c.negated <;> decide
  simp [words, hkeyword]

@[simp] lemma Condition.oneLines_optionalWords {c : Option Condition} :
    OneLines (optionalWords c) ↔ OneLines (texts c) := by
  cases c with
  | none => simp [optionalWords, texts]
  | some c => simp [optionalWords, texts, oneLines_words]

namespace Acl

/-- What the statement of a test writes: values that are read from a file are not among it. -/
def texts (a : Acl) : List String :=
  [a.name, a.criterion] ++ if a.isExternalized then [] else a.values

lemma oneLine_filePath {a : Acl} : OneLine a.filePath ↔ OneLine a.name := by
  simp (disch := decide) [filePath, Digest.md5Hex, oneLine_fixed]

@[simp] lemma oneLine_statement {a : Acl} : OneLine a.statement ↔ OneLines a.texts := by
  cases h : a.isExternalized with
  | false => simp (disch := decide) [statement, texts, h, oneLine_fixed]
  | true =>
    simp (disch := decide) [statement, texts, h, oneLine_fixed, oneLine_filePath]
    tauto

end Acl

namespace TcpRule

def texts (r : TcpRule) : List String := r.action.toList ++ Condition.texts r.condition

@[simp] lemma oneLine_statement {r : TcpRule} : OneLine r.statement ↔ OneLines r.texts := by
  have hkind : OneLine r.kind.name := by cases r.kind <;> decide
  simp (disch := decide) [statement, texts, hkind, oneLine_fixed]

end TcpRule

/-- The text that a header is given, or the name of the variable. -/
def HeaderContent.text : HeaderContent → String
  | .literal value => value
  | .variable v => v.name

namespace HeaderValue

/-- What the value of a header writes.  A format without a place for the content leaves it out. -/
def texts (v : HeaderValue) : List String :=
  match v.format with
  | some format => format :: if Text.contains format "%s" then [v.content.text] else []
  | none => [v.content.text]

/-- The content of a header put into its format, if there is one. -/
lemma oneLine_formatted {written : String} {c : HeaderContent} {format : String}
    (h : OneLine written ↔ OneLine c.text) :
    OneLine (Text.replaceFirst format "%s" written) ↔ OneLines (texts ⟨c, some format⟩) := by
  rw [Text.oneLine_replaceFirst (by decide), h, texts]
  by_cases hplace : Text.contains format "%s" = true <;> simp [hplace]

@[simp] lemma oneLine_text {v : HeaderValue} : OneLine v.text ↔ OneLines v.texts := by
  have hvariable : ∀ u : Variable, OneLine ("$\x7b" ++ u.name ++ "\x7d") ↔ OneLine u.name := by
    intro u
    simp (disch := decide) [oneLine_fixed]
  rcases v with ⟨value | u, _ | format⟩
  · simp [text, texts, HeaderContent.text]
  · exact oneLine_formatted Iff.rfl
  · simpa [text, texts, HeaderContent.text] using hvariable u
  · exact oneLine_formatted (hvariable u)

end HeaderValue

namespace Redirect

/-- What a redirect writes.  Of a cookie that is cleared only the name is written. -/
def texts (r : Redirect) : List String :=
  [r.value] ++ r.setCookie.toList.flatMap (fun c => [c.name, c.value]) ++
    r.clearCookie.toList.map (·.name) ++ Condition.texts r.condition

@[simp] lemma oneLine_statement {r : Redirect} : OneLine r.statement ↔ OneLines r.texts := by
  have hkind : OneLine r.kind.name := by cases r.kind <;> decide
  have hset : OneLines ((r.setCookie.map setCookieWords).getD []) ↔
      OneLines (r.setCookie.toList.flatMap (fun c => [c.name, c.value])) := by
    cases r.setCookie <;> simp (disch := decide) [setCookieWords, oneLine_fixed]
  have hclear : OneLines ((r.clearCookie.map clearCookieWords).getD []) ↔
      OneLines (r.clearCookie.toList.map (·.name)) := by
    cases r.clearCookie with
    | none => simp
    | some c =>
      have hvalue : OneLine (if c.value = "=" then "=" else "") := by split <;> decide
      simp (disch := decide) [clearCookieWords, oneLine_fixed, hvalue]
  simp (disch := decide) [statement, texts, hkind, hset, hclear, oneLine_fixed]

end Redirect

namespace HttpRule

def texts : HttpRule → List String
  | .setHeader name value condition => [name] ++ value.texts ++ Condition.texts condition
  | .setPath format condition => [format] ++ Condition.texts condition
  | .addHeader name value condition => [name] ++ value.texts ++ Condition.texts condition
  | .replacePath pattern format condition => [pattern, format] ++ Condition.texts condition
  | .deny _ condition => Condition.texts condition
  | .redirect r => r.texts
  | .answer _ contentType format content => [contentType, format, content]

@[simp] lemma oneLine_answerText {format content : String} :
    OneLine (answerText format content) ↔ OneLine content := by
  rw [answerText]
  split <;> simp (disch := decide) [oneLine_fixed]

@[simp] lemma oneLine_statement {r : HttpRule} : OneLine r.statement ↔ OneLines r.texts := by
  cases r with
  | setHeader name value condition =>
    simp (disch := decide) [statement, texts, oneLine_fixed]
  | setPath format condition => simp (disch := decide) [statement, texts, oneLine_fixed]
  | addHeader name value condition =>
    simp (disch := decide) [statement, texts, oneLine_fixed]
  | replacePath pattern format condition =>
    simp (disch := decide) [statement, texts, oneLine_fixed]
  | deny status condition => simp (disch := decide) [statement, texts, oneLine_fixed]
  | redirect r => exact Redirect.oneLine_statement
  | answer status contentType format content =>
    simp (disch := decide) [statement, texts, oneLine_fixed]

end HttpRule

/-! ## Shared settings -/

@[simp] lemma Certificate.oneLine_path {c : Certificate} : OneLine c.path ↔ OneLine c.name :=
  oneLine_configPath (by decide)

@[simp] lemma CertificateList.oneLine_path {l : CertificateList} :
    OneLine l.path ↔ OneLine l.name := oneLine_configPath (by decide)

@[simp] lemma ErrorFile.oneLine_statement {e : ErrorFile} :
    OneLine e.statement ↔ OneLine e.name := by
  have hpath : OneLine e.path ↔ OneLine e.name := oneLine_configPath (by decide)
  simp (disch := decide) [statement, hpath, oneLine_fixed]

@[simp] lemma RegexMapping.oneLine_lookup {m : RegexMapping} :
    OneLine m.lookup ↔ OneLine m.parameter ∧ OneLine m.name := by
  have hpath : OneLine m.path ↔ OneLine m.name := oneLine_configPath (by decide)
  simp (disch := decide) [lookup, hpath, oneLine_fixed]

@[simp] lemma ForwardFor.oneLine_statement {f : ForwardFor} :
    OneLine f.statement ↔ OneLines (f.except.toList ++ f.header.toList) := by
  simp (disch := decide) [statement, oneLine_fixed]

@[simp] lemma Timeouts.oneLines_statements (t : Timeouts) : OneLines t.statements := by
  have hkeys : ∀ key ∈ t.scope.keys, OneLine key := by
    cases t.scope <;> decide
  rw [statements, oneLines_map]
  rintro ⟨key, n⟩ he
  obtain ⟨k, hk, he⟩ := List.mem_filterMap.1 he
  obtain ⟨m, -, he⟩ := Option.map_eq_some_iff.1 he
  cases he
  simp (disch := decide) [hkeys _ hk, oneLine_fixed]

@[simp] lemma Mode.oneLine_name (m : Mode) : OneLine m.name := by
  cases m <;> decide

namespace Base

def texts (b : Base) : List String :=
  b.forwardFor.toList.flatMap (fun f => f.except.toList ++ f.header.toList) ++
    b.acls.flatMap Acl.texts ++ b.tcpRules.flatMap TcpRule.texts ++
    b.httpRules.flatMap HttpRule.texts ++ b.errorFiles.map (·.name)

@[simp] lemma oneLines_modeStatements {b : Base} : OneLines b.modeStatements := by
  simp (disch := decide) [modeStatements, oneLine_fixed]

@[simp] lemma oneLines_forwardForStatements {b : Base} : OneLines b.forwardForStatements ↔
    OneLines (b.forwardFor.toList.flatMap (fun f => f.except.toList ++ f.header.toList)) := by
  simp [forwardForStatements]

@[simp] lemma oneLines_ruleStatements {b : Base} : OneLines b.ruleStatements ↔
    OneLines (b.acls.flatMap Acl.texts ++ b.tcpRules.flatMap TcpRule.texts ++
      b.httpRules.flatMap HttpRule.texts ++ b.errorFiles.map (·.name)) := by
  simp [ruleStatements]

end Base

/-! ## Addresses and servers -/

@[simp] lemma Port.oneLine_text (p : Port) : OneLine p.text := oneLine_natToString p.number

@[simp] lemma Verify.oneLine_name (v : Verify) : OneLine v.name := by
  cases v <;> decide

namespace Bind

/-- What the settings of encryption of an address write.  The certificate list of an address
without encryption is not written. -/
def tlsTexts (list : Option CertificateList) (tls : BindTls) : List String :=
  tls.certificate.toList.map (·.name) ++ tls.caCertificate.toList.map (·.name) ++
    list.toList.map (·.name) ++ tls.minVersion.toList

def texts (b : Bind) : List String :=
  [b.address, b.name] ++ b.tls.toList.flatMap (tlsTexts b.certificateList)

@[simp] lemma oneLine_endpoint {b : Bind} : OneLine b.endpoint ↔ OneLine b.address := by
  have hrange : OneLine ((b.lastPort.map (fun p => "-" ++ p.text)).getD "") := by
    cases b.lastPort <;> simp (disch := decide) [oneLine_fixed]
  simp (disch := decide) [endpoint, hrange, oneLine_fixed]

lemma oneLines_tlsWords {list : Option CertificateList} {tls : BindTls} :
    OneLines (tlsWords tls) ∧ OneLines (lastTlsWords list tls) ↔ OneLines (tlsTexts list tls) := by
  simp (disch := decide) [tlsWords, lastTlsWords, tlsTexts, oneLine_fixed]
  tauto

@[simp] lemma oneLine_statement {b : Bind} : OneLine b.statement ↔ OneLines b.texts := by
  cases h : b.tls with
  | none => simp (disch := decide) [statement, texts, h, oneLine_fixed]
  | some tls =>
    simp (disch := decide) [statement, texts, h, oneLine_fixed, ← oneLines_tlsWords]

end Bind

namespace ServerParams

def tlsTexts (tls : ServerTls) : List String :=
  tls.caCertificate.toList.map (·.name) ++ tls.certificate.toList.map (·.name) ++
    tls.sni.toList ++ tls.minVersion.toList

def texts (p : ServerParams) : List String :=
  p.tls.toList.flatMap tlsTexts ++ p.initAddr.toList ++ p.resolvers.toList ++ p.verifyHost.toList

lemma oneLines_proxyProtocol (p : ProxyProtocol) : OneLines p.words := by
  have hoption : ∀ o : ProxyV2Option, OneLine o.name := by
    intro o
    cases o <;> decide
  cases p with
  | v1 => decide
  | v2 options =>
    rw [ProxyProtocol.words]
    split <;> simp (disch := decide) [hoption, oneLine_fixed]
  | v2Ssl => decide
  | v2SslCn => decide

lemma oneLines_words {p : ServerParams} {e : Emitted} (hcookie : OneLines e.cookie.toList) :
    OneLines (p.words e) ↔
      (p.tls.isSome → OneLines e.alpn.toList) ∧ OneLines p.texts := by
  have hprotocol : OneLines ((p.proxyProtocol.map ProxyProtocol.words).getD []) := by
    cases p.proxyProtocol <;> simp [oneLines_proxyProtocol]
  cases h : p.tls with
  | none =>
    simp (disch := decide) [words, texts, h, hprotocol, hcookie, oneLine_fixed]
  | some tls =>
    simp (disch := decide) [words, texts, tlsTexts, h, hprotocol, hcookie, oneLine_fixed]
    tauto

end ServerParams

namespace Server

/-- The protocols that are offered to a server, if they are written. -/
def offered (tls : ServerTls) : List String :=
  if tls.verify = some .required then tls.alpn else []

/-- What a server writes.  Its cookie is a digest. -/
def texts (s : Server) : List String :=
  [s.name, s.address] ++ s.params.tls.toList.flatMap offered ++ s.params.texts

lemma oneLines_alpn {tls : ServerTls} : OneLines (alpn tls).toList ↔ OneLines (offered tls) := by
  rw [alpn, offered]
  by_cases hverify : tls.verify = some .required
  · cases hnames : tls.alpn with
    | nil => simp [hverify]
    | cons name rest =>
      have hcomma : OneLine "," := by decide
      simp [hverify, hcomma]
  · simp [hverify]

@[simp] lemma oneLine_statement {s : Server} : OneLine s.statement ↔ OneLines s.texts := by
  have hcookie : OneLines
      (if s.params.cookie then some (Digest.md5Hex s.endpoint) else none).toList := by
    cases s.params.cookie <;> simp [Digest.md5Hex]
  rw [statement, Section.oneLine_statement, oneLines_append, ServerParams.oneLines_words hcookie]
  cases h : s.params.tls with
  | none => simp (disch := decide) [texts, endpoint, h, oneLine_fixed, and_assoc]
  | some tls => simp (disch := decide) [texts, endpoint, h, oneLines_alpn, oneLine_fixed, and_assoc]

end Server

namespace ServerTemplate

def texts (t : ServerTemplate) : List String := [t.nameStart, t.fqdn] ++ t.params.texts

@[simp] lemma oneLine_range (t : ServerTemplate) : OneLine t.range := by
  rw [range]
  split <;> simp (disch := decide) [oneLine_fixed]

@[simp] lemma oneLine_statement {t : ServerTemplate} : OneLine t.statement ↔ OneLines t.texts := by
  rw [statement, Section.oneLine_statement, oneLines_append,
    ServerParams.oneLines_words (by simp)]
  simp (disch := decide) [texts, oneLine_fixed, and_assoc]

end ServerTemplate

/-! ## Pools -/

@[simp] lemma HashType.oneLine_statement {h : HashType} : OneLine h.statement ↔
    OneLines (h.method.toList ++ h.function.toList ++ h.modifier.toList) := by
  simp (disch := decide) [statement, oneLine_fixed]

namespace HealthCheck

def texts : HealthCheck → List String
  | .http method uri => [method, uri]
  | .tcp => []

@[simp] lemma oneLine_statement {c : HealthCheck} : OneLine c.statement ↔ OneLines c.texts := by
  cases c <;> simp (disch := decide) [statement, texts, oneLine_fixed]

end HealthCheck

@[simp] lemma Cookie.oneLines_statements {c : Cookie} :
    OneLines c.statements ↔ OneLines (c.domains ++ c.attributes) := by
  have hlimit : ∀ {keyword : String} {n : Int64}, OneLine keyword →
      OneLines (limit keyword n) := by
    intro keyword n hkeyword
    rw [limit]
    split <;> simp [hkeyword]
  have hmode : ∀ m : CookieMode, OneLine m.name := by
    intro m
    cases m <;> decide
  simp (disch := decide) [statements, statement, digest, Digest.md5Hex, hlimit, hmode,
    oneLine_fixed]
  simp (disch := decide) [OneLines, oneLine_fixed]

namespace Pool

def texts (p : Pool) : List String :=
  p.balance.toList ++
    p.hashType.toList.flatMap
      (fun h => h.method.toList ++ h.function.toList ++ h.modifier.toList) ++
    p.healthCheck.toList.flatMap HealthCheck.texts ++
    p.cookie.toList.flatMap (fun c => c.domains ++ c.attributes) ++
    p.servers.flatMap Server.texts ++ p.templates.flatMap ServerTemplate.texts

end Pool

/-! ## Sections -/

namespace Backend

def texts (b : Backend) : List String := b.base.texts ++ b.pool.texts

lemma oneLines_statements {b : Backend} :
    OneLines b.fragment.statements ↔ OneLines b.texts := by
  have hcookie : OneLines ((b.pool.cookie.map Cookie.statements).getD []) ↔
      OneLines (b.pool.cookie.toList.flatMap (fun c => c.domains ++ c.attributes)) := by
    cases b.pool.cookie <;> simp
  simp (disch := decide) [fragment, texts, Base.texts, Pool.texts, hcookie, oneLines_toList,
    oneLine_fixed]
  tauto

end Backend

namespace SwitchingRule

def texts (r : SwitchingRule) : List String :=
  (match r.target with
    | .name name => [name]
    | .mapping m => [m.parameter, m.name]) ++ Condition.texts r.condition

@[simp] lemma oneLine_statement {r : SwitchingRule} : OneLine r.statement ↔ OneLines r.texts := by
  rcases r with ⟨name | m, _ | c⟩
  all_goals
    simp (disch := decide) [statement, texts, Condition.texts, Condition.oneLines_words,
      oneLine_fixed, and_assoc]

end SwitchingRule

namespace Frontend

def texts (f : Frontend) : List String :=
  f.base.texts ++ f.binds.flatMap Bind.texts ++ f.switching.flatMap SwitchingRule.texts ++
    f.defaultBackend.toList

lemma oneLines_statements {f : Frontend} :
    OneLines f.fragment.statements ↔ OneLines f.texts := by
  simp (disch := decide) [fragment, texts, Base.texts, oneLines_toList, oneLine_fixed]
  tauto

end Frontend

namespace Listen

/-- What the statements of the two halves write besides the name that they share. -/
def texts (l : Listen) : List String :=
  l.base.texts ++ l.binds.flatMap Bind.texts ++ l.pool.texts

lemma oneLines_statements {l : Listen} (hname : OneLine l.name) :
    OneLines (l.frontend.fragment.statements ++ l.backend.fragment.statements) ↔
      OneLines l.texts := by
  have hfront : OneLines l.frontend.texts ↔
      OneLines l.base.texts ∧ OneLines (l.binds.flatMap Bind.texts) := by
    have htexts : l.frontend.texts =
        l.base.texts ++ l.binds.flatMap Bind.texts ++ [] ++ [l.name] := rfl
    simp [htexts, hname]
  have hback : OneLines l.backend.texts ↔ OneLines l.base.texts ∧ OneLines l.pool.texts :=
    oneLines_append
  rw [oneLines_append, Frontend.oneLines_statements, Backend.oneLines_statements, hfront, hback,
    texts, oneLines_append, oneLines_append]
  tauto

end Listen

namespace Resolver

def texts (r : Resolver) : List String := r.nameservers.flatMap (fun n => [n.name, n.address])

lemma oneLines_hold (h : Hold) : OneLines h.statements := by
  have hkeys : ∀ e ∈ h.toList, OneLine e.1 := by
    simp (disch := decide) [Hold.toList, oneLine_fixed]
  intro s hs
  obtain ⟨e, he, hs⟩ := List.mem_filterMap.1 hs
  obtain ⟨n, -, rfl⟩ := Option.map_eq_some_iff.1 hs
  simp (disch := decide) [hkeys e he, oneLine_fixed]

lemma oneLines_statements {r : Resolver} :
    OneLines r.fragment.statements ↔ OneLines r.texts := by
  simp (disch := decide) [fragment, texts, Nameserver.statement, oneLines_hold, oneLine_fixed]

end Resolver

namespace LogTarget

def texts (t : LogTarget) : List String :=
  [t.address] ++ t.format.toList ++ [t.facility] ++ t.level.toList

@[simp] lemma oneLine_statement {t : LogTarget} : OneLine t.statement ↔ OneLines t.texts := by
  simp (disch := decide) [statement, texts, oneLine_fixed]

end LogTarget

namespace Global

/-- What the statements of the process write besides its additional parameters. -/
def texts (g : Global) : List String :=
  g.log.toList.flatMap LogTarget.texts ++ g.sendHostname.toList.flatMap Option.toList ++
    g.tls.toList.flatMap (fun t => t.ciphers ++ t.cipherSuites ++ t.minVersion.toList) ++
    g.tuning.toList.flatMap (fun t => t.keylog.toList)

lemma oneLines_listed {keyword : String} (h : OneLine keyword) {names : List String} :
    OneLines (GlobalTls.listed keyword names) ↔ OneLines names := by
  rw [GlobalTls.listed]
  cases names with
  | nil => simp
  | cons name rest =>
    have hcolon : OneLine ":" := by decide
    simp [h, hcolon]

lemma oneLines_tls {t : GlobalTls} :
    OneLines t.statements ↔ OneLines (t.ciphers ++ t.cipherSuites ++ t.minVersion.toList) := by
  simp (disch := decide) [GlobalTls.statements, oneLines_listed, oneLines_toList, oneLine_fixed]

lemma oneLines_numeric {keyword : String} (h : OneLine keyword) {n : Option Int64} :
    OneLines (Tuning.numeric keyword n) := by
  simp [Tuning.numeric, h]

lemma oneLines_tuning {t : Tuning} : OneLines t.statements ↔ OneLines t.keylog.toList := by
  simp (disch := decide) [Tuning.statements, oneLines_numeric, oneLines_toList, oneLine_fixed]

lemma oneLines_statements {g : Global} (hparameters : OneLines g.additionalParameters) :
    OneLines g.fragment.statements ↔ OneLines g.texts := by
  have htls : OneLines ((g.tls.map GlobalTls.statements).getD []) ↔
      OneLines (g.tls.toList.flatMap
        (fun t => t.ciphers ++ t.cipherSuites ++ t.minVersion.toList)) := by
    cases g.tls <;> simp [oneLines_tls]
  have htuning : OneLines ((g.tuning.map Tuning.statements).getD []) ↔
      OneLines (g.tuning.toList.flatMap (fun t => t.keylog.toList)) := by
    cases g.tuning <;> simp [oneLines_tuning]
  simp (disch := decide) [fragment, texts, statsSocket, oneLines_numeric, htls, htuning,
    hparameters, oneLine_fixed]

lemma oneLines_additionalParameters {space : String} {spec : Spec.Global} {g : Global}
    (h : ofSpec space spec = .ok g) : OneLines g.additionalParameters := by
  simp only [ofSpec, Check.bind_eq_ok_iff, Check.pure_eq_ok_iff] at h
  obtain ⟨-, -, -, -, -, -, -, -, rfl⟩ := h
  exact Text.oneLines_trimmedLines _

end Global

namespace Defaults

/-- What the statements of the defaults write besides their additional parameters. -/
def texts (d : Defaults) : List String := d.errorFiles.map (·.name)

lemma oneLines_statements {d : Defaults} (hparameters : OneLines d.additionalParameters) :
    OneLines d.fragment.statements ↔ OneLines d.texts := by
  simp (disch := decide) [fragment, texts, hparameters, oneLine_fixed]

lemma oneLines_additionalParameters {space : String} {spec : Spec.Defaults} {d : Defaults}
    (h : ofSpec space spec = .ok d) : OneLines d.additionalParameters := by
  simp only [ofSpec, Check.bind_eq_ok_iff, Check.pure_eq_ok_iff] at h
  obtain ⟨-, -, -, -, -, -, rfl⟩ := h
  exact Text.oneLines_trimmedLines _

end Defaults

lemma Metrics.oneLines_statements {m : Metrics} :
    OneLines m.fragment.statements ↔ OneLine m.address := by
  simp (disch := decide) [fragment, oneLine_fixed]

namespace Instance

/-- The sections of an instance. -/
def fragments (i : Instance) : List Fragment :=
  [i.global.fragment, i.defaults.fragment] ++ (i.metrics.map (·.fragment)).toList

def texts (i : Instance) : List String :=
  i.global.texts ++ i.defaults.texts ++ (i.metrics.map (·.address)).toList

lemma oneLines_statements {space name : String} {spec : Spec.Instance} {i : Instance}
    (h : ofSpec space name spec = .ok i) :
    OneLines (i.fragments.flatMap (·.statements)) ↔ OneLines i.texts := by
  simp only [ofSpec, Check.bind_eq_ok_iff, Check.pure_eq_ok_iff] at h
  obtain ⟨metrics, -, g, hg, d, hd, rfl⟩ := h
  have hglobal := Global.oneLines_statements (Global.oneLines_additionalParameters hg)
  have hdefaults := Defaults.oneLines_statements (Defaults.oneLines_additionalParameters hd)
  cases metrics <;> simp [fragments, texts, hglobal, hdefaults, Metrics.oneLines_statements]

end Instance

/-! ## Records -/

/-- The sections of a record that a check has accepted, and the declared texts that they write. -/
inductive Written (space name : String) : List Fragment → List String → Prop
  | proxyInstance {spec : Spec.Instance} {i : Instance} :
      Instance.ofSpec space name spec = .ok i → Written space name i.fragments i.texts
  | listen {spec : Spec.Listen} {l : Listen} :
      Listen.ofSpec space name spec = .ok l →
        Written space name [l.frontend.fragment, l.backend.fragment] l.texts
  | frontend {spec : Spec.Frontend} {f : Frontend} :
      Frontend.ofSpec space name spec = .ok f → Written space name [f.fragment] f.texts
  | backend {spec : Spec.Backend} {b : Backend} :
      Backend.ofSpec space name spec = .ok b → Written space name [b.fragment] b.texts
  | resolver {spec : Spec.Resolver} {r : Resolver} :
      Resolver.ofSpec name spec = .ok r → Written space name [r.fragment] r.texts

namespace Written

variable {space name : String} {fragments : List Fragment} {texts : List String}

lemma ne_nil (h : Written space name fragments texts) : fragments ≠ [] := by
  cases h <;> simp [Instance.fragments]

/-- A section of a record has its name, a fixed one or none, and starts with a line of its own. -/
lemma oneLine_header (h : Written space name fragments texts) (hname : OneLine name) :
    ∀ f ∈ fragments, OneLine f.header := by
  have hnamed : ∀ {f : Fragment}, f.name = some name → OneLine f.header := by
    intro f hf
    have hkeyword : OneLine f.kind.keyword := by cases f.kind <;> decide
    simp (disch := decide) [Fragment.header, hf, hkeyword, hname, oneLine_fixed]
  intro f hf
  cases h with
  | proxyInstance h =>
    have hmetrics : ∀ m : Metrics, OneLine m.fragment.header := by
      intro m
      exact (by decide : OneLine "frontend metrics")
    simp only [Instance.fragments, List.mem_append, List.mem_cons, List.not_mem_nil, or_false,
      Option.mem_toList, Option.map_eq_some_iff] at hf
    rcases hf with (rfl | rfl) | ⟨m, -, rfl⟩
    · exact (by decide : OneLine "global")
    · exact (by decide : OneLine "defaults")
    · exact hmetrics m
  | listen h =>
    have hl := (Listen.ofSpec_eq_ok_iff.1 h).2.2.2.2
    rcases List.mem_cons.1 hf with rfl | hf
    · exact hnamed (congrArg some hl)
    · rw [List.mem_singleton.1 hf]
      exact hnamed (congrArg some hl)
  | frontend h =>
    rw [List.mem_singleton.1 hf]
    exact hnamed (congrArg some (Frontend.ofSpec_eq_ok_iff.1 h).2.2.2.1)
  | backend h =>
    rw [List.mem_singleton.1 hf]
    exact hnamed (congrArg some (Backend.ofSpec_eq_ok_iff.1 h).2.2.2.1)
  | resolver h =>
    rw [List.mem_singleton.1 hf]
    exact hnamed (congrArg some (Resolver.name_of_ofSpec h))

lemma oneLines_statements (h : Written space name fragments texts) (hname : OneLine name) :
    OneLines (fragments.flatMap (·.statements)) ↔ OneLines texts := by
  cases h with
  | proxyInstance h => exact Instance.oneLines_statements h
  | listen h =>
    have hl := (Listen.ofSpec_eq_ok_iff.1 h).2.2.2.2
    simpa using Listen.oneLines_statements (hl ▸ hname)
  | frontend h => simpa using Frontend.oneLines_statements
  | backend h => simpa using Backend.oneLines_statements
  | resolver h => simpa using Resolver.oneLines_statements

/-- **A record adds no lines exactly if its texts have none.**  The statements of a record's
sections stand on one line each exactly if all declared texts that they write do.  A document in
which the other sections are on their lines then has just the headers, the indented statements and
the blank lines between sections; with a line feed in one of these texts it has other lines. -/
theorem lines_iff (h : Written space name fragments texts) (hname : OneLine name) :
    (OneLines (fragments.flatMap (·.statements)) ↔ OneLines texts) ∧
      ∀ document : List Fragment, fragments ⊆ document →
        (∀ f ∈ document, f ∈ fragments ∨ f.Clean) →
        (Text.lines (Fragment.render document) = Fragment.documentLines document ++ [""] ↔
          OneLines texts) := by
  refine ⟨h.oneLines_statements hname, fun document hsub hothers => ?_⟩
  have hne : document ≠ [] := by
    obtain ⟨f, hf⟩ := List.exists_mem_of_ne_nil _ h.ne_nil
    exact List.ne_nil_of_mem (hsub hf)
  rw [Fragment.lines_render_iff hne, ← h.oneLines_statements hname, oneLines_flatMap]
  constructor
  · exact fun hclean f hf => (hclean f (hsub hf)).2
  · intro hstatements f hf
    rcases hothers f hf with hf | hclean
    · exact ⟨h.oneLine_header hname f hf, hstatements f hf⟩
    · exact hclean

end Written

namespace Frontend

/-- A declared frontend that tests where requests come from. -/
def testDeclared (value : String) : Spec.Frontend :=
  { Spec.Frontend.none with
    base := { Spec.Base.none with acls := [⟨"office", "src", [value]⟩] } }

/-- What it becomes under the name `web`. -/
def tested (value : String) : Frontend where
  name := "web"
  base := ⟨.none, .none, false, ⟨.frontend, .empty⟩, [⟨"office", "src", [value]⟩], [], [], []⟩
  binds := []
  switching := []
  defaultBackend := none

end Frontend

/-- A network as the value. -/
theorem Written.lines_iff_network :
    Frontend.ofSpec "edge" "web" (Frontend.testDeclared "10.0.0.0/8") =
      .ok (Frontend.tested "10.0.0.0/8") ∧ OneLine "web" ∧
    Text.lines (Fragment.render [(Frontend.tested "10.0.0.0/8").fragment]) =
      ["frontend web", "  acl office src 10.0.0.0/8", ""] := by
  have hspec : Frontend.ofSpec "edge" "web" (Frontend.testDeclared "10.0.0.0/8") =
      .ok (Frontend.tested "10.0.0.0/8") := by decide
  have hname : OneLine "web" := by decide
  refine ⟨hspec, hname, ?_⟩
  rw [((Written.frontend hspec).lines_iff hname).2 _ (List.Subset.refl _)
    (fun f hf => .inl hf) |>.2 (by decide)]
  decide

/-- A line feed in the value ends the statement, and what follows it is a statement of its own. -/
theorem Written.value_adds_statement :
    Frontend.ofSpec "edge" "web" (Frontend.testDeclared "10.0.0.0/8\n  http-request deny") =
      .ok (Frontend.tested "10.0.0.0/8\n  http-request deny") ∧ OneLine "web" ∧
    ¬ OneLines (Frontend.tested "10.0.0.0/8\n  http-request deny").fragment.statements ∧
    Text.lines (Fragment.render
        [(Frontend.tested "10.0.0.0/8\n  http-request deny").fragment]) =
      ["frontend web", "  acl office src 10.0.0.0/8", "  http-request deny", ""] := by
  decide

end ProxyFleet.Section
