import ProxyFleet.Proofs.Checks
import ProxyFleet.Proofs.FileNames
import ProxyFleet.Section.Instance
import ProxyFleet.Section.Resolver

/-!
# Valid specifications

When a declaration becomes a section.  What makes it valid is said without reference to the checks:
a value at a time, and for a whole by its parts.  Parts that are switched off do not count.

**Validity.**  `Spec.Frontend.Valid`, `Spec.Backend.Valid`, `Spec.Listen.Valid`,
`Spec.Resolver.Valid` and `Spec.Instance.Valid`, put together from one predicate for each kind of
part.

**Checks.**  `Check.Succeeds` says that a check finds no fault.  A check of several steps succeeds
when all of them do (`Check.succeeds_bind`), one of a list or of an optional value when it does on
every member.  With these rules there is one lemma `succeeds_ofSpec` for each kind of part.

Main statement: `Section.accepts_iff_valid`.
-/

namespace ProxyFleet

/-! ## Valid values -/

/-- Whether a duration is a length of time.  A zero with a minus sign counts as negative. -/
def Duration.IsLength (d : Duration) : Prop := d.negative = false

/-- Whether a name can stand in the name of a file without leading out of its folder. -/
def FileName.StaysInside (name : String) : Prop :=
  IsPlain name ∧ ∀ before after, name ≠ before ++ ".." ++ after

namespace Spec

/-- A port that can be listened on or connected to. -/
def IsPort (n : Int64) : Prop := 1 ≤ n.toInt ∧ n.toInt ≤ 65535

/-- A status code of an answer. -/
def IsStatusCode (n : Int64) : Prop := 100 ≤ n.toInt ∧ n.toInt ≤ 599

/-- Whether no two of several alternatives are chosen. -/
def AtMostOne (choices : List Bool) : Prop := choices.count true ≤ 1

/-! ## Valid files -/

/-- A certificate has a name that its file can be called by. -/
@[mk_iff] structure Certificate.Valid (c : Certificate) : Prop where
  named : c.name ≠ ""
  name : FileName.StaysInside c.name

/-- A validity response counts only while responses are on. -/
@[mk_iff] structure CertificateElement.Valid (e : CertificateElement) : Prop where
  certificate : e.certificate.Valid
  response : e.ocsp = true → ∀ file ∈ e.ocspFile, FileName.StaysInside file.name

@[mk_iff] structure CertificateList.Valid (l : CertificateList) : Prop where
  named : l.name ≠ ""
  name : FileName.StaysInside l.name
  elements : ∀ e ∈ l.elements, e.Valid

/-- A page is for one of the status codes that may have one. -/
@[mk_iff] structure ErrorFile.Valid (e : ErrorFile) : Prop where
  code : ∃ n ∈ Section.errorFileCodes, e.code.toInt = n
  named : e.page.name ≠ ""
  name : FileName.StaysInside e.page.name

/-! ## Valid addresses -/

/-- Encryption that is enabled. -/
@[mk_iff] structure Tls.Valid (t : Tls) : Prop where
  certificate : ∀ c ∈ t.certificate, c.Valid
  caCertificate : ∀ c ∈ t.caCertificate, c.Valid
  verify : ∀ v ∈ t.verify, v ∈ ["", "none", "optional", "required"]

/-- A certificate list counts only where encryption is enabled. -/
@[mk_iff] structure Bind.Valid (b : Bind) : Prop where
  port : IsPort b.port
  last : ∀ last ∈ b.portRangeEnd, b.port.toInt < last.toInt ∧ last.toInt ≤ 65535
  tls : ∀ t ∈ b.tls, t.enabled = true → t.Valid
  list : (∃ t ∈ b.tls, t.enabled = true) → ∀ l ∈ b.certificateList, l.Valid

/-! ## Valid rules -/

/-- What kind of condition it is matters only where there is a test. -/
def Condition.Valid (c : Condition) : Prop :=
  (∃ test ∈ c.test, test ≠ "") → ∀ kind ∈ c.kind, kind ∈ ["", "if", "unless"]

def Acl.Valid (a : Acl) : Prop := FileName.StaysInside a.name

@[mk_iff] structure TcpRule.Valid (r : TcpRule) : Prop where
  kind : r.kind ∈ ["connection", "content", "inspect-delay", "session"]
  timeout : ∀ d ∈ r.timeout, d.IsLength
  condition : r.condition.Valid

/-- A variable needs a name. -/
def HeaderValue.Valid (v : HeaderValue) : Prop := ∀ env ∈ v.env, env.name ≠ ""

@[mk_iff] structure HeaderRule.Valid (r : HeaderRule) : Prop where
  value : r.value.Valid
  condition : r.condition.Valid

/-- What a redirect can choose between. -/
def RedirectKind.choices (k : RedirectKind) : List Bool := [k.location, k.prefixed, k.scheme]

/-- A redirect that chooses nothing has no effect, and nothing else of it counts. -/
@[mk_iff] structure Redirect.Valid (r : Redirect) : Prop where
  kind : AtMostOne r.kind.choices
  code : true ∈ r.kind.choices → ∀ n ∈ r.code, IsStatusCode n
  condition : true ∈ r.kind.choices → r.condition.Valid

def Answer.Valid (a : Answer) : Prop := ∀ n ∈ a.status, IsStatusCode n

@[mk_iff] structure HttpRules.Valid (r : HttpRules) : Prop where
  setHeader : ∀ h ∈ r.setHeader, h.Valid
  setPath : ∀ p ∈ r.setPath, p.condition.Valid
  addHeader : ∀ h ∈ r.addHeader, h.Valid
  replacePath : ∀ p ∈ r.replacePath, p.condition.Valid
  deny : ∀ d ∈ r.deny, d.enabled = true →
    (∀ n ∈ r.denyStatus, IsStatusCode n) ∧ d.condition.Valid
  redirect : ∀ d ∈ r.redirect, d.Valid
  answer : ∀ a ∈ r.answer, a.Valid

/-! ## Valid sections -/

/-- Lengths of time under names that a kind of section accepts. -/
def TimeoutsValid (keys : List String) (timeouts : KeyMap Duration) : Prop :=
  ∀ e ∈ timeouts.entries, e.1 ∈ keys ∧ e.2.IsLength

/-- Shared settings of a kind of section that accepts some timeouts. -/
@[mk_iff] structure Base.Valid (keys : List String) (b : Base) : Prop where
  mode : ∀ m ∈ b.mode, m ∈ ["", "http", "tcp"]
  timeouts : TimeoutsValid keys b.timeouts
  acls : ∀ a ∈ b.acls, a.Valid
  tcpRequest : ∀ r ∈ b.tcpRequest, r.Valid
  httpRequest : ∀ r ∈ b.httpRequest, r.Valid
  errorFiles : ∀ e ∈ b.errorFiles, e.Valid

/-- Exactly one of a name, which may not be empty, and a mapping. -/
@[mk_iff] structure BackendReference.Valid (r : BackendReference) : Prop where
  one : (∃ name ∈ r.name, name ≠ "") ↔ r.mapping = none
  mapping : ∀ m ∈ r.mapping, FileName.StaysInside m.name

@[mk_iff] structure SwitchingRule.Valid (r : SwitchingRule) : Prop where
  backend : r.backend.Valid
  condition : r.condition.Valid

@[mk_iff] structure Frontend.Valid (f : Frontend) : Prop where
  base : f.base.Valid Section.TimeoutScope.frontend.keys
  binds : ∀ b ∈ f.binds, b.Valid
  switching : ∀ r ∈ f.switching, r.Valid

/-- The forms of the proxy protocol header, the first of which can be chosen in two places. -/
def ServerParams.protocols (s : ServerParams) : List Bool :=
  [s.sendProxy.getD false || s.proxyProtocol.any (·.v1),
    s.proxyProtocol.any (·.v2.any (·.enabled)), s.proxyProtocol.any (·.v2Ssl),
    s.proxyProtocol.any (·.v2SslCn)]

/-- Encryption and checks count only where they are enabled. -/
@[mk_iff] structure ServerParams.Valid (s : ServerParams) : Prop where
  tls : ∀ t ∈ s.tls, t.enabled = true → t.Valid
  check : ∀ c ∈ s.check, c.enabled = true → ∀ d ∈ c.interval, d.IsLength
  weight : ∀ w ∈ s.weight, 0 ≤ w.toInt ∧ w.toInt ≤ 256
  protocol : AtMostOne s.protocols

@[mk_iff] structure Server.Valid (s : Server) : Prop where
  port : IsPort s.port
  params : s.params.Valid

@[mk_iff] structure ServerTemplate.Valid (t : ServerTemplate) : Prop where
  port : IsPort t.port
  params : t.params.Valid

def Cookie.Valid (c : Cookie) : Prop :=
  AtMostOne [c.mode.replaced, c.mode.inserted, c.mode.prefixed]

@[mk_iff] structure Backend.Valid (b : Backend) : Prop where
  base : b.base.Valid Section.TimeoutScope.backend.keys
  checkTimeout : ∀ d ∈ b.checkTimeout, d.IsLength
  servers : ∀ s ∈ b.servers, s.Valid
  templates : ∀ t ∈ b.templates, t.Valid
  cookie : ∀ c ∈ b.cookie, c.Valid
  hostCertificate : ∀ e ∈ b.hostCertificate, e.Valid

@[mk_iff] structure Listen.Valid (l : Listen) : Prop where
  base : l.base.Valid Section.TimeoutScope.listen.keys
  checkTimeout : ∀ d ∈ l.checkTimeout, d.IsLength
  binds : ∀ b ∈ l.binds, b.Valid
  servers : ∀ s ∈ l.servers, s.Valid
  templates : ∀ t ∈ l.templates, t.Valid
  cookie : ∀ c ∈ l.cookie, c.Valid
  hostCertificate : ∀ e ∈ l.hostCertificate, e.Valid

/-! ## Valid resolvers -/

@[mk_iff] structure Hold.Valid (h : Hold) : Prop where
  nx : ∀ d ∈ h.nx, d.IsLength
  obsolete : ∀ d ∈ h.obsolete, d.IsLength
  other : ∀ d ∈ h.other, d.IsLength
  refused : ∀ d ∈ h.refused, d.IsLength
  timeout : ∀ d ∈ h.timeout, d.IsLength
  valid : ∀ d ∈ h.valid, d.IsLength

@[mk_iff] structure ResolverTimeouts.Valid (t : ResolverTimeouts) : Prop where
  resolve : ∀ d ∈ t.resolve, d.IsLength
  retry : ∀ d ∈ t.retry, d.IsLength

@[mk_iff] structure Resolver.Valid (r : Resolver) : Prop where
  nameservers : ∀ n ∈ r.nameservers, IsPort n.port
  hold : ∀ h ∈ r.hold, h.Valid
  timeouts : ∀ t ∈ r.timeouts, t.Valid

/-! ## Valid instances -/

@[mk_iff] structure Global.Valid (g : Global) : Prop where
  hardStopAfter : ∀ d ∈ g.hardStopAfter, d.IsLength
  statsTimeout : ∀ d ∈ g.statsTimeout, d.IsLength
  lifetime : ∀ t ∈ g.tuning, ∀ s ∈ t.tls, ∀ d ∈ s.lifetime, d.IsLength
  additionalCertificates : ∀ c ∈ g.additionalCertificates, c.Valid

@[mk_iff] structure Defaults.Valid (d : Defaults) : Prop where
  timeouts : TimeoutsValid Section.TimeoutScope.defaults.keys d.timeouts
  mode : d.mode ∈ ["", "http", "tcp"]
  errorFiles : ∀ e ∈ d.errorFiles, e.Valid

/-- Metrics count only where they are enabled. -/
@[mk_iff] structure Instance.Valid (i : Instance) : Prop where
  metrics : ∀ m ∈ i.metrics, m.enabled = true → IsPort m.port
  global : i.configuration.global.Valid
  defaults : i.configuration.defaults.Valid

end Spec

/-! ## Checks that succeed -/

namespace Check

variable {ε α β : Type}

/-- Whether a check succeeds. -/
def Succeeds (x : Except ε α) : Prop := ∃ a, x = .ok a

@[simp] lemma succeeds_ok (a : α) : Succeeds (.ok a : Except ε α) := ⟨a, rfl⟩
@[simp] lemma succeeds_pure (a : α) : Succeeds (pure a : Except ε α) := ⟨a, rfl⟩
@[simp] lemma not_succeeds_error (e : ε) : ¬Succeeds (.error e : Except ε α) := nofun
@[simp] lemma not_succeeds_throw (e : ε) : ¬Succeeds (throw e : Except ε α) := nofun

/-- A check of two steps succeeds when the second one does on what came out of the first one. -/
@[simp] lemma succeeds_bind {x : Except ε α} {f : α → Except ε β} :
    Succeeds (x >>= f) ↔ ∃ a, x = .ok a ∧ Succeeds (f a) := by
  cases x with
  | error e => simp [bind, Except.bind]
  | ok a => simp [bind, Except.bind]

@[simp] lemma succeeds_map {x : Except ε α} {f : α → β} : Succeeds (f <$> x) ↔ Succeeds x := by
  cases x <;> simp [Functor.map, Except.map]

/-- Where the second step does not look at what came out of the first one, the first one only has
to succeed. -/
@[simp] lemma exists_eq_ok {x : Except ε α} : (∃ a, x = .ok a) ↔ Succeeds x := .rfl

/-- A second step may look at what came out of the first one, and still its success may not depend
on that. -/
lemma succeeds_bind_of {x : Except ε α} {f : α → Except ε β} {p : Prop}
    (h : ∀ a, x = .ok a → (Succeeds (f a) ↔ p)) : Succeeds (x >>= f) ↔ Succeeds x ∧ p := by
  rw [succeeds_bind, ← exists_eq_ok (x := x), ← exists_and_right]
  exact exists_congr fun a => and_congr_right (h a)

/-- A check may fail at once. -/
@[simp] lemma succeeds_guard {p : Prop} [Decidable p] {e : ε} {f : α → Except ε β}
    {y : Except ε β} : Succeeds (if p then throw e >>= f else y) ↔ ¬p ∧ Succeeds y := by
  by_cases h : p
  · simp only [h, if_true, not_true_eq_false, false_and, iff_false]
    exact nofun
  · simp [h]

@[simp] lemma succeeds_mapM_list {f : α → Except ε β} {l : List α} :
    Succeeds (l.mapM f) ↔ ∀ a ∈ l, Succeeds (f a) := by
  induction l with
  | nil => simp
  | cons a rest ih =>
    rw [List.forall_mem_cons, ← ih]
    simp

@[simp] lemma succeeds_mapM_option {f : α → Except ε β} {o : Option α} :
    Succeeds (o.mapM f) ↔ ∀ a ∈ o, Succeeds (f a) := by
  cases o with
  | none => simp
  | some a => simp

end Check

open Check

namespace Section

variable {space name : String} {scope : TimeoutScope}

/-! ## Checks of values -/

lemma succeeds_millis {field : String} {d : Duration} :
    Succeeds (millis field d) ↔ d.IsLength := by
  rw [millis, Duration.IsLength]
  cases d.negative <;> simp

lemma succeeds_optionalMillis {field : String} {d : Option Duration} :
    Succeeds (millis? field d) ↔ ∀ x ∈ d, x.IsLength := by
  simp only [millis?, succeeds_mapM_option, succeeds_millis]

lemma succeeds_fileName {field declared : String} :
    Succeeds (fileName field declared) ↔ FileName.StaysInside declared := by
  have hdots : Text.contains declared ".." = true ↔
      ∃ before after, declared = before ++ ".." ++ after := by
    rw [Text.contains, Text.occursIn_iff]
    constructor
    · rintro ⟨before, after, h⟩
      exact ⟨.ofList before, .ofList after, String.toList_inj.1 (by simpa using h)⟩
    · rintro ⟨before, after, rfl⟩
      exact ⟨before.toList, after.toList, by simp⟩
  rw [fileName, FileName.StaysInside, FileName.IsPlain]
  split
  · rename_i h
    simp only [Bool.or_eq_true, List.contains_iff_mem, hdots] at h
    simp only [not_succeeds_error, false_iff]
    rintro ⟨⟨hslash, hzero⟩, hdots⟩
    rcases h with (h | h) | ⟨before, after, h⟩
    · exact hslash h
    · exact hzero h
    · exact hdots before after h
  · rename_i h
    simp only [Bool.or_eq_true, List.contains_iff_mem, hdots, not_or, not_exists] at h
    exact iff_of_true (succeeds_ok _) ⟨h.1, h.2⟩

lemma succeeds_port {n : Int64} : Succeeds (port n) ↔ Spec.IsPort n := by
  rw [port, Port.ofInt?, Spec.IsPort]
  by_cases h : 0 < n.toInt.toNat ∧ n.toInt.toNat ≤ 65535
  · simp only [dif_pos h, succeeds_ok, true_iff]
    omega
  · simp only [dif_neg h, not_succeeds_error, false_iff]
    omega

lemma succeeds_statusCode {n : Int64} : Succeeds (statusCode n) ↔ Spec.IsStatusCode n := by
  rw [statusCode, Spec.IsStatusCode]
  split <;> simp_all

lemma succeeds_mode {name : String} : Succeeds (Mode.ofName name) ↔ name ∈ ["", "http", "tcp"] := by
  simp only [Mode.ofName, String.isEmpty_iff, List.mem_cons, List.not_mem_nil, or_false]
  split_ifs <;> simp_all

lemma succeeds_verify {name : Option String} : Succeeds (Verify.ofName name) ↔
    ∀ v ∈ name, v ∈ ["", "none", "optional", "required"] := by
  cases name with
  | none => simp [Verify.ofName]
  | some name =>
    simp only [Verify.ofName, String.isEmpty_iff, List.mem_cons, List.not_mem_nil, or_false,
      Option.mem_some_iff, forall_eq']
    split_ifs <;> simp_all

/-! ## Checks of files -/

lemma Certificate.succeeds_ofSpec {c : Spec.Certificate} :
    Succeeds (ofSpec space c) ↔ c.Valid := by
  simp [ofSpec, Spec.Certificate.valid_iff, succeeds_fileName]

lemma CertificateElement.succeeds_ofSpec {e : Spec.CertificateElement} :
    Succeeds (ofSpec space e) ↔ e.Valid := by
  rw [ofSpec, Spec.CertificateElement.valid_iff]
  cases e.ocsp with
  | false => simp [Certificate.succeeds_ofSpec]
  | true =>
    cases e.ocspFile with
    | none => simp [Certificate.succeeds_ofSpec]
    | some file => simp [Certificate.succeeds_ofSpec, succeeds_fileName, and_comm]

lemma CertificateList.succeeds_ofSpec {l : Spec.CertificateList} :
    Succeeds (ofSpec space l) ↔ l.Valid := by
  simp [ofSpec, Spec.CertificateList.valid_iff, succeeds_fileName,
    CertificateElement.succeeds_ofSpec]

lemma ErrorFile.succeeds_ofSpec {e : Spec.ErrorFile} :
    Succeeds (ofSpec space e) ↔ e.Valid := by
  have hcode : (0 ≤ e.code.toInt ∧ e.code.toInt.toNat ∈ errorFileCodes) ↔
      ∃ n ∈ errorFileCodes, e.code.toInt = n := by
    constructor
    · rintro ⟨hpos, hmem⟩
      exact ⟨_, hmem, (Int.toNat_of_nonneg hpos).symm⟩
    · rintro ⟨n, hmem, hn⟩
      rw [hn]
      exact ⟨Int.natCast_nonneg n, hmem⟩
  rw [Spec.ErrorFile.valid_iff, ← hcode]
  simp [ofSpec, succeeds_fileName]

/-! ## Checks of addresses -/

lemma Bind.succeeds_tlsOfSpec {t : Spec.Tls} : Succeeds (tlsOfSpec space t) ↔ t.Valid := by
  simp [tlsOfSpec, Spec.Tls.valid_iff, Certificate.succeeds_ofSpec, succeeds_verify]

/-- The end of a range of ports. -/
lemma Bind.succeeds_lastPortOfSpec {first : Port} {last : Int64} :
    Succeeds (lastPortOfSpec first last) ↔
      (first.number : Int) < last.toInt ∧ last.toInt ≤ 65535 := by
  have hfirst := first.positive
  rw [lastPortOfSpec, Port.ofInt?]
  by_cases h : 0 < last.toInt.toNat ∧ last.toInt.toNat ≤ 65535
  · by_cases hlt : first.number < last.toInt.toNat
    · rw [dif_pos h, Option.filter_some_pos (by simpa using hlt)]
      simp only [succeeds_ok, true_iff]
      omega
    · rw [dif_pos h, Option.filter_some_neg (by simpa using hlt)]
      simp only [not_succeeds_error, false_iff]
      omega
  · simp only [dif_neg h, Option.filter_none, not_succeeds_error, false_iff]
    omega

lemma number_of_port {n : Int64} {p : Port} (h : port n = .ok p) : (p.number : Int) = n.toInt := by
  rw [port, Port.ofInt?] at h
  split at h
  · rename_i q hq
    split at hq
    · cases hq
      cases h
      exact Int.toNat_of_nonneg (by omega)
    · cases hq
  · cases h

/-- A certificate list is looked at where encryption is enabled and valid. -/
lemma Bind.succeeds_ofSpec {b : Spec.Bind} : Succeeds (ofSpec space b) ↔ b.Valid := by
  rw [ofSpec, Spec.Bind.valid_iff, ← succeeds_port]
  refine succeeds_bind_of fun p hp => ?_
  rw [← number_of_port hp]
  cases htls : b.tls.filter (·.enabled) with
  | none =>
    have hoff : ∀ t ∈ b.tls, ¬t.enabled = true := Option.filter_eq_none_iff.1 htls
    have hrest : (∀ t ∈ b.tls, t.enabled = true → t.Valid) ∧
        ((∃ t ∈ b.tls, t.enabled = true) → ∀ l ∈ b.certificateList, l.Valid) :=
      ⟨fun t ht hon => absurd hon (hoff t ht), fun ⟨t, ht, hon⟩ => absurd hon (hoff t ht)⟩
    rw [and_iff_left hrest]
    simp [succeeds_lastPortOfSpec]
  | some t =>
    obtain ⟨ht, hon⟩ := Option.filter_eq_some_iff.1 htls
    simp only [ht, Option.mem_some_iff, forall_eq', exists_eq_left', hon, true_imp_iff]
    cases b.certificateList with
    | none => simp [succeeds_lastPortOfSpec, succeeds_tlsOfSpec]
    | some l =>
      simp [succeeds_lastPortOfSpec, succeeds_tlsOfSpec, CertificateList.succeeds_ofSpec]

/-! ## Checks of rules -/

lemma Condition.succeeds_ofSpec {c : Spec.Condition} : Succeeds (ofSpec c) ↔ c.Valid := by
  have hkind : (∀ kind ∈ c.kind, kind ∈ ["", "if", "unless"]) ↔
      (c.kind.getD "" = "" ∨ c.kind.getD "" = "if") ∨ c.kind.getD "" = "unless" := by
    cases c.kind <;> simp [or_assoc]
  rw [ofSpec, Spec.Condition.Valid, hkind]
  cases htest : c.test with
  | none => simp
  | some test =>
    by_cases hempty : test = ""
    · simp [hempty, nonEmpty]
    · simp only [Option.bind_some, nonEmpty, String.isEmpty_iff, hempty, if_false,
        Option.mem_some_iff, exists_eq_left', ne_eq, not_false_eq_true, true_imp_iff]
      split_ifs with hif hunless
      · exact iff_of_true (succeeds_ok _) (.inl hif)
      · exact iff_of_true (succeeds_ok _) (.inr hunless)
      · exact iff_of_false (not_succeeds_error _) (not_or_intro hif hunless)

lemma Acl.succeeds_ofSpec {a : Spec.Acl} : Succeeds (ofSpec a) ↔ a.Valid := by
  simp [ofSpec, Spec.Acl.Valid, succeeds_fileName]

lemma TcpRuleKind.succeeds_ofName {name : String} : Succeeds (ofName name) ↔
    name ∈ ["connection", "content", "inspect-delay", "session"] := by
  simp only [ofName, List.mem_cons, List.not_mem_nil, or_false]
  split_ifs <;> simp_all

lemma TcpRule.succeeds_ofSpec {r : Spec.TcpRule} : Succeeds (ofSpec r) ↔ r.Valid := by
  simp [ofSpec, Spec.TcpRule.valid_iff, TcpRuleKind.succeeds_ofName, succeeds_optionalMillis,
    Condition.succeeds_ofSpec]

lemma HeaderValue.succeeds_ofSpec {v : Spec.HeaderValue} :
    Succeeds (ofSpec space v) ↔ v.Valid := by
  rw [ofSpec, Spec.HeaderValue.Valid]
  cases v.env with
  | none => simp
  | some env => by_cases h : env.name = "" <;> simp [h]

lemma HttpRule.succeeds_setHeaderOf {r : Spec.HeaderRule} :
    Succeeds (setHeaderOf space r) ↔ r.Valid := by
  simp [setHeaderOf, Spec.HeaderRule.valid_iff, HeaderValue.succeeds_ofSpec,
    Condition.succeeds_ofSpec]

lemma HttpRule.succeeds_addHeaderOf {r : Spec.HeaderRule} :
    Succeeds (addHeaderOf space r) ↔ r.Valid := by
  simp [addHeaderOf, Spec.HeaderRule.valid_iff, HeaderValue.succeeds_ofSpec,
    Condition.succeeds_ofSpec]

lemma RedirectKind.length_chosen (k : Spec.RedirectKind) :
    (chosen k).length = k.choices.count true := by
  obtain ⟨location, prefixed, scheme⟩ := k
  cases location <;> cases prefixed <;> cases scheme <;> rfl

/-- What else a redirect declares is looked at where it chooses one kind. -/
lemma Redirect.succeeds_ofSpec {r : Spec.Redirect} : Succeeds (ofSpec r) ↔ r.Valid := by
  have hcount := RedirectKind.length_chosen r.kind
  rw [ofSpec, Spec.Redirect.valid_iff, Spec.AtMostOne, ← List.count_pos_iff, ← hcount]
  rcases RedirectKind.chosen r.kind with _ | ⟨kind, _ | ⟨other, rest⟩⟩
  · simp
  · simp [succeeds_statusCode, Condition.succeeds_ofSpec]
  · simp

lemma HttpRule.succeeds_denyOf {deny : Option Spec.Deny} {status : Option Int64} :
    Succeeds (denyOf deny status) ↔ ∀ d ∈ deny, d.enabled = true →
      (∀ n ∈ status, Spec.IsStatusCode n) ∧ d.condition.Valid := by
  cases deny with
  | none => simp [denyOf]
  | some d =>
    cases he : d.enabled with
    | false =>
      rw [denyOf, Option.filter_some_neg (by simp [he])]
      simp [he]
    | true =>
      rw [denyOf, Option.filter_some_pos he]
      simp [he, succeeds_statusCode, Condition.succeeds_ofSpec]

lemma HttpRule.succeeds_answerOf {answer : Option Spec.Answer} :
    Succeeds (answerOf answer) ↔ ∀ a ∈ answer, a.Valid := by
  cases answer with
  | none => simp [answerOf]
  | some a => simp [answerOf, Spec.Answer.Valid, succeeds_statusCode]

lemma HttpRule.succeeds_ofSpec {r : Spec.HttpRules} : Succeeds (ofSpec space r) ↔ r.Valid := by
  simp [ofSpec, Spec.HttpRules.valid_iff, succeeds_setHeaderOf, setPathOf, succeeds_addHeaderOf,
    replacePathOf, succeeds_denyOf, Redirect.succeeds_ofSpec, succeeds_answerOf,
    Condition.succeeds_ofSpec]

/-! ## Checks of servers -/

lemma ProxyProtocol.length_chosen (s : Spec.ServerParams) :
    (chosen s).length = s.protocols.count true := by
  have hone : ∀ (b : Bool) (x : ProxyProtocol),
      (if b then [x] else []).length = [b].count true := by
    intro b x
    cases b <;> rfl
  have hprotocols : s.protocols = [s.sendProxy.getD false || (s.proxyProtocol.getD .none).v1] ++
      [(s.proxyProtocol.getD .none).v2.any (·.enabled)] ++ [(s.proxyProtocol.getD .none).v2Ssl] ++
      [(s.proxyProtocol.getD .none).v2SslCn] := by
    rw [Spec.ServerParams.protocols]
    cases s.proxyProtocol <;> rfl
  rw [chosen, hprotocols]
  simp only [List.length_append, List.count_append, hone]
  cases (s.proxyProtocol.getD .none).v2 with
  | none => rfl
  | some second => cases h : second.enabled <;> simp [Option.filter, h]

lemma ProxyProtocol.succeeds_ofSpec {s : Spec.ServerParams} :
    Succeeds (ofSpec s) ↔ Spec.AtMostOne s.protocols := by
  rw [ofSpec, Spec.AtMostOne, ← length_chosen]
  rcases chosen s with _ | ⟨p, _ | ⟨other, rest⟩⟩ <;> simp

lemma ServerParams.succeeds_tlsOfSpec {t : Spec.Tls} : Succeeds (tlsOfSpec space t) ↔ t.Valid := by
  simp [tlsOfSpec, Spec.Tls.valid_iff, Certificate.succeeds_ofSpec, succeeds_verify]

lemma ServerParams.succeeds_weightOfSpec {n : Int64} :
    Succeeds (weightOfSpec n) ↔ 0 ≤ n.toInt ∧ n.toInt ≤ 256 := by
  rw [weightOfSpec]
  split <;> simp_all

lemma ServerParams.succeeds_ofSpec {s : Spec.ServerParams} :
    Succeeds (ofSpec space s) ↔ s.Valid := by
  simp [ofSpec, Spec.ServerParams.valid_iff, succeeds_tlsOfSpec, succeeds_weightOfSpec,
    succeeds_optionalMillis, ProxyProtocol.succeeds_ofSpec]

lemma Server.succeeds_ofSpec {s : Spec.Server} : Succeeds (ofSpec space s) ↔ s.Valid := by
  simp [ofSpec, Spec.Server.valid_iff, succeeds_port, ServerParams.succeeds_ofSpec]

lemma ServerTemplate.succeeds_ofSpec {t : Spec.ServerTemplate} :
    Succeeds (ofSpec space t) ↔ t.Valid := by
  simp [ofSpec, Spec.ServerTemplate.valid_iff, succeeds_port, ServerParams.succeeds_ofSpec]

lemma CookieMode.length_chosen (m : Spec.CookieMode) :
    (chosen m).length = [m.replaced, m.inserted, m.prefixed].count true := by
  obtain ⟨replaced, inserted, prefixed⟩ := m
  cases replaced <;> cases inserted <;> cases prefixed <;> rfl

lemma Cookie.succeeds_ofSpec {c : Spec.Cookie} : Succeeds (ofSpec c) ↔ c.Valid := by
  have hmode : Succeeds (CookieMode.ofSpec c.mode) ↔ c.Valid := by
    rw [CookieMode.ofSpec, Spec.Cookie.Valid, Spec.AtMostOne, ← CookieMode.length_chosen]
    rcases CookieMode.chosen c.mode with _ | ⟨m, _ | ⟨other, rest⟩⟩ <;> simp
  simp [ofSpec, hmode]

/-! ## Checks of sections -/

lemma Timeouts.succeeds_ofSpec {declared : KeyMap Duration} :
    Succeeds (ofSpec scope declared) ↔ Spec.TimeoutsValid scope.keys declared := by
  simp [Succeeds, ofSpec_eq_ok_iff, Spec.TimeoutsValid, Duration.IsLength]

lemma Timeouts.succeeds_setCheck {t : Timeouts} {declared : Option Duration}
    (h : "check" ∈ t.scope.keys) : Succeeds (t.setCheck declared) ↔ ∀ d ∈ declared, d.IsLength := by
  simp [Succeeds, setCheck_eq_ok_iff, Duration.IsLength, h]

lemma Base.succeeds_ofSpec {b : Spec.Base} :
    Succeeds (ofSpec space scope b) ↔ b.Valid scope.keys := by
  have hmode : Succeeds (Mode.ofName (b.mode.getD "")) ↔ ∀ m ∈ b.mode, m ∈ ["", "http", "tcp"] := by
    rw [succeeds_mode]
    cases b.mode <;> simp
  rw [Spec.Base.valid_iff, ← hmode]
  cases hrules : b.httpRequest with
  | none =>
    simp [ofSpec, hrules, Timeouts.succeeds_ofSpec, Acl.succeeds_ofSpec, TcpRule.succeeds_ofSpec,
      ErrorFile.succeeds_ofSpec]
  | some rules =>
    simp [ofSpec, hrules, Timeouts.succeeds_ofSpec, Acl.succeeds_ofSpec, TcpRule.succeeds_ofSpec,
      ErrorFile.succeeds_ofSpec, HttpRule.succeeds_ofSpec]

lemma BackendTarget.succeeds_ofSpec {r : Spec.BackendReference} :
    Succeeds (ofSpec r) ↔ r.Valid := by
  have hname : (∃ name ∈ r.name, name ≠ "") ↔ (r.name.bind nonEmpty).isSome = true := by
    cases r.name with
    | none => simp
    | some name => by_cases h : name = "" <;> simp [nonEmpty, h]
  rw [ofSpec, Spec.BackendReference.valid_iff, hname]
  cases r.name.bind nonEmpty <;> cases r.mapping <;> simp [succeeds_fileName]

lemma SwitchingRule.succeeds_ofSpec {r : Spec.SwitchingRule} : Succeeds (ofSpec r) ↔ r.Valid := by
  simp [ofSpec, Spec.SwitchingRule.valid_iff, BackendTarget.succeeds_ofSpec,
    Condition.succeeds_ofSpec]

lemma Frontend.succeeds_ofSpec {f : Spec.Frontend} :
    Succeeds (ofSpec space name f) ↔ f.Valid := by
  simp [ofSpec, Spec.Frontend.valid_iff, Base.succeeds_ofSpec, Bind.succeeds_ofSpec,
    SwitchingRule.succeeds_ofSpec]

/-- Timeouts belong to the kind of section that they were checked for. -/
lemma Base.scope_of_ofSpec {b : Spec.Base} {s : Base} (h : ofSpec space scope b = .ok s) :
    s.timeouts.scope = scope := by
  rw [(Timeouts.ofSpec_eq_ok_iff.1 (ofSpec_eq_ok_iff.1 h).1).2]

lemma Backend.succeeds_ofSpec {b : Spec.Backend} :
    Succeeds (ofSpec space name b) ↔ b.Valid := by
  have hbase : Succeeds (Base.ofSpec space .backend b.base) ↔ b.base.Valid _ :=
    Base.succeeds_ofSpec
  rw [ofSpec, Spec.Backend.valid_iff, ← hbase]
  refine succeeds_bind_of fun base hbase => ?_
  have hcheck : "check" ∈ base.timeouts.scope.keys := by
    rw [Base.scope_of_ofSpec hbase]
    decide
  simp [Timeouts.succeeds_setCheck hcheck, Server.succeeds_ofSpec, ServerTemplate.succeeds_ofSpec,
    Cookie.succeeds_ofSpec, CertificateElement.succeeds_ofSpec]

lemma Listen.succeeds_ofSpec {l : Spec.Listen} :
    Succeeds (ofSpec space name l) ↔ l.Valid := by
  have hbase : Succeeds (Base.ofSpec space .listen l.base) ↔ l.base.Valid _ :=
    Base.succeeds_ofSpec
  rw [ofSpec, Spec.Listen.valid_iff, ← hbase]
  refine succeeds_bind_of fun base hbase => ?_
  have hcheck : "check" ∈ base.timeouts.scope.keys := by
    rw [Base.scope_of_ofSpec hbase]
    decide
  simp [Timeouts.succeeds_setCheck hcheck, Bind.succeeds_ofSpec, Server.succeeds_ofSpec,
    ServerTemplate.succeeds_ofSpec, Cookie.succeeds_ofSpec, CertificateElement.succeeds_ofSpec]

/-! ## Checks of resolvers and instances -/

lemma Hold.succeeds_ofSpec {h : Spec.Hold} : Succeeds (ofSpec h) ↔ h.Valid := by
  simp [ofSpec, Spec.Hold.valid_iff, succeeds_optionalMillis]

lemma Resolver.succeeds_ofSpec {r : Spec.Resolver} : Succeeds (ofSpec name r) ↔ r.Valid := by
  have hhold : Succeeds (Hold.ofSpec (r.hold.getD .none)) ↔ ∀ h ∈ r.hold, h.Valid := by
    rw [Hold.succeeds_ofSpec]
    cases r.hold <;> simp [Spec.Hold.valid_iff, Spec.Hold.none]
  have htimeouts : (r.timeouts.getD .none).Valid ↔ ∀ t ∈ r.timeouts, t.Valid := by
    cases r.timeouts <;> simp [Spec.ResolverTimeouts.valid_iff, Spec.ResolverTimeouts.none]
  rw [Spec.Resolver.valid_iff, ← hhold, ← htimeouts, Spec.ResolverTimeouts.valid_iff]
  simp [ofSpec, Nameserver.ofSpec, succeeds_port, succeeds_optionalMillis]

lemma Tuning.succeeds_ofSpec {t : Spec.Tuning} :
    Succeeds (ofSpec t) ↔ ∀ s ∈ t.tls, ∀ d ∈ s.lifetime, d.IsLength := by
  have hlifetime : ∀ d, Succeeds (lifetimeOf d) ↔ d.IsLength := by
    intro d
    rw [lifetimeOf, Duration.IsLength]
    cases d.negative <;> simp
  cases h : t.tls <;> simp [ofSpec, h, hlifetime]

lemma Global.succeeds_ofSpec {g : Spec.Global} : Succeeds (ofSpec space g) ↔ g.Valid := by
  simp [ofSpec, Spec.Global.valid_iff, succeeds_optionalMillis, Tuning.succeeds_ofSpec,
    Certificate.succeeds_ofSpec]

lemma Defaults.succeeds_ofSpec {d : Spec.Defaults} : Succeeds (ofSpec space d) ↔ d.Valid := by
  simp [ofSpec, Spec.Defaults.valid_iff, Timeouts.succeeds_ofSpec, succeeds_mode,
    ErrorFile.succeeds_ofSpec]

lemma Instance.succeeds_ofSpec {i : Spec.Instance} :
    Succeeds (ofSpec space name i) ↔ i.Valid := by
  simp [ofSpec, Spec.Instance.valid_iff, Metrics.ofSpec, succeeds_port, Global.succeeds_ofSpec,
    Defaults.succeeds_ofSpec]

/-- **Which specifications are accepted.**  A frontend, a backend, a listen, a resolver and an
instance become a section exactly when every value that the section uses is valid: of rules,
addresses, servers, files and timeouts there may be any number, and what is switched off may hold
anything. -/
theorem accepts_iff_valid (space name : String) :
    (∀ f : Spec.Frontend, (∃ s, Frontend.ofSpec space name f = .ok s) ↔ f.Valid) ∧
    (∀ b : Spec.Backend, (∃ s, Backend.ofSpec space name b = .ok s) ↔ b.Valid) ∧
    (∀ l : Spec.Listen, (∃ s, Listen.ofSpec space name l = .ok s) ↔ l.Valid) ∧
    (∀ r : Spec.Resolver, (∃ s, Resolver.ofSpec name r = .ok s) ↔ r.Valid) ∧
    (∀ i : Spec.Instance, (∃ s, Instance.ofSpec space name i = .ok s) ↔ i.Valid) :=
  ⟨fun _ => Frontend.succeeds_ofSpec, fun _ => Backend.succeeds_ofSpec,
    fun _ => Listen.succeeds_ofSpec, fun _ => Resolver.succeeds_ofSpec,
    fun _ => Instance.succeeds_ofSpec⟩

end Section

end ProxyFleet
