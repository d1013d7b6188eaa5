import ProxyFleet.Proofs.Demands
import ProxyFleet.Proofs.FileNames

/-!
# Values that records keep in stores

Which stored values the specifications of records declare, before anything of them is checked.

**Declarations.**  Certificates, error pages and values of headers may be kept in a store
(`Spec.Kept`).  A text that is given in place wins, and then nothing is read (`Spec.Kept.refs`).
For each kind of declaration `kept` lists what it keeps, in the order in which a pass comes to it;
encryption that is not enabled keeps nothing, and neither does a certificate list without it.

**Checks.**  A section refers to the values that its declaration keeps, one lemma for each check,
up to `Listen.refs_of_ofSpec`, `Frontend.refs_of_ofSpec`, `Backend.refs_of_ofSpec` and
`Instance.refs_of_ofSpec`.  For headers this follows from the variables that they use, which are
those that they declare (`Base.environment_of_agrees`).

**Records.**  `Records.needs` lists what is kept by the records of an instance, each value with the
record that it is read for.  A fleet that was taken up demands exactly that (`Pass.demands_eq`).
-/

namespace ProxyFleet

/-! ## Declarations -/

namespace Spec

/-- What a record may keep in a store. -/
inductive Kept
  | certificate (c : Certificate)
  | page (p : ErrorPage)
  | header (v : HeaderValue)
  deriving DecidableEq

/-- The stored values that a declaration refers to, unless it has a text of its own.  Those without
a namespace are in the one of the instance. -/
def Kept.refs (space : String) : Kept → List StoreRef
  | .certificate c =>
    match c.value with
    | some _ => []
    | none => c.sources.flatMap (Section.Certificate.refsOf space)
  | .page p =>
    match p.value with
    | some _ => []
    | none => p.configMapKey.toList.map (fun r => ⟨.configMap, space, r.name, r.key⟩)
  | .header v =>
    ((v.env.bind (·.source)).bind (·.secretKey)).toList.map
      (fun r => ⟨.secret, space, r.name, r.key⟩)

/-- The stored values that several declarations refer to. -/
def Kept.allRefs (space : String) (l : List Kept) : List StoreRef := l.flatMap (refs space)

lemma Kept.allRefs_append (space : String) (l r : List Kept) :
    allRefs space (l ++ r) = allRefs space l ++ allRefs space r := List.flatMap_append

lemma Kept.allRefs_flatMap {α : Type} (space : String) (l : List α) (g : α → List Kept) :
    allRefs space (l.flatMap g) = l.flatMap (fun a => allRefs space (g a)) := List.flatMap_assoc

/-- The certificates of encryption: its own and the one that the other side is verified with. -/
def Tls.certificates (t : Tls) : List Certificate := t.certificate.toList ++ t.caCertificate.toList

/-- What encryption keeps, if it is enabled. -/
def Tls.kept (t : Option Tls) : List Kept :=
  (t.filter (·.enabled)).toList.flatMap (fun t => t.certificates.map .certificate)

/-- The certificate list of an address, which counts only where encryption is enabled. -/
def Bind.countedList (b : Bind) : Option CertificateList :=
  (b.tls.filter (·.enabled)).bind (fun _ => b.certificateList)

/-- What an address keeps, with further certificates at the end of its list. -/
def Bind.kept (extra : List CertificateElement) (b : Bind) : List Kept :=
  Tls.kept b.tls ++
    b.countedList.toList.flatMap (fun l => (l.elements ++ extra).map (.certificate ·.certificate))

/-- The certificates that the list of an address takes from the backends that it selects. -/
def Bind.selected (hosts : Selector → List CertificateElement) (b : Bind) :
    List CertificateElement :=
  (b.countedList.bind (·.selector)).elim [] hosts

/-- What servers and then templates keep. -/
def Server.keptByAll (servers : List Server) (templates : List ServerTemplate) : List Kept :=
  (servers.map (·.params) ++ templates.map (·.params)).flatMap (fun s => Tls.kept s.tls)

/-- The variables that headers take their values from: those that are set, and then those that are
added. -/
def HttpRules.variables (r : HttpRules) : List Variable :=
  (r.setHeader ++ r.addHeader).filterMap (·.value.env)

/-- The variables that shared settings use. -/
def Base.variables (b : Base) : List Variable := b.httpRequest.toList.flatMap HttpRules.variables

/-- What rules on requests keep: values of headers that are set, and then of those that are
added. -/
def HttpRules.kept (r : HttpRules) : List Kept :=
  (r.setHeader ++ r.addHeader).map (.header ·.value)

/-- What shared settings keep. -/
def Base.kept (b : Base) : List Kept :=
  b.errorFiles.map (.page ·.page) ++ b.httpRequest.toList.flatMap HttpRules.kept

/-- What an instance keeps. -/
def Instance.kept (i : Instance) : List Kept :=
  i.configuration.global.additionalCertificates.map .certificate ++
    i.configuration.defaults.errorFiles.map (.page ·.page)

/-- What a listen keeps, whose host certificate is at the end of every certificate list. -/
def Listen.kept (l : Listen) : List Kept :=
  l.binds.flatMap (Bind.kept l.hostCertificate.toList) ++ Server.keptByAll l.servers l.templates ++
    l.base.kept

/-- What a frontend keeps, and the backends that it selects for it. -/
def Frontend.kept (hosts : Selector → List CertificateElement) (f : Frontend) : List Kept :=
  f.binds.flatMap (fun b => b.kept (b.selected hosts)) ++ f.base.kept

/-- What a backend keeps for itself, that is, all but its host certificate. -/
def Backend.kept (b : Backend) : List Kept := Server.keptByAll b.servers b.templates ++ b.base.kept

end Spec

/-! ## Checks -/

namespace Check

variable {ε α β γ : Type}

/-- A member has a related one. -/
lemma exists_of_mem_left {R : α → β → Prop} {l : List α} {r : List β} (h : List.Forall₂ R l r)
    {a : α} (ha : a ∈ l) : ∃ b ∈ r, R a b := by
  induction h with
  | nil => cases ha
  | cons hab _ ih =>
    rcases List.mem_cons.1 ha with rfl | ha
    · exact ⟨_, List.mem_cons_self, hab⟩
    · obtain ⟨b, hb, hrest⟩ := ih ha
      exact ⟨b, List.mem_cons_of_mem _ hb, hrest⟩

/-- What is gathered from related members is the same. -/
lemma flatMap_eq {R : α → β → Prop} {g : β → List γ} {k : α → List γ} {l : List α} {r : List β}
    (h : List.Forall₂ R l r) (hgk : ∀ a b, R a b → g b = k a) : r.flatMap g = l.flatMap k := by
  induction h with
  | nil => rfl
  | cons hab hrest ih => rw [List.flatMap_cons, List.flatMap_cons, ih, hgk _ _ hab]

/-- Nothing is gathered from checks of which none has anything. -/
lemma flatMap_eq_nil {f : α → Except ε β} {g : β → List γ} {l : List α} {r : List β}
    (h : l.mapM f = .ok r) (hg : ∀ a b, f a = .ok b → g b = []) : r.flatMap g = [] := by
  refine List.flatMap_eq_nil_iff.2 fun b hb => ?_
  obtain ⟨a, -, hab⟩ := exists_of_mem_mapM h hb
  exact hg a b hab

end Check

open Spec (Kept)

namespace Section

variable {space name : String}

/-- The values that certificates of a list refer to. -/
def CertificateElement.allRefs (l : List CertificateElement) : List StoreRef :=
  l.flatMap (·.certificate.source.refs)

lemma Certificate.refs_of_ofSpec {spec : Spec.Certificate} {c : Certificate}
    (h : ofSpec space spec = .ok c) : c.source.refs = (Kept.certificate spec).refs space := by
  rw [ofSpec] at h
  split at h
  · cases h
  · obtain ⟨name, -, h⟩ := Check.bind_eq_ok_iff.1 h
    cases h
    rw [Kept.refs]
    cases spec.value <;> rfl

lemma CertificateElement.certificate_of_ofSpec {spec : Spec.CertificateElement}
    {e : CertificateElement} (h : ofSpec space spec = .ok e) :
    Certificate.ofSpec space spec.certificate = .ok e.certificate := by
  have hlast : ∀ ocsp, (Certificate.ofSpec space spec.certificate >>= fun c =>
      (pure ⟨c, spec.sniFilter, spec.alpn, ocsp⟩ : Except Fault CertificateElement)) = .ok e →
      Certificate.ofSpec space spec.certificate = .ok e.certificate := by
    intro ocsp h
    obtain ⟨c, hc, h⟩ := Check.bind_eq_ok_iff.1 h
    cases h
    exact hc
  rw [ofSpec] at h
  split at h
  · split at h
    · exact hlast _ h
    · obtain ⟨name, -, h⟩ := Check.bind_eq_ok_iff.1 h
      exact hlast _ h
  · exact hlast _ h

lemma CertificateElement.allRefs_eq {specs : List Spec.CertificateElement}
    {l : List CertificateElement}
    (h : List.Forall₂ (fun spec e => ofSpec space spec = .ok e) specs l) :
    allRefs l = Kept.allRefs space (specs.map (.certificate ·.certificate)) := by
  rw [Kept.allRefs, List.flatMap_map]
  exact Check.flatMap_eq h fun spec e he =>
    Certificate.refs_of_ofSpec (certificate_of_ofSpec he)

lemma CertificateList.of_ofSpec {spec : Spec.CertificateList} {l : CertificateList}
    (h : ofSpec space spec = .ok l) :
    l.name = spec.name ∧ spec.elements.mapM (CertificateElement.ofSpec space) = .ok l.elements ∧
      l.selector = spec.selector := by
  rw [ofSpec] at h
  split at h
  · cases h
  · obtain ⟨name, hname, h⟩ := Check.bind_eq_ok_iff.1 h
    obtain ⟨elements, helements, h⟩ := Check.bind_eq_ok_iff.1 h
    cases h
    exact ⟨FileName.eq_of_fileName hname, helements, rfl⟩

lemma ErrorFile.refs_of_ofSpec {spec : Spec.ErrorFile} {e : ErrorFile}
    (h : ofSpec space spec = .ok e) : e.refs = (Kept.page spec.page).refs space := by
  simp only [ofSpec] at h
  split at h
  · cases h
  · split at h
    · cases h
    · obtain ⟨name, -, h⟩ := Check.bind_eq_ok_iff.1 h
      cases h
      rw [ErrorFile.refs, Kept.refs]
      cases spec.page.value <;> cases spec.page.configMapKey <;> rfl

/-- Error pages refer to what their declarations keep. -/
lemma ErrorFile.allRefs_eq {specs : List Spec.ErrorFile} {l : List ErrorFile}
    (h : specs.mapM (ofSpec space) = .ok l) :
    l.flatMap ErrorFile.refs = Kept.allRefs space (specs.map (.page ·.page)) := by
  rw [Kept.allRefs, List.flatMap_map]
  exact Check.flatMap_eq (Check.forall₂_of_mapM h) fun _ _ => refs_of_ofSpec

/-! ### Encryption -/

lemma Certificate.allRefs_eq {specs : List Spec.Certificate} {l : List Certificate}
    (h : List.Forall₂ (fun spec c => ofSpec space spec = .ok c) specs l) :
    l.flatMap (·.source.refs) = Kept.allRefs space (specs.map .certificate) := by
  rw [Kept.allRefs, List.flatMap_map]
  exact Check.flatMap_eq h fun _ _ => refs_of_ofSpec

/-- The certificates of encryption, on either side of the proxy. -/
lemma Certificate.refs_of_tls {t : Spec.Tls} {c ca : Option Certificate}
    (hc : t.certificate.mapM (ofSpec space) = .ok c)
    (hca : t.caCertificate.mapM (ofSpec space) = .ok ca) :
    (c.toList ++ ca.toList).flatMap (·.source.refs) =
      Kept.allRefs space (t.certificates.map .certificate) :=
  Certificate.allRefs_eq
    (List.rel_append (Check.forall₂_of_mapM_option hc) (Check.forall₂_of_mapM_option hca))

lemma Bind.of_ofSpec {b : Spec.Bind} {m : Bind} (h : ofSpec space b = .ok m) :
    (b.tls.filter (·.enabled)).mapM (tlsOfSpec space) = .ok m.tls ∧
      b.countedList.mapM (CertificateList.ofSpec space) = .ok m.certificateList := by
  simp only [ofSpec] at h
  obtain ⟨port, -, h⟩ := Check.bind_eq_ok_iff.1 h
  obtain ⟨lastPort, -, h⟩ := Check.bind_eq_ok_iff.1 h
  obtain ⟨tls, htls, h⟩ := Check.bind_eq_ok_iff.1 h
  rw [Spec.Bind.countedList]
  cases hfilter : b.tls.filter (·.enabled) with
  | none =>
    rw [hfilter] at htls
    cases htls
    cases h
    exact ⟨rfl, rfl⟩
  | some t =>
    rw [hfilter] at htls
    obtain ⟨checked, hchecked, htls'⟩ := Check.bind_eq_ok_iff.1 htls
    cases htls'
    cases hdeclared : b.certificateList with
    | none =>
      rw [hdeclared] at h
      cases h
      exact ⟨htls, rfl⟩
    | some declared =>
      rw [hdeclared] at h
      obtain ⟨list, hlist, h⟩ := Check.bind_eq_ok_iff.1 h
      cases h
      refine ⟨htls, ?_⟩
      rw [Option.bind_some, Option.mapM_some, hlist]
      rfl

/-- The certificates of encryption that counts, on either side of the proxy. -/
lemma Certificate.refs_of_enabled {α : Type} {check : Spec.Tls → Except Fault α}
    {certificates : α → List Certificate} {tls : Option Spec.Tls} {checked : Option α}
    (hcheck : ∀ t a, check t = .ok a → (certificates a).flatMap (·.source.refs) =
      Kept.allRefs space (t.certificates.map .certificate))
    (h : (tls.filter (·.enabled)).mapM check = .ok checked) :
    checked.toList.flatMap (fun a => (certificates a).flatMap (·.source.refs)) =
      Kept.allRefs space (Spec.Tls.kept tls) := by
  rw [Kept.allRefs, Spec.Tls.kept, List.flatMap_assoc]
  exact Check.flatMap_eq (Check.forall₂_of_mapM_option h) hcheck

lemma Bind.refs_of_tlsOfSpec {t : Spec.Tls} {m : BindTls} (h : Bind.tlsOfSpec space t = .ok m) :
    (m.certificate.toList ++ m.caCertificate.toList).flatMap (·.source.refs) =
      Kept.allRefs space (t.certificates.map .certificate) := by
  rw [tlsOfSpec] at h
  obtain ⟨c, hc, h⟩ := Check.bind_eq_ok_iff.1 h
  obtain ⟨ca, hca, h⟩ := Check.bind_eq_ok_iff.1 h
  obtain ⟨verify, -, h⟩ := Check.bind_eq_ok_iff.1 h
  cases h
  exact Certificate.refs_of_tls hc hca

lemma Bind.refs_certificates {b : Spec.Bind} {m : Bind} (h : ofSpec space b = .ok m) :
    m.certificates.flatMap (·.source.refs) = Kept.allRefs space (Spec.Tls.kept b.tls) := by
  rw [← Certificate.refs_of_enabled (fun _ _ => refs_of_tlsOfSpec) (of_ofSpec h).1, certificates]
  cases m.tls with
  | none => rfl
  | some tls => simp

/-- The certificate list of an address is that of its declaration. -/
lemma Bind.exists_list_of_ofSpec {b : Spec.Bind} {m : Bind} {list : Spec.CertificateList}
    (h : ofSpec space b = .ok m) (hc : b.countedList = some list) :
    ∃ l, CertificateList.ofSpec space list = .ok l ∧ m.certificateList = some l := by
  have hlist := (of_ofSpec h).2
  rw [hc] at hlist
  obtain ⟨l, hl, hlist⟩ := Check.bind_eq_ok_iff.1 hlist
  exact ⟨l, hl, (Except.ok.inj hlist).symm⟩

/-- An address selects by what is declared, as long as its certificate list counts. -/
lemma Bind.selector_of_ofSpec {b : Spec.Bind} {m : Bind} (h : ofSpec space b = .ok m) :
    m.certificateList.bind (·.selector) = b.countedList.bind (·.selector) := by
  cases hcounted : b.countedList with
  | none =>
    have hlist := (of_ofSpec h).2
    rw [hcounted, Option.mapM_none] at hlist
    rw [← Except.ok.inj hlist]
    rfl
  | some declared =>
    obtain ⟨list, hof, hlist⟩ := exists_list_of_ofSpec h hcounted
    rw [hlist]
    exact (CertificateList.of_ofSpec hof).2.2

/-- **An address refers to what it keeps**, with the same further certificates. -/
lemma Bind.refs_of_ofSpec {b : Spec.Bind} {m : Bind} {extra : List Spec.CertificateElement}
    {more : List CertificateElement} (h : ofSpec space b = .ok m)
    (hmore : CertificateElement.allRefs more =
      Kept.allRefs space (extra.map (.certificate ·.certificate))) :
    m.refs more = Kept.allRefs space (b.kept extra) := by
  have hlist : ∀ (declared : Spec.CertificateList) (list : CertificateList),
      CertificateList.ofSpec space declared = .ok list →
      (list.elements ++ more).flatMap (·.certificate.source.refs) =
        Kept.allRefs space ((declared.elements ++ extra).map (.certificate ·.certificate)) := by
    intro declared list hof
    have helements := CertificateElement.allRefs_eq
      (Check.forall₂_of_mapM (CertificateList.of_ofSpec hof).2.1)
    rw [List.flatMap_append, List.map_append, Kept.allRefs_append, ← hmore, ← helements]
    rfl
  rw [Bind.refs, Spec.Bind.kept, Kept.allRefs_append, refs_certificates h, Kept.allRefs_flatMap,
    Check.flatMap_eq (Check.forall₂_of_mapM_option (of_ofSpec h).2) hlist]

/-! ### Servers -/

lemma ServerParams.refs_of_tlsOfSpec {t : Spec.Tls} {m : ServerTls}
    (h : ServerParams.tlsOfSpec space t = .ok m) :
    (m.certificate.toList ++ m.caCertificate.toList).flatMap (·.source.refs) =
      Kept.allRefs space (t.certificates.map .certificate) := by
  rw [tlsOfSpec] at h
  obtain ⟨c, hc, h⟩ := Check.bind_eq_ok_iff.1 h
  obtain ⟨ca, hca, h⟩ := Check.bind_eq_ok_iff.1 h
  obtain ⟨verify, -, h⟩ := Check.bind_eq_ok_iff.1 h
  cases h
  exact Certificate.refs_of_tls hc hca

lemma ServerParams.refs_of_ofSpec {s : Spec.ServerParams} {p : ServerParams}
    (h : ofSpec space s = .ok p) :
    p.certificates.flatMap (·.source.refs) = Kept.allRefs space (Spec.Tls.kept s.tls) := by
  rw [ofSpec] at h
  obtain ⟨tls, hchecked, h⟩ := Check.bind_eq_ok_iff.1 h
  obtain ⟨check, -, h⟩ := Check.bind_eq_ok_iff.1 h
  obtain ⟨weight, -, h⟩ := Check.bind_eq_ok_iff.1 h
  obtain ⟨protocol, -, h⟩ := Check.bind_eq_ok_iff.1 h
  cases h
  rw [← Certificate.refs_of_enabled (fun _ _ => refs_of_tlsOfSpec) hchecked, certificates]
  cases tls with
  | none => rfl
  | some tls => simp

lemma Server.params_of_ofSpec {s : Spec.Server} {m : Server} (h : ofSpec space s = .ok m) :
    ServerParams.ofSpec space s.params = .ok m.params := by
  rw [ofSpec] at h
  obtain ⟨port, -, h⟩ := Check.bind_eq_ok_iff.1 h
  obtain ⟨params, hparams, h⟩ := Check.bind_eq_ok_iff.1 h
  cases h
  exact hparams

lemma ServerTemplate.params_of_ofSpec {s : Spec.ServerTemplate} {m : ServerTemplate}
    (h : ofSpec space s = .ok m) : ServerParams.ofSpec space s.params = .ok m.params := by
  rw [ofSpec] at h
  obtain ⟨port, -, h⟩ := Check.bind_eq_ok_iff.1 h
  obtain ⟨params, hparams, h⟩ := Check.bind_eq_ok_iff.1 h
  cases h
  exact hparams

/-- **A pool refers to what its servers and templates keep.** -/
lemma Pool.refs_of_ofDeclared {servers : List Spec.Server} {templates : List Spec.ServerTemplate}
    {balance : Option Spec.Balance} {hashType : Option Spec.HashType} {redispatch : Option Bool}
    {cookie : Option Spec.Cookie} {http : Option Spec.HttpCheck} {tcp : Option Bool} {p : Pool}
    (h : Pool.ofDeclared space servers templates balance hashType redispatch cookie http tcp =
      .ok p) : p.refs = Kept.allRefs space (Spec.Server.keptByAll servers templates) := by
  rw [ofDeclared] at h
  obtain ⟨ms, hservers, h⟩ := Check.bind_eq_ok_iff.1 h
  obtain ⟨mt, htemplates, h⟩ := Check.bind_eq_ok_iff.1 h
  obtain ⟨_, -, h⟩ := Check.bind_eq_ok_iff.1 h
  cases h
  have hs := Check.flatMap_eq (Check.forall₂_of_mapM hservers) fun _ _ hm =>
    ServerParams.refs_of_ofSpec (Server.params_of_ofSpec hm)
  have ht := Check.flatMap_eq (Check.forall₂_of_mapM htemplates) fun _ _ hm =>
    ServerParams.refs_of_ofSpec (ServerTemplate.params_of_ofSpec hm)
  rw [Pool.refs, params, Spec.Server.keptByAll, Kept.allRefs_flatMap, List.flatMap_append,
    List.flatMap_append, List.flatMap_map, List.flatMap_map, List.flatMap_map, List.flatMap_map,
    hs, ht]

/-! ### Shared settings -/

/-- The variable that is declared for a header, whose value is in a secret if there is one. -/
def Variable.ofDeclared (space : String) (v : Spec.Variable) : Variable :=
  ⟨v.name, match v.source.bind (·.secretKey) with
    | some r => .secret ⟨.secret, space, r.name, r.key⟩
    | none => .literal (v.value.getD "")⟩

/-- A declared variable refers to what its header keeps. -/
lemma Variable.refs_ofDeclared (spec : Spec.HeaderValue) :
    (spec.env.map (ofDeclared space)).toList.flatMap (·.value.refs) =
      (Kept.header spec).refs space := by
  rw [Kept.refs]
  cases spec.env with
  | none => rfl
  | some v =>
    rw [Option.map_some, ofDeclared, Option.bind_some]
    cases v.source.bind (·.secretKey) <;> rfl

lemma HeaderValue.usedVariable_of_ofSpec {spec : Spec.HeaderValue} {v : HeaderValue}
    (h : ofSpec space spec = .ok v) :
    v.usedVariable = spec.env.map (Variable.ofDeclared space) := by
  simp only [ofSpec] at h
  split at h
  · rename_i henv
    cases h
    rw [henv]
    rfl
  · rename_i env henv
    split at h
    · cases h
    · cases h
      rw [henv]
      rfl

/-- Rules that set headers and rules that add them are checked in the same way. -/
lemma HttpRule.usedVariable_of_headerRule
    (make : String → HeaderValue → Option Condition → HttpRule)
    (hmake : ∀ name value condition, (make name value condition).usedVariable = value.usedVariable)
    {spec : Spec.HeaderRule} {r : HttpRule}
    (h : (do
      return make spec.name (← HeaderValue.ofSpec space spec.value)
        (← Condition.ofSpec spec.condition)) = Except.ok r) :
    r.usedVariable.toList = (spec.value.env.map (Variable.ofDeclared space)).toList := by
  obtain ⟨value, hvalue, h⟩ := Check.bind_eq_ok_iff.1 h
  obtain ⟨condition, -, h⟩ := Check.bind_eq_ok_iff.1 h
  cases h
  rw [hmake, HeaderValue.usedVariable_of_ofSpec hvalue]

lemma HttpRule.usedVariable_of_setPathOf {spec : Spec.PathRule} {r : HttpRule}
    (h : setPathOf spec = .ok r) : r.usedVariable.toList = [] := by
  obtain ⟨condition, -, h⟩ := Check.bind_eq_ok_iff.1 h
  cases h
  rfl

lemma HttpRule.usedVariable_of_replacePathOf {spec : Spec.ReplacePath} {r : HttpRule}
    (h : replacePathOf spec = .ok r) : r.usedVariable.toList = [] := by
  obtain ⟨condition, -, h⟩ := Check.bind_eq_ok_iff.1 h
  cases h
  rfl

/-- The variables that rules on requests use. -/
def HttpRule.allVariables (rules : List HttpRule) : List Variable :=
  rules.flatMap (·.usedVariable.toList)

lemma HttpRule.allVariables_append (l r : List HttpRule) :
    allVariables (l ++ r) = allVariables l ++ allVariables r := List.flatMap_append

lemma HttpRule.allVariables_of_denyOf {deny : Option Spec.Deny} {status : Option Int64}
    {rules : List HttpRule} (h : denyOf deny status = .ok rules) : allVariables rules = [] := by
  rw [denyOf] at h
  split at h
  · cases h
    rfl
  · obtain ⟨code, -, h⟩ := Check.bind_eq_ok_iff.1 h
    obtain ⟨condition, -, h⟩ := Check.bind_eq_ok_iff.1 h
    cases h
    rfl

lemma HttpRule.allVariables_of_answerOf {answer : Option Spec.Answer} {rules : List HttpRule}
    (h : answerOf answer = .ok rules) : allVariables rules = [] := by
  simp only [answerOf] at h
  split at h
  · cases h
    rfl
  · obtain ⟨status, -, h⟩ := Check.bind_eq_ok_iff.1 h
    cases h
    rfl

/-- **Rules on requests use the variables that their headers declare**, in the same order: rules of
the other kinds use none. -/
lemma HttpRule.allVariables_of_ofSpec {r : Spec.HttpRules} {rules : List HttpRule}
    (h : ofSpec space r = .ok rules) :
    allVariables rules = r.variables.map (Variable.ofDeclared space) := by
  rw [ofSpec] at h
  obtain ⟨setHeaders, hset, h⟩ := Check.bind_eq_ok_iff.1 h
  obtain ⟨setPaths, hsetPaths, h⟩ := Check.bind_eq_ok_iff.1 h
  obtain ⟨addHeaders, hadd, h⟩ := Check.bind_eq_ok_iff.1 h
  obtain ⟨replacePaths, hreplace, h⟩ := Check.bind_eq_ok_iff.1 h
  obtain ⟨denials, hdeny, h⟩ := Check.bind_eq_ok_iff.1 h
  obtain ⟨redirects, -, h⟩ := Check.bind_eq_ok_iff.1 h
  obtain ⟨answers, hanswer, h⟩ := Check.bind_eq_ok_iff.1 h
  cases h
  have hsetVariables : allVariables setHeaders = r.setHeader.flatMap
      (fun spec => (spec.value.env.map (Variable.ofDeclared space)).toList) :=
    Check.flatMap_eq (Check.forall₂_of_mapM hset) fun _ _ =>
      usedVariable_of_headerRule .setHeader fun _ _ _ => rfl
  have haddVariables : allVariables addHeaders = r.addHeader.flatMap
      (fun spec => (spec.value.env.map (Variable.ofDeclared space)).toList) :=
    Check.flatMap_eq (Check.forall₂_of_mapM hadd) fun _ _ =>
      usedVariable_of_headerRule .addHeader fun _ _ _ => rfl
  have hsetPathVariables : allVariables setPaths = [] :=
    Check.flatMap_eq_nil hsetPaths fun _ _ => usedVariable_of_setPathOf
  have hreplaceVariables : allVariables replacePaths = [] :=
    Check.flatMap_eq_nil hreplace fun _ _ => usedVariable_of_replacePathOf
  have hredirectVariables :
      allVariables ((redirects.filterMap id).map HttpRule.redirect) = [] := by
    rw [allVariables, List.flatMap_map]
    exact List.flatMap_eq_nil_iff.2 fun _ _ => rfl
  simp only [allVariables_append, hsetVariables, hsetPathVariables, haddVariables,
    hreplaceVariables, allVariables_of_denyOf hdeny, hredirectVariables,
    allVariables_of_answerOf hanswer, List.append_nil]
  rw [Spec.HttpRules.variables, List.map_filterMap, List.filterMap_eq_flatMap_toList,
    List.flatMap_append]

/-- **Shared settings use the variables that they declare.** -/
lemma Base.environment_of_agrees {b : Spec.Base} {s : Base} (h : Agrees space b s) :
    s.environment = b.variables.map (Variable.ofDeclared space) := by
  have hof := h.httpRules
  have hall : s.environment = HttpRule.allVariables s.httpRules :=
    List.filterMap_eq_flatMap_toList _ _
  rw [hall, Spec.Base.variables]
  cases hdeclared : b.httpRequest with
  | none =>
    rw [hdeclared, HttpRule.ofOptional, Option.elim_none, Except.ok.injEq] at hof
    rw [← hof]
    rfl
  | some rules =>
    rw [hdeclared] at hof
    simpa using HttpRule.allVariables_of_ofSpec hof

/-- Declared variables refer to what their rules keep. -/
lemma Variable.allRefs_ofDeclared (b : Spec.Base) :
    (b.variables.map (ofDeclared space)).flatMap (·.value.refs) =
      Kept.allRefs space (b.httpRequest.toList.flatMap Spec.HttpRules.kept) := by
  rw [Spec.Base.variables, List.map_flatMap, List.flatMap_assoc, Kept.allRefs_flatMap]
  refine List.flatMap_congr fun r _ => ?_
  rw [Spec.HttpRules.variables, List.map_filterMap, List.filterMap_eq_flatMap_toList,
    List.flatMap_assoc, Spec.HttpRules.kept, Kept.allRefs, List.flatMap_map]
  exact List.flatMap_congr fun rule _ => refs_ofDeclared rule.value

/-- **Shared settings refer to what they keep.** -/
lemma Base.refs_of_agrees {b : Spec.Base} {s : Base} (h : Agrees space b s) :
    s.refs = Kept.allRefs space b.kept := by
  rw [Base.refs, Spec.Base.kept, Kept.allRefs_append, environment_of_agrees h,
    Variable.allRefs_ofDeclared, ErrorFile.allRefs_eq h.errorFiles]

/-! ### Whole sections -/

lemma Global.certificates_of_ofSpec {g : Spec.Global} {m : Global} (h : ofSpec space g = .ok m) :
    g.additionalCertificates.mapM (Certificate.ofSpec space) = .ok m.additionalCertificates := by
  rw [ofSpec] at h
  obtain ⟨hardStopAfter, -, h⟩ := Check.bind_eq_ok_iff.1 h
  obtain ⟨statsTimeout, -, h⟩ := Check.bind_eq_ok_iff.1 h
  obtain ⟨tuning, -, h⟩ := Check.bind_eq_ok_iff.1 h
  obtain ⟨certificates, hcertificates, h⟩ := Check.bind_eq_ok_iff.1 h
  cases h
  exact hcertificates

lemma Defaults.errorFiles_of_ofSpec {d : Spec.Defaults} {m : Defaults}
    (h : ofSpec space d = .ok m) : d.errorFiles.mapM (ErrorFile.ofSpec space) = .ok m.errorFiles := by
  rw [ofSpec] at h
  obtain ⟨timeouts, -, h⟩ := Check.bind_eq_ok_iff.1 h
  obtain ⟨mode, -, h⟩ := Check.bind_eq_ok_iff.1 h
  obtain ⟨errorFiles, herrorFiles, h⟩ := Check.bind_eq_ok_iff.1 h
  cases h
  exact herrorFiles

/-- **An instance refers to what it keeps.** -/
lemma Instance.refs_of_ofSpec {i : Spec.Instance} {m : Instance}
    (h : ofSpec space name i = .ok m) : m.refs = Kept.allRefs space i.kept := by
  rw [ofSpec] at h
  obtain ⟨metrics, -, h⟩ := Check.bind_eq_ok_iff.1 h
  obtain ⟨global, hglobal, h⟩ := Check.bind_eq_ok_iff.1 h
  obtain ⟨defaults, hdefaults, h⟩ := Check.bind_eq_ok_iff.1 h
  cases h
  have hcertificates := Check.forall₂_of_mapM (Global.certificates_of_ofSpec hglobal)
  rw [Instance.refs, Spec.Instance.kept, Kept.allRefs_append, Certificate.allRefs_eq hcertificates,
    ErrorFile.allRefs_eq (Defaults.errorFiles_of_ofSpec hdefaults)]

/-- The host certificate of a section that has at most one. -/
lemma CertificateElement.allRefs_of_host {declared : Option Spec.CertificateElement}
    {e : Option CertificateElement} (h : declared.mapM (ofSpec space) = .ok e) :
    allRefs e.toList = Kept.allRefs space (declared.toList.map (.certificate ·.certificate)) :=
  allRefs_eq (Check.forall₂_of_mapM_option h)

/-- **A listen refers to what it keeps.** -/
lemma Listen.refs_of_ofSpec {l : Spec.Listen} {m : Listen} (h : ofSpec space name l = .ok m) :
    m.refs = Kept.allRefs space l.kept := by
  obtain ⟨⟨-, hbase⟩, hbinds, hpool, hhost, -⟩ := ofSpec_eq_ok_iff.1 h
  have hbindRefs := Check.flatMap_eq (Check.forall₂_of_mapM hbinds) fun _ _ hb =>
    Bind.refs_of_ofSpec hb (CertificateElement.allRefs_of_host hhost)
  rw [Listen.refs, Spec.Listen.kept, Kept.allRefs_append, Kept.allRefs_append,
    Kept.allRefs_flatMap, hbindRefs, Pool.refs_of_ofDeclared hpool, Base.refs_of_agrees hbase]

/-- **A backend refers to what it keeps for itself.** -/
lemma Backend.refs_of_ofSpec {b : Spec.Backend} {m : Backend} (h : ofSpec space name b = .ok m) :
    m.refs = Kept.allRefs space b.kept := by
  obtain ⟨⟨-, hbase⟩, hpool, -⟩ := ofSpec_eq_ok_iff.1 h
  rw [Backend.refs, Spec.Backend.kept, Kept.allRefs_append, Pool.refs_of_ofDeclared hpool,
    Base.refs_of_agrees hbase]

/-- **A frontend refers to what it keeps**, if every selector finds the declarations of the host
certificates that it finds in the fleet. -/
lemma Frontend.refs_of_ofSpec {f : Spec.Frontend} {m : Frontend}
    {backends : List (Entry Backend)} {hosts : Selector → List Spec.CertificateElement}
    (hhosts : ∀ s : Selector, CertificateElement.allRefs
      ((backends.filter (fun e => s.selects e.labels)).filterMap (·.content.hostCertificate)) =
        Kept.allRefs space ((hosts s).map (.certificate ·.certificate)))
    (h : ofSpec space name f = .ok m) : m.refs backends = Kept.allRefs space (f.kept hosts) := by
  obtain ⟨hbase, hbinds, -⟩ := ofSpec_eq_ok_iff.1 h
  have hselected : ∀ (b : Spec.Bind) (mb : Bind), Bind.ofSpec space b = .ok mb →
      CertificateElement.allRefs (SideFile.selectedCertificates backends mb) =
        Kept.allRefs space ((b.selected hosts).map (.certificate ·.certificate)) := by
    intro b mb hb
    rw [SideFile.selectedCertificates, Bind.selector_of_ofSpec hb, Spec.Bind.selected]
    cases b.countedList.bind (·.selector) with
    | none => rfl
    | some s => exact hhosts s
  have hbindRefs := Check.flatMap_eq (Check.forall₂_of_mapM hbinds) fun b mb hb =>
    Bind.refs_of_ofSpec hb (hselected b mb hb)
  rw [Frontend.refs, Spec.Frontend.kept, Kept.allRefs_append, Kept.allRefs_flatMap, hbindRefs,
    Base.refs_of_agrees (Base.ofSpec_eq_ok_iff.1 hbase).2]

end Section

/-! ## Records -/

/-- What an entry has of the record that it was taken up for. -/
structure Entry.Represents {σ τ α : Type} (kind : RecordKind) (space : String)
    (check : String → σ → Except Fault α) (r : Record σ τ) (e : Entry α) : Prop where
  ref : e.ref = r.ref kind space
  labels : e.labels = r.metadata.allLabels
  content : check r.metadata.anyName r.spec = .ok e.content

/-- Records that are taken up have their entries in the same order. -/
lemma Entry.represents_of_ofRecords {σ τ α : Type} {cancel : Cancellation} {kind : RecordKind}
    {space : String} {check : String → σ → Except Fault α} {claims after : Claims}
    {l : List (Record σ τ)} {entries : List (Entry α)}
    (h : ofRecords cancel kind space check claims l = .ok (entries, after)) :
    List.Forall₂ (Represents kind space check) l entries := by
  induction l generalizing claims entries with
  | nil =>
    cases h
    exact .nil
  | cons r rest ih =>
    obtain ⟨entry, later, hentry, hlater, rfl⟩ := ofRecords_cons_eq_ok h
    obtain ⟨-, -, content, hcheck, rfl⟩ := ofRecord_eq_ok_iff.1 hentry
    exact .cons ⟨rfl, rfl, hcheck⟩ (ih hlater)

/-- Something that is kept in a store and read for a record. -/
structure Need where
  record : RecordRef
  value : Kept

/-- What is demanded for something that is needed.  References without a namespace are in the given
one. -/
def Need.demands (space : String) (n : Need) : List Demand :=
  (n.value.refs space).map (.mk n.record)

namespace Records

/-- The host certificates of the backends that a selector selects. -/
def hostCertificates (r : Records) (s : Selector) : List Spec.CertificateElement :=
  (r.backends.filter (fun b => s.selects b.metadata.allLabels)).filterMap (·.spec.hostCertificate)

/-- **What the records of an instance need**, each value for the record that it is read for: the
instance, and then the listens, frontends and backends in the given order. -/
def needs (r : Records) (i : InstanceRecord) : List Need :=
  let owner := Pass.instanceRef i
  i.spec.kept.map (.mk owner) ++
    r.listens.flatMap (fun l => l.spec.kept.map (.mk (l.ref .listen owner.space))) ++
    r.frontends.flatMap
      (fun f => (f.spec.kept r.hostCertificates).map (.mk (f.ref .frontend owner.space))) ++
    r.backends.flatMap (fun b => b.spec.kept.map (.mk (b.ref .backend owner.space)))

end Records

lemma Need.demands_of_kept {space : String} (record : RecordRef) (l : List Kept) :
    (l.map (Need.mk record)).flatMap (demands space) =
      (Kept.allRefs space l).map (.mk record) := by
  rw [List.flatMap_map, Kept.allRefs, List.map_flatMap]
  rfl

/-- The host certificates of a fleet's backends are those that the backends declare. -/
lemma Entry.hostCertificates_of_records {space : String} {records : List BackendRecord}
    {entries : List (Entry Section.Backend)} (s : Selector)
    (h : List.Forall₂ (Represents .backend space (Section.Backend.ofSpec space)) records entries) :
    List.Forall₂ (fun spec e => Section.CertificateElement.ofSpec space spec = .ok e)
      ((records.filter (fun b => s.selects b.metadata.allLabels)).filterMap (·.spec.hostCertificate))
      ((entries.filter (fun e => s.selects e.labels)).filterMap (·.content.hostCertificate)) := by
  have hselected := List.rel_filter (p := fun b : BackendRecord => s.selects b.metadata.allLabels)
    (q := fun e => s.selects e.labels) (fun r e hre => by simp [hre.labels]) h
  rw [List.filterMap_eq_flatMap_toList, List.filterMap_eq_flatMap_toList]
  refine List.rel_flatMap hselected fun r e hre => ?_
  obtain ⟨-, -, hhost, -⟩ := Section.Backend.ofSpec_eq_ok_iff.1 hre.content
  exact Check.forall₂_of_mapM_option hhost

/-- They refer to what the backends declare. -/
lemma Entry.hostCertificates_eq {space : String} {records : List BackendRecord}
    {entries : List (Entry Section.Backend)} (s : Selector)
    (h : List.Forall₂ (Represents .backend space (Section.Backend.ofSpec space)) records entries) :
    Section.CertificateElement.allRefs
      ((entries.filter (fun e => s.selects e.labels)).filterMap (·.content.hostCertificate)) =
    Kept.allRefs space
      (((records.filter (fun b => s.selects b.metadata.allLabels)).filterMap
        (·.spec.hostCertificate)).map (.certificate ·.certificate)) :=
  Section.CertificateElement.allRefs_eq (hostCertificates_of_records s h)

/-- Entries demand what their records need, if sections of their kind refer to what is kept. -/
lemma Entry.demands_eq {σ τ α : Type} {kind : RecordKind} {space : String}
    {check : String → σ → Except Fault α} {refs : α → List StoreRef} {kept : σ → List Kept}
    {records : List (Record σ τ)} {entries : List (Entry α)}
    (h : List.Forall₂ (Represents kind space check) records entries)
    (hrefs : ∀ name spec content, check name spec = .ok content →
      refs content = Kept.allRefs space (kept spec)) :
    entries.flatMap (fun e => (refs e.content).map (Demand.mk e.ref)) =
      (records.flatMap (fun r => (kept r.spec).map (Need.mk (r.ref kind space)))).flatMap
        (Need.demands space) := by
  rw [List.flatMap_assoc]
  refine Check.flatMap_eq h fun r e hre => ?_
  rw [Need.demands_of_kept, hre.ref, hrefs _ _ _ hre.content]

namespace Pass

variable {cancel : Cancellation} {i : InstanceRecord} {records : Records}

/-- **A fleet that was taken up demands what its records need.** -/
lemma demands_eq {content : Section.Instance} {fleet : Fleet}
    (h : prepare cancel i records = .ok (content, fleet)) :
    fleet.demands (instanceRef i) content =
      (records.sorted.needs i).flatMap (Need.demands (instanceRef i).space) := by
  obtain ⟨hcontent, hfleet⟩ := prepare_eq_ok h
  obtain ⟨c₁, c₂, c₃, c₄, hl, hf, hb, -⟩ := Fleet.ofRecords_eq_ok hfleet
  have hbackends := Entry.represents_of_ofRecords hb
  rw [Fleet.demands, Records.needs, List.flatMap_append, List.flatMap_append, List.flatMap_append,
    Need.demands_of_kept, Section.Instance.refs_of_ofSpec hcontent,
    Entry.demands_eq (Entry.represents_of_ofRecords hl)
      fun _ _ _ => Section.Listen.refs_of_ofSpec,
    Entry.demands_eq (Entry.represents_of_ofRecords hf)
      fun _ _ _ => Section.Frontend.refs_of_ofSpec fun s => Entry.hostCertificates_eq s hbackends,
    Entry.demands_eq hbackends fun _ _ _ => Section.Backend.refs_of_ofSpec]
  rfl

end Pass

end ProxyFleet
