import ProxyFleet.Directory
import ProxyFleet.Proofs.DeclaredFiles
import ProxyFleet.Proofs.Preparation

/-!
# Names in declared files

Every name in a declaration that becomes part of a path is checked.

**Sections.**  For each part of a section that has files, its names are plain once it is checked.

**Fleets.**  Hence the files of a checked fleet lead into no folder below the directory of the proxy
(`SideFile.Declares.isPlain_path`).
-/

namespace ProxyFleet

open FileName (IsPlain)

namespace Section

variable {space : String}

/-! ## Checked names -/

lemma Certificate.isPlain_of_ofSpec {spec : Spec.Certificate} {c : Certificate}
    (h : ofSpec space spec = .ok c) : IsPlain c.name := by
  rw [ofSpec] at h
  split at h
  · cases h
  · obtain ⟨name, hname, h⟩ := Check.bind_eq_ok_iff.1 h
    cases h
    exact FileName.isPlain_of_fileName hname

/-- The certificates of encryption: one to show and one to verify with. -/
lemma Certificate.isPlain_of_pair {own ca : Option Spec.Certificate}
    {own' ca' : Option Certificate} (hown : own.mapM (ofSpec space) = .ok own')
    (hca : ca.mapM (ofSpec space) = .ok ca') {c : Certificate}
    (hc : c ∈ own'.toList ++ ca'.toList) : IsPlain c.name := by
  rcases List.mem_append.1 hc with hc | hc
  · rw [Option.mem_toList.1 hc] at hown
    obtain ⟨spec, hspec⟩ := Check.exists_of_mapM_eq_some hown
    exact isPlain_of_ofSpec hspec
  · rw [Option.mem_toList.1 hc] at hca
    obtain ⟨spec, hspec⟩ := Check.exists_of_mapM_eq_some hca
    exact isPlain_of_ofSpec hspec

lemma ErrorFile.isPlain_of_ofSpec {spec : Spec.ErrorFile} {e : ErrorFile}
    (h : ofSpec space spec = .ok e) : IsPlain e.name := by
  simp only [ofSpec] at h
  split at h
  · cases h
  · split at h
    · cases h
    · obtain ⟨name, hname, h⟩ := Check.bind_eq_ok_iff.1 h
      cases h
      exact FileName.isPlain_of_fileName hname

lemma Acl.isPlain_of_ofSpec {spec : Spec.Acl} {a : Acl} (h : ofSpec spec = .ok a) :
    IsPlain a.name := by
  obtain ⟨name, hname, h⟩ := Check.bind_eq_ok_iff.1 h
  cases h
  exact FileName.isPlain_of_fileName hname

/-- Whether the names in an element of a certificate list are plain. -/
structure CertificateElement.Plain (e : CertificateElement) : Prop where
  certificate : IsPlain e.certificate.name
  ocsp : ∀ name content, e.ocsp = .updateWith name content → IsPlain name

lemma CertificateElement.plain_of_ofSpec {spec : Spec.CertificateElement} {e : CertificateElement}
    (h : ofSpec space spec = .ok e) : e.Plain := by
  rw [ofSpec] at h
  split at h
  · split at h
    · obtain ⟨ocsp, ho, h⟩ := Check.bind_eq_ok_iff.1 h
      obtain ⟨c, hc, h⟩ := Check.bind_eq_ok_iff.1 h
      cases ho
      cases h
      exact ⟨Certificate.isPlain_of_ofSpec hc, fun _ _ ho => nomatch ho⟩
    · obtain ⟨name, hname, h⟩ := Check.bind_eq_ok_iff.1 h
      obtain ⟨ocsp, ho, h⟩ := Check.bind_eq_ok_iff.1 h
      obtain ⟨c, hc, h⟩ := Check.bind_eq_ok_iff.1 h
      cases ho
      cases h
      refine ⟨Certificate.isPlain_of_ofSpec hc, ?_⟩
      rintro _ _ ⟨⟩
      exact FileName.isPlain_of_fileName hname
  · obtain ⟨ocsp, ho, h⟩ := Check.bind_eq_ok_iff.1 h
    obtain ⟨c, hc, h⟩ := Check.bind_eq_ok_iff.1 h
    cases ho
    cases h
    exact ⟨Certificate.isPlain_of_ofSpec hc, fun _ _ ho => nomatch ho⟩

/-- Whether the names in a certificate list are plain. -/
structure CertificateList.Plain (l : CertificateList) : Prop where
  name : IsPlain l.name
  elements : ∀ e ∈ l.elements, e.Plain

lemma CertificateList.plain_of_ofSpec {spec : Spec.CertificateList} {l : CertificateList}
    (h : ofSpec space spec = .ok l) : l.Plain := by
  rw [ofSpec] at h
  split at h
  · cases h
  · obtain ⟨name, hname, h⟩ := Check.bind_eq_ok_iff.1 h
    obtain ⟨elements, helements, h⟩ := Check.bind_eq_ok_iff.1 h
    cases h
    refine ⟨FileName.isPlain_of_fileName hname, fun e he => ?_⟩
    obtain ⟨spec, -, hspec⟩ := Check.exists_of_mem_mapM helements he
    exact CertificateElement.plain_of_ofSpec hspec

/-- Whether the names in an address are plain. -/
structure Bind.Plain (b : Bind) : Prop where
  certificates : ∀ c ∈ b.certificates, IsPlain c.name
  list : ∀ l, b.certificateList = some l → l.Plain

lemma Bind.isPlain_of_tlsOfSpec {spec : Option Spec.Tls} {tls : BindTls}
    (h : spec.mapM (tlsOfSpec space) = .ok (some tls)) {c : Certificate}
    (hc : c ∈ tls.certificate.toList ++ tls.caCertificate.toList) : IsPlain c.name := by
  obtain ⟨spec, hspec⟩ := Check.exists_of_mapM_eq_some h
  obtain ⟨own, hown, h⟩ := Check.bind_eq_ok_iff.1 hspec
  obtain ⟨ca, hca, h⟩ := Check.bind_eq_ok_iff.1 h
  obtain ⟨verify, -, h⟩ := Check.bind_eq_ok_iff.1 h
  cases h
  exact Certificate.isPlain_of_pair hown hca hc

lemma Bind.plain_of_ofSpec {spec : Spec.Bind} {b : Bind} (h : ofSpec space spec = .ok b) :
    b.Plain := by
  obtain ⟨port, -, h⟩ := Check.bind_eq_ok_iff.1 h
  obtain ⟨last, -, h⟩ := Check.bind_eq_ok_iff.1 h
  obtain ⟨tls, htls, h⟩ := Check.bind_eq_ok_iff.1 h
  cases tls with
  | none =>
    cases h
    exact ⟨fun c hc => (nomatch hc), fun _ hl => nomatch hl⟩
  | some tls =>
    cases hdeclared : spec.certificateList with
    | none =>
      simp only [hdeclared] at h
      cases h
      exact ⟨fun c hc => isPlain_of_tlsOfSpec htls hc, fun _ hl => nomatch hl⟩
    | some declared =>
      simp only [hdeclared] at h
      obtain ⟨list, hl, h⟩ := Check.bind_eq_ok_iff.1 h
      cases h
      refine ⟨fun c hc => isPlain_of_tlsOfSpec htls hc, ?_⟩
      rintro _ ⟨⟩
      exact CertificateList.plain_of_ofSpec hl

lemma ServerParams.isPlain_of_ofSpec {spec : Spec.ServerParams} {p : ServerParams}
    (h : ofSpec space spec = .ok p) : ∀ c ∈ p.certificates, IsPlain c.name := by
  obtain ⟨tls, htls, h⟩ := Check.bind_eq_ok_iff.1 h
  obtain ⟨check, -, h⟩ := Check.bind_eq_ok_iff.1 h
  obtain ⟨weight, -, h⟩ := Check.bind_eq_ok_iff.1 h
  obtain ⟨proxy, -, h⟩ := Check.bind_eq_ok_iff.1 h
  cases h
  intro c hc
  cases tls with
  | none => cases hc
  | some tls =>
    obtain ⟨spec, hspec⟩ := Check.exists_of_mapM_eq_some htls
    obtain ⟨own, hown, h⟩ := Check.bind_eq_ok_iff.1 hspec
    obtain ⟨ca, hca, h⟩ := Check.bind_eq_ok_iff.1 h
    obtain ⟨verify, -, h⟩ := Check.bind_eq_ok_iff.1 h
    cases h
    exact Certificate.isPlain_of_pair hown hca hc

lemma RegexMapping.isPlain_of_ofSpec {spec : Spec.BackendReference} {m : RegexMapping}
    (h : BackendTarget.ofSpec spec = .ok (.mapping m)) : IsPlain m.name := by
  rw [BackendTarget.ofSpec] at h
  split at h
  · cases h
  · obtain ⟨name, hname, h⟩ := Check.bind_eq_ok_iff.1 h
    cases h
    exact FileName.isPlain_of_fileName hname
  · cases h

lemma Frontend.isPlain_of_ofSpec {name : String} {spec : Spec.Frontend} {s : Frontend}
    (h : ofSpec space name spec = .ok s) : ∀ m ∈ s.mappings, IsPlain m.name := by
  obtain ⟨-, -, hrules, -⟩ := ofSpec_eq_ok_iff.1 h
  intro m hm
  obtain ⟨r, hr, hmapping⟩ := List.mem_filterMap.1 hm
  obtain ⟨spec, -, hrule⟩ := Check.exists_of_mem_mapM hrules hr
  obtain ⟨target, htarget, hrule⟩ := Check.bind_eq_ok_iff.1 hrule
  obtain ⟨condition, -, hrule⟩ := Check.bind_eq_ok_iff.1 hrule
  cases hrule
  cases target with
  | name => cases hmapping
  | mapping m' =>
    cases hmapping
    exact RegexMapping.isPlain_of_ofSpec htarget

lemma Pool.isPlain_of_ofDeclared {servers : List Spec.Server}
    {templates : List Spec.ServerTemplate} {balance : Option Spec.Balance}
    {hashType : Option Spec.HashType} {redispatch : Option Bool} {cookie : Option Spec.Cookie}
    {http : Option Spec.HttpCheck} {tcp : Option Bool} {pool : Pool}
    (h : ofDeclared space servers templates balance hashType redispatch cookie http tcp = .ok pool)
    {p : ServerParams} (hp : p ∈ pool.params) : ∀ c ∈ p.certificates, IsPlain c.name := by
  obtain ⟨servers', hservers, h⟩ := Check.bind_eq_ok_iff.1 h
  obtain ⟨templates', htemplates, h⟩ := Check.bind_eq_ok_iff.1 h
  obtain ⟨cookie', -, h⟩ := Check.bind_eq_ok_iff.1 h
  cases h
  simp only [params, List.mem_append, List.mem_map] at hp
  rcases hp with ⟨s, hs, rfl⟩ | ⟨t, ht, rfl⟩
  · obtain ⟨spec, -, hspec⟩ := Check.exists_of_mem_mapM hservers hs
    obtain ⟨port, -, hspec⟩ := Check.bind_eq_ok_iff.1 hspec
    obtain ⟨params, hparams, hspec⟩ := Check.bind_eq_ok_iff.1 hspec
    cases hspec
    exact ServerParams.isPlain_of_ofSpec hparams
  · obtain ⟨spec, -, hspec⟩ := Check.exists_of_mem_mapM htemplates ht
    obtain ⟨port, -, hspec⟩ := Check.bind_eq_ok_iff.1 hspec
    obtain ⟨params, hparams, hspec⟩ := Check.bind_eq_ok_iff.1 hspec
    cases hspec
    exact ServerParams.isPlain_of_ofSpec hparams

end Section

/-! ## Checked fleets -/

namespace Fleet.Checked

variable {space : String} {f : Fleet} (h : f.Checked space)
include h

/-- The host certificates that complete a certificate list are checked as well. -/
lemma plain_of_selected {b : Section.Bind} :
    ∀ e ∈ SideFile.selectedCertificates f.backends b, e.Plain := by
  intro e he
  rw [SideFile.selectedCertificates] at he
  split at he
  · cases he
  · obtain ⟨entry, hentry, hhost⟩ := List.mem_filterMap.1 he
    obtain ⟨spec, hspec⟩ := h.backends entry (List.mem_filter.1 hentry).1
    obtain ⟨-, -, hcertificate, -⟩ := Section.Backend.ofSpec_eq_ok_iff.1 hspec
    rw [hhost] at hcertificate
    obtain ⟨declared, hdeclared⟩ := Check.exists_of_mapM_eq_some hcertificate
    exact Section.CertificateElement.plain_of_ofSpec hdeclared

lemma plain_of_hasBind {b : Section.Bind} {extra : List Section.CertificateElement}
    (hb : f.HasBind b extra) : b.Plain ∧ ∀ e ∈ extra, e.Plain := by
  cases hb with
  | listen he hb =>
    obtain ⟨spec, hspec⟩ := h.listens _ he
    obtain ⟨-, hbinds, -, hhost, -⟩ := Section.Listen.ofSpec_eq_ok_iff.1 hspec
    obtain ⟨declared, -, hdeclared⟩ := Check.exists_of_mem_mapM hbinds hb
    refine ⟨Section.Bind.plain_of_ofSpec hdeclared, fun e hextra => ?_⟩
    rw [Option.mem_toList.1 hextra] at hhost
    obtain ⟨declared, hdeclared⟩ := Check.exists_of_mapM_eq_some hhost
    exact Section.CertificateElement.plain_of_ofSpec hdeclared
  | frontend he hb =>
    obtain ⟨spec, hspec⟩ := h.frontends _ he
    obtain ⟨-, hbinds, -⟩ := Section.Frontend.ofSpec_eq_ok_iff.1 hspec
    obtain ⟨declared, -, hdeclared⟩ := Check.exists_of_mem_mapM hbinds hb
    exact ⟨Section.Bind.plain_of_ofSpec hdeclared, h.plain_of_selected⟩

lemma isPlain_of_hasParams {p : Section.ServerParams} (hp : f.HasParams p) :
    ∀ c ∈ p.certificates, IsPlain c.name := by
  cases hp with
  | listen he hp =>
    obtain ⟨spec, hspec⟩ := h.listens _ he
    obtain ⟨-, -, hpool, -⟩ := Section.Listen.ofSpec_eq_ok_iff.1 hspec
    exact Section.Pool.isPlain_of_ofDeclared hpool hp
  | backend he hp =>
    obtain ⟨spec, hspec⟩ := h.backends _ he
    obtain ⟨-, hpool, -⟩ := Section.Backend.ofSpec_eq_ok_iff.1 hspec
    exact Section.Pool.isPlain_of_ofDeclared hpool hp

/-- Shared settings are what declared ones became. -/
lemma exists_agrees {b : Section.Base} (hb : f.HasBase b) :
    ∃ spec, Section.Base.Agrees space spec b := by
  cases hb with
  | listen he =>
    obtain ⟨spec, hspec⟩ := h.listens _ he
    exact ⟨_, (Section.Listen.ofSpec_eq_ok_iff.1 hspec).1.2⟩
  | frontend he =>
    obtain ⟨spec, hspec⟩ := h.frontends _ he
    exact ⟨_, (Section.Base.ofSpec_eq_ok_iff.1 (Section.Frontend.ofSpec_eq_ok_iff.1 hspec).1).2⟩
  | backend he =>
    obtain ⟨spec, hspec⟩ := h.backends _ he
    exact ⟨_, (Section.Backend.ofSpec_eq_ok_iff.1 hspec).1.2⟩

end Fleet.Checked

namespace Section.Instance

variable {space name : String} {spec : Spec.Instance} {i : Instance}

/-- The names in the files of an instance are plain. -/
lemma isPlain_of_ofSpec (h : ofSpec space name spec = .ok i) :
    (∀ c ∈ i.global.additionalCertificates, IsPlain c.name) ∧
      ∀ e ∈ i.defaults.errorFiles, IsPlain e.name := by
  obtain ⟨metrics, -, h⟩ := Check.bind_eq_ok_iff.1 h
  obtain ⟨global, hglobal, h⟩ := Check.bind_eq_ok_iff.1 h
  obtain ⟨defaults, hdefaults, h⟩ := Check.bind_eq_ok_iff.1 h
  cases h
  constructor
  · obtain ⟨hard, -, hglobal⟩ := Check.bind_eq_ok_iff.1 hglobal
    obtain ⟨stats, -, hglobal⟩ := Check.bind_eq_ok_iff.1 hglobal
    obtain ⟨tuning, -, hglobal⟩ := Check.bind_eq_ok_iff.1 hglobal
    obtain ⟨certificates, hcertificates, hglobal⟩ := Check.bind_eq_ok_iff.1 hglobal
    cases hglobal
    intro c hc
    obtain ⟨declared, -, hdeclared⟩ := Check.exists_of_mem_mapM hcertificates hc
    exact Certificate.isPlain_of_ofSpec hdeclared
  · obtain ⟨timeouts, -, hdefaults⟩ := Check.bind_eq_ok_iff.1 hdefaults
    obtain ⟨mode, -, hdefaults⟩ := Check.bind_eq_ok_iff.1 hdefaults
    obtain ⟨files, hfiles, hdefaults⟩ := Check.bind_eq_ok_iff.1 hdefaults
    cases hdefaults
    intro e he
    obtain ⟨declared, -, hdeclared⟩ := Check.exists_of_mem_mapM hfiles he
    exact ErrorFile.isPlain_of_ofSpec hdeclared

end Section.Instance

/-- **A declared file leads into no folder**: its path is a plain name in the directory of the
proxy. -/
lemma SideFile.Declares.isPlain_path {space name : String} {spec : Spec.Instance}
    {i : Section.Instance} {f : Fleet} {d : Declaration} (h : SideFile.Declares i f d)
    (hf : f.Checked space) (hi : Section.Instance.ofSpec space name spec = .ok i) :
    ∃ base, d.path = inConfigDir base ∧ IsPlain base := by
  obtain ⟨hcertificates, hpages⟩ := Section.Instance.isPlain_of_ofSpec hi
  cases h with
  | additionalCertificate hc => exact FileName.isPlain_configPath (hcertificates _ hc) (by decide)
  | defaultPage he => exact FileName.isPlain_configPath (hpages _ he) (by decide)
  | bindCertificate hb hc =>
    exact FileName.isPlain_configPath ((hf.plain_of_hasBind hb).1.certificates _ hc) (by decide)
  | listedCertificate hb hl he =>
    obtain ⟨hbind, hextra⟩ := hf.plain_of_hasBind hb
    rcases List.mem_append.1 he with he | he
    · exact FileName.isPlain_configPath ((hbind.list _ hl).elements _ he).certificate (by decide)
    · exact FileName.isPlain_configPath (hextra _ he).certificate (by decide)
  | response hb hl he ho =>
    obtain ⟨hbind, hextra⟩ := hf.plain_of_hasBind hb
    rcases List.mem_append.1 he with he | he
    · exact FileName.isPlain_configPath (((hbind.list _ hl).elements _ he).ocsp _ _ ho) (by decide)
    · exact FileName.isPlain_configPath ((hextra _ he).ocsp _ _ ho) (by decide)
  | certificateList hb hl =>
    exact FileName.isPlain_configPath ((hf.plain_of_hasBind hb).1.list _ hl).name (by decide)
  | serverCertificate hp hc =>
    exact FileName.isPlain_configPath (hf.isPlain_of_hasParams hp _ hc) (by decide)
  | values hb ha =>
    obtain ⟨spec, hspec⟩ := hf.exists_agrees hb
    obtain ⟨declared, -, hdeclared⟩ := Check.exists_of_mem_mapM hspec.acls ha
    refine ⟨_, rfl, ?_⟩
    simp only [FileName.isPlain_append]
    exact ⟨⟨⟨⟨by decide, Section.Acl.isPlain_of_ofSpec hdeclared⟩, by decide⟩,
      FileName.isPlain_hex _⟩, by decide⟩
  | page hb he =>
    obtain ⟨spec, hspec⟩ := hf.exists_agrees hb
    obtain ⟨declared, -, hdeclared⟩ := Check.exists_of_mem_mapM hspec.errorFiles he
    exact FileName.isPlain_configPath (Section.ErrorFile.isPlain_of_ofSpec hdeclared) (by decide)
  | mapping he hm =>
    obtain ⟨spec, hspec⟩ := hf.frontends _ he
    exact FileName.isPlain_configPath (Section.Frontend.isPlain_of_ofSpec hspec _ hm) (by decide)
  | daemon => exact ⟨_, rfl, by decide⟩

end ProxyFleet
