import ProxyFleet.Proofs.Checks
import ProxyFleet.Proofs.FileNames
import ProxyFleet.Proofs.Plain
import ProxyFleet.Proofs.Reading

/-!
# Files and what declares them

Which files a pass makes, and whose content they hold.

**Declarations.**  `SideFile.Declares` lists all that declares a file: certificates, certificate
lists and their elements, error pages, access lists, mappings, and the log daemon.  The tasks of a
pass make exactly the files that are declared (`SideFile.mem_declarations`), and none of them is the
file of the environment (`SideFile.Declares.path_ne_envPath`).

**Shared paths.**  Declarations are gone through in the order of the tasks, and a later one with the
same path takes the place of an earlier one.  So a declaration finds its own content exactly when
the last one with its path stands for the same content.

Main statement: `Pass.files_hold_last_declared`.
-/

namespace ProxyFleet

open Section (Certificate CertificateElement Source)

/-! ## What has files -/

namespace Fleet

variable (f : Fleet)

/-- The addresses of a fleet, each with the elements that complete its certificate list. -/
inductive HasBind : Section.Bind → List CertificateElement → Prop
  | listen {e b} (he : e ∈ f.listens) (hb : b ∈ e.content.binds) :
    HasBind b e.content.hostCertificate.toList
  | frontend {e b} (he : e ∈ f.frontends) (hb : b ∈ e.content.binds) :
    HasBind b (SideFile.selectedCertificates f.backends b)

/-- The settings of the servers and server templates of a fleet. -/
inductive HasParams : Section.ServerParams → Prop
  | listen {e p} (he : e ∈ f.listens) (hp : p ∈ e.content.pool.params) : HasParams p
  | backend {e p} (he : e ∈ f.backends) (hp : p ∈ e.content.pool.params) : HasParams p

/-- The shared settings of the sections of a fleet. -/
inductive HasBase : Section.Base → Prop
  | listen {e} (he : e ∈ f.listens) : HasBase e.content.base
  | frontend {e} (he : e ∈ f.frontends) : HasBase e.content.base
  | backend {e} (he : e ∈ f.backends) : HasBase e.content.base

/-- The backends that a mapping selects. -/
def selectedBy (m : Section.RegexMapping) : List (Entry Section.Backend) :=
  f.backends.filter (fun e => m.selector.selects e.labels)

end Fleet

namespace SideFile

/-- The content of a file of patterns: its lines in descending order. -/
def patternContent (lines : List String) : String :=
  String.intercalate "\n" (lines.mergeSort (fun a b => !decide (a < b)))

/-- What declares a file. -/
inductive Declares (i : Section.Instance) (f : Fleet) : Declaration → Prop
  | additionalCertificate {c : Certificate} (h : c ∈ i.global.additionalCertificates) :
    Declares i f ⟨c.path, c.source⟩
  | defaultPage {e : Section.ErrorFile} {source : Source} (h : e ∈ i.defaults.errorFiles)
    (hs : e.source = some source) : Declares i f ⟨e.path, source⟩
  | bindCertificate {b : Section.Bind} {extra : List CertificateElement} {c : Certificate}
    (h : f.HasBind b extra) (hc : c ∈ b.certificates) : Declares i f ⟨c.path, c.source⟩
  | listedCertificate {b : Section.Bind} {extra : List CertificateElement}
    {list : Section.CertificateList} {e : CertificateElement} (h : f.HasBind b extra)
    (hl : b.certificateList = some list) (he : e ∈ list.elements ++ extra) :
    Declares i f ⟨e.certificate.path, e.certificate.source⟩
  | response {b : Section.Bind} {extra : List CertificateElement}
    {list : Section.CertificateList} {e : CertificateElement} {name content : String}
    (h : f.HasBind b extra) (hl : b.certificateList = some list)
    (he : e ∈ list.elements ++ extra) (ho : e.ocsp = .updateWith name content) :
    Declares i f ⟨Section.ocspPath name, .inline content⟩
  | certificateList {b : Section.Bind} {extra : List CertificateElement}
    {list : Section.CertificateList} (h : f.HasBind b extra)
    (hl : b.certificateList = some list) :
    Declares i f ⟨list.path, .inline (listContent (list.elements ++ extra))⟩
  | serverCertificate {p : Section.ServerParams} {c : Certificate} (h : f.HasParams p)
    (hc : c ∈ p.certificates) : Declares i f ⟨c.path, c.source⟩
  | values {b : Section.Base} {a : Section.Acl} (h : f.HasBase b) (ha : a ∈ b.acls)
    (hx : a.isExternalized = true) : Declares i f ⟨a.filePath, .inline a.fileContent⟩
  | page {b : Section.Base} {e : Section.ErrorFile} {source : Source} (h : f.HasBase b)
    (he : e ∈ b.errorFiles) (hs : e.source = some source) : Declares i f ⟨e.path, source⟩
  | mapping {e : Entry Section.Frontend} {m : Section.RegexMapping} {lines : List String}
    (he : e ∈ f.frontends) (hm : m ∈ e.content.mappings)
    (hl : regexLines (f.selectedBy m) = .ok lines) :
    Declares i f ⟨m.path, .inline (patternContent lines)⟩
  | daemon {t : Section.LogTarget} (h : i.global.log = some t)
    (ha : Address.isAddress t.address = false) :
    Declares i f ⟨syslogPath, .inline (syslogContent t.address)⟩

/-! ## What the tasks make -/

/-- The files that a pass is to make, in the order in which it makes them. -/
def declarations (owner : RecordRef) (i : Section.Instance) (f : Fleet) : List Declaration :=
  made (tasks owner i f)

variable {owner : RecordRef} {d : Declaration}

@[simp] lemma made_nil : made [] = [] := rfl

@[simp] lemma mem_made_append {l r : List Task} : d ∈ made (l ++ r) ↔ d ∈ made l ∨ d ∈ made r := by
  simp [made, List.filterMap_append]

@[simp] lemma mem_made_flatMap {α : Type} {l : List α} {g : α → List Task} :
    d ∈ made (l.flatMap g) ↔ ∃ a ∈ l, d ∈ made (g a) := by
  simp [made, List.filterMap_flatMap]

lemma mem_made_map {α : Type} {l : List α} {g : α → Task} :
    d ∈ made (l.map g) ↔ ∃ a ∈ l, (g a).declaration? = some d := by
  simp [made]

@[simp] lemma made_checkpoint : made [.checkpoint] = [] := rfl

@[simp] lemma made_put (path content : String) :
    made [.put path content] = [⟨path, .inline content⟩] := rfl

lemma declaration_certificate (c : Certificate) :
    (certificate owner c).declaration? = some ⟨c.path, c.source⟩ := rfl

@[simp] lemma mem_made_certificates {l : List Certificate} :
    d ∈ made (l.map (certificate owner)) ↔ ∃ c ∈ l, d = ⟨c.path, c.source⟩ := by
  simp [mem_made_map, declaration_certificate, eq_comm]

@[simp] lemma mem_made_errorFiles {l : List Section.ErrorFile} :
    d ∈ made (errorFiles owner l) ↔ ∃ e ∈ l, ∃ source, e.source = some source ∧
      d = ⟨e.path, source⟩ := by
  simp only [made, errorFiles, List.filterMap_filterMap, List.mem_filterMap]
  refine exists_congr fun e => and_congr_right fun _ => ?_
  cases e.source <;> simp [Task.declaration?, eq_comm]

@[simp] lemma mem_made_element {e : CertificateElement} :
    d ∈ made (element owner e) ↔ d = ⟨e.certificate.path, e.certificate.source⟩ ∨
      ∃ name content, e.ocsp = .updateWith name content ∧
        d = ⟨Section.ocspPath name, .inline content⟩ := by
  have hcert : made [certificate owner e.certificate] =
      [⟨e.certificate.path, e.certificate.source⟩] := rfl
  rw [element, mem_made_append, hcert, List.mem_singleton]
  cases e.ocsp with
  | off => simp
  | update => simp
  | updateWith name content => simp [and_assoc]

@[simp] lemma mem_made_bind {b : Section.Bind} {extra : List CertificateElement} :
    d ∈ made (bind owner extra b) ↔ (∃ c ∈ b.certificates, d = ⟨c.path, c.source⟩) ∨
      ∃ list, b.certificateList = some list ∧
        ((∃ e ∈ list.elements ++ extra, d = ⟨e.certificate.path, e.certificate.source⟩ ∨
          ∃ name content, e.ocsp = .updateWith name content ∧
            d = ⟨Section.ocspPath name, .inline content⟩) ∨
        d = ⟨list.path, .inline (listContent (list.elements ++ extra))⟩) := by
  rw [bind, mem_made_append, mem_made_certificates]
  cases b.certificateList with
  | none => simp
  | some list =>
    simp only [mem_made_append, mem_made_flatMap, mem_made_element, made_put, List.mem_singleton,
      Option.some.injEq, exists_eq_left']

@[simp] lemma mem_made_servers {l : List Section.ServerParams} :
    d ∈ made (servers owner l) ↔ ∃ p ∈ l, ∃ c ∈ p.certificates, d = ⟨c.path, c.source⟩ := by
  simp only [servers, mem_made_certificates, List.mem_flatMap]
  constructor
  · rintro ⟨c, ⟨p, hp, hc⟩, rfl⟩
    exact ⟨p, hp, c, hc, rfl⟩
  · rintro ⟨p, hp, c, hc, rfl⟩
    exact ⟨c, ⟨p, hp, hc⟩, rfl⟩

@[simp] lemma mem_made_base {b : Section.Base} :
    d ∈ made (base owner b) ↔
      (∃ a ∈ b.acls, a.isExternalized = true ∧ d = ⟨a.filePath, .inline a.fileContent⟩) ∨
        ∃ e ∈ b.errorFiles, ∃ source, e.source = some source ∧ d = ⟨e.path, source⟩ := by
  have henv : made (b.environment.map (.define owner)) = [] := by
    simp [made, Task.declaration?]
  rw [base, mem_made_append, mem_made_append, henv, mem_made_errorFiles, mem_made_map]
  simp only [List.not_mem_nil, or_false, List.mem_filter, Task.declaration?, Option.some.injEq,
    and_assoc, eq_comm]

@[simp] lemma mem_made_mapping {f : Fleet} {l : List Section.RegexMapping} :
    d ∈ made (l.map (mapping owner f.backends)) ↔ ∃ m ∈ l, ∃ lines,
      regexLines (f.selectedBy m) = .ok lines ∧
        d = ⟨m.path, .inline (patternContent lines)⟩ := by
  rw [mem_made_map]
  refine exists_congr fun m => and_congr_right fun _ => ?_
  rw [mapping, ← Fleet.selectedBy]
  cases regexLines (f.selectedBy m) with
  | error backend => simp [Task.declaration?]
  | ok lines =>
    simp only [Task.declaration?, Option.some.injEq, Except.ok.injEq, exists_eq_left']
    exact eq_comm

@[simp] lemma mem_made_syslog {log : Option Section.LogTarget} :
    d ∈ made (syslog log) ↔ ∃ t, log = some t ∧ Address.isAddress t.address = false ∧
      d = ⟨syslogPath, .inline (syslogContent t.address)⟩ := by
  cases log with
  | none => simp [syslog]
  | some t => cases h : Address.isAddress t.address <;> simp [syslog, h]

variable {i : Section.Instance} {f : Fleet}

/-- What an address declares is declared. -/
lemma declares_of_bind {b : Section.Bind} {extra : List CertificateElement} (h : f.HasBind b extra)
    (hd : d ∈ made (bind owner extra b)) : Declares i f d := by
  rcases mem_made_bind.1 hd with ⟨c, hc, rfl⟩ | ⟨list, hl, ⟨e, he, rfl | ⟨name, content, ho, rfl⟩⟩ |
    rfl⟩
  · exact .bindCertificate h hc
  · exact .listedCertificate h hl he
  · exact .response h hl he ho
  · exact .certificateList h hl

lemma declares_of_servers {l : List Section.ServerParams} (h : ∀ p ∈ l, f.HasParams p)
    (hd : d ∈ made (servers owner l)) : Declares i f d := by
  obtain ⟨p, hp, c, hc, rfl⟩ := mem_made_servers.1 hd
  exact .serverCertificate (h p hp) hc

lemma declares_of_base {b : Section.Base} (h : f.HasBase b) (hd : d ∈ made (base owner b)) :
    Declares i f d := by
  rcases mem_made_base.1 hd with ⟨a, ha, hx, rfl⟩ | ⟨e, he, source, hs, rfl⟩
  · exact .values h ha hx
  · exact .page h he hs

lemma declares_of_listen {e : Entry Section.Listen} (h : e ∈ f.listens) (hd : d ∈ made (listen e)) :
    Declares i f d := by
  simp only [listen, mem_made_append, made_checkpoint, List.not_mem_nil, false_or,
    mem_made_flatMap] at hd
  rcases hd with (⟨b, hb, hd⟩ | hd) | hd
  · exact declares_of_bind (.listen h hb) hd
  · exact declares_of_servers (fun p hp => .listen h hp) hd
  · exact declares_of_base (.listen h) hd

lemma declares_of_frontend {e : Entry Section.Frontend} (h : e ∈ f.frontends)
    (hd : d ∈ made (frontend f.backends e)) : Declares i f d := by
  simp only [frontend, mem_made_append, made_checkpoint, List.not_mem_nil, false_or,
    mem_made_flatMap] at hd
  rcases hd with (⟨b, hb, hd⟩ | hd) | hd
  · exact declares_of_bind (.frontend h hb) hd
  · obtain ⟨m, hm, lines, hl, rfl⟩ := mem_made_mapping.1 hd
    exact .mapping h hm hl
  · exact declares_of_base (.frontend h) hd

lemma declares_of_backend {e : Entry Section.Backend} (h : e ∈ f.backends)
    (hd : d ∈ made (backend e)) : Declares i f d := by
  simp only [backend, mem_made_append, made_checkpoint, List.not_mem_nil, false_or] at hd
  rcases hd with hd | hd
  · exact declares_of_servers (fun p hp => .backend h hp) hd
  · exact declares_of_base (.backend h) hd

/-- The tasks of a pass are those of the instance and of the records, kind by kind. -/
lemma mem_declarations_cases : d ∈ declarations owner i f ↔
    (∃ c ∈ i.global.additionalCertificates, d = ⟨c.path, c.source⟩) ∨
      (∃ e ∈ i.defaults.errorFiles, ∃ source, e.source = some source ∧ d = ⟨e.path, source⟩) ∨
      (∃ e ∈ f.listens, d ∈ made (listen e)) ∨
      (∃ e ∈ f.frontends, d ∈ made (frontend f.backends e)) ∨
      (∃ e ∈ f.backends, d ∈ made (backend e)) ∨ d ∈ made (syslog i.global.log) := by
  simp only [declarations, tasks, mem_made_append, mem_made_flatMap, mem_made_certificates,
    mem_made_errorFiles, or_assoc]

/-- The files of an address are made, whichever record it belongs to. -/
lemma mem_declarations_of_bind {b : Section.Bind} {extra : List CertificateElement}
    (h : f.HasBind b extra) (hd : ∀ owner, d ∈ made (bind owner extra b)) :
    d ∈ declarations owner i f := by
  rw [mem_declarations_cases]
  cases h with
  | listen he hb =>
    refine .inr (.inr (.inl ⟨_, he, ?_⟩))
    simp only [listen, mem_made_append, mem_made_flatMap]
    exact .inl (.inl (.inr ⟨_, hb, hd _⟩))
  | frontend he hb =>
    refine .inr (.inr (.inr (.inl ⟨_, he, ?_⟩)))
    simp only [frontend, mem_made_append, mem_made_flatMap]
    exact .inl (.inl (.inr ⟨_, hb, hd _⟩))

/-- The files of shared settings are made, whichever record they belong to. -/
lemma mem_declarations_of_base {b : Section.Base} (h : f.HasBase b)
    (hd : ∀ owner, d ∈ made (base owner b)) : d ∈ declarations owner i f := by
  rw [mem_declarations_cases]
  cases h with
  | listen he =>
    refine .inr (.inr (.inl ⟨_, he, ?_⟩))
    rw [listen, mem_made_append]
    exact .inr (hd _)
  | frontend he =>
    refine .inr (.inr (.inr (.inl ⟨_, he, ?_⟩)))
    rw [frontend, mem_made_append]
    exact .inr (hd _)
  | backend he =>
    refine .inr (.inr (.inr (.inr (.inl ⟨_, he, ?_⟩))))
    rw [backend, mem_made_append]
    exact .inr (hd _)

/-- The certificates of servers are made, whichever record they belong to. -/
lemma mem_declarations_of_params {p : Section.ServerParams} {c : Certificate}
    (h : f.HasParams p) (hc : c ∈ p.certificates) :
    ⟨c.path, c.source⟩ ∈ declarations owner i f := by
  rw [mem_declarations_cases]
  cases h with
  | listen he hp =>
    refine .inr (.inr (.inl ⟨_, he, ?_⟩))
    simp only [listen, mem_made_append, mem_made_servers]
    exact .inl (.inr ⟨p, hp, c, hc, rfl⟩)
  | backend he hp =>
    refine .inr (.inr (.inr (.inr (.inl ⟨_, he, ?_⟩))))
    simp only [backend, mem_made_append, mem_made_servers]
    exact .inl (.inr ⟨p, hp, c, hc, rfl⟩)

/-- Every mapping of a frontend is worked on. -/
lemma mapping_mem_tasks {e : Entry Section.Frontend} (he : e ∈ f.frontends)
    {m : Section.RegexMapping} (hm : m ∈ e.content.mappings) :
    mapping e.ref f.backends m ∈ tasks owner i f := by
  have hfrontend : mapping e.ref f.backends m ∈ frontend f.backends e := by
    simp only [frontend, List.mem_append]
    exact .inl (.inr (List.mem_map_of_mem hm))
  simp only [tasks, List.mem_append]
  exact .inl (.inl (.inr (List.mem_flatMap.2 ⟨e, he, hfrontend⟩)))

/-- **The tasks of a pass make the files that are declared, and no others.** -/
lemma mem_declarations : d ∈ declarations owner i f ↔ Declares i f d := by
  constructor
  · intro h
    rcases mem_declarations_cases.1 h with ⟨c, hc, rfl⟩ | ⟨e, he, source, hs, rfl⟩ | ⟨e, he, hd⟩ |
      ⟨e, he, hd⟩ | ⟨e, he, hd⟩ | hd
    · exact .additionalCertificate hc
    · exact .defaultPage he hs
    · exact declares_of_listen he hd
    · exact declares_of_frontend he hd
    · exact declares_of_backend he hd
    · obtain ⟨t, ht, ha, rfl⟩ := mem_made_syslog.1 hd
      exact .daemon ht ha
  · intro h
    cases h with
    | additionalCertificate hc => exact mem_declarations_cases.2 (.inl ⟨_, hc, rfl⟩)
    | defaultPage he hs => exact mem_declarations_cases.2 (.inr (.inl ⟨_, he, _, hs, rfl⟩))
    | bindCertificate h hc =>
      exact mem_declarations_of_bind h fun _ => mem_made_bind.2 (.inl ⟨_, hc, rfl⟩)
    | listedCertificate h hl he =>
      exact mem_declarations_of_bind h fun _ =>
        mem_made_bind.2 (.inr ⟨_, hl, .inl ⟨_, he, .inl rfl⟩⟩)
    | response h hl he ho =>
      exact mem_declarations_of_bind h fun _ =>
        mem_made_bind.2 (.inr ⟨_, hl, .inl ⟨_, he, .inr ⟨_, _, ho, rfl⟩⟩⟩)
    | certificateList h hl =>
      exact mem_declarations_of_bind h fun _ => mem_made_bind.2 (.inr ⟨_, hl, .inr rfl⟩)
    | serverCertificate h hc => exact mem_declarations_of_params h hc
    | values h ha hx =>
      exact mem_declarations_of_base h fun _ => mem_made_base.2 (.inl ⟨_, ha, hx, rfl⟩)
    | page h he hs =>
      exact mem_declarations_of_base h fun _ => mem_made_base.2 (.inr ⟨_, he, _, hs, rfl⟩)
    | mapping he hm hl =>
      refine mem_declarations_cases.2 (.inr (.inr (.inr (.inl ⟨_, he, ?_⟩))))
      simp only [frontend, mem_made_append, mem_made_mapping]
      exact .inl (.inr ⟨_, hm, _, hl, rfl⟩)
    | daemon ht ha =>
      exact mem_declarations_cases.2
        (.inr (.inr (.inr (.inr (.inr (mem_made_syslog.2 ⟨_, ht, ha, rfl⟩))))))

/-! ## Paths -/

lemma hasExtension_configPath (name : String) {ext : String}
    (h : "." ++ ext ∈ FileName.extensions) :
    ∃ base, configPath name ext = inConfigDir base ∧ FileName.HasExtension base := by
  obtain ⟨stem, hpath, -⟩ := FileName.configPath_eq name ext
  exact ⟨_, hpath, stem, _, h, rfl⟩

/-- A declared file stands in the directory of the proxy, under a name with an extension. -/
lemma Declares.exists_name (h : Declares i f d) :
    ∃ base, d.path = inConfigDir base ∧ FileName.HasExtension base := by
  cases h with
  | additionalCertificate | bindCertificate | listedCertificate | serverCertificate =>
    exact hasExtension_configPath _ (by decide)
  | defaultPage | page => exact hasExtension_configPath _ (by decide)
  | response => exact hasExtension_configPath _ (by decide)
  | certificateList | mapping => exact hasExtension_configPath _ (by decide)
  | values => exact ⟨_, rfl, _, ".txt", by decide, rfl⟩
  | daemon => exact ⟨_, rfl, "rsyslog", ".conf", by decide, rfl⟩

/-- No declared file is that of the environment. -/
lemma Declares.path_ne_envPath (h : Declares i f d) : d.path ≠ envPath := by
  obtain ⟨base, hpath, hbase⟩ := h.exists_name
  rw [hpath, envPath, Ne, FileName.inConfigDir_inj]
  exact hbase.ne (by decide)

end SideFile

/-- The file of the environment takes no other one's place. -/
lemma Progress.get?_allFiles {p : Progress} {path : String} (h : path ≠ SideFile.envPath) :
    p.allFiles.get? path = p.files.get? path := by
  rw [allFiles]
  split
  · rfl
  · rw [KeyMap.get?_insert, if_neg h]

namespace Pass

variable {store : Store} {cancel : Cancellation} {i : InstanceRecord} {records : Records}
  {set : ArtifactSet}

/-! ## Passes that succeed -/

/-- The mappings of a pass that succeeds select only backends with a host pattern. -/
lemma exists_regexLines_of_tasks {owner : RecordRef} {content : Section.Instance} {f : Fleet}
    {p : Progress} {c d : Course}
    (h : Reading.exec (Reading.tasks store cancel (SideFile.tasks owner content f)) c = (.ok p, d))
    {e : Entry Section.Frontend} (he : e ∈ f.frontends) {m : Section.RegexMapping}
    (hm : m ∈ e.content.mappings) : ∃ lines, SideFile.regexLines (f.selectedBy m) = .ok lines := by
  have hmem : SideFile.mapping e.ref f.backends m ∈ SideFile.tasks owner content f :=
    SideFile.mapping_mem_tasks he hm
  cases hl : SideFile.regexLines (f.selectedBy m) with
  | ok lines => exact ⟨lines, rfl⟩
  | error backend =>
    have hrefuse : SideFile.mapping e.ref f.backends m = .refuse e.ref backend := by
      rw [SideFile.mapping, ← Fleet.selectedBy, hl]
    rw [hrefuse] at hmem
    exact absurd hmem (Reading.not_refuse_of_foldlM h _ _)

/-- The file of a declaration has the content of the last one with its path. -/
lemma last_declared_of_tasks {content : Section.Instance} {f : Fleet} {p : Progress}
    {c course : Course} (h : Reading.exec (Reading.tasks store cancel
      (SideFile.tasks (instanceRef i) content f)) c = (.ok p, course)) {d : Declaration}
    (hd : SideFile.Declares content f d) :
    ∃ text last, d.source.resolve store = some text ∧
      lastSource d.path (SideFile.declarations (instanceRef i) content f) = some last ∧
      SideFile.Declares content f ⟨d.path, last⟩ ∧
      p.allFiles.get? d.path = last.resolve store := by
  obtain ⟨hresolve, hfiles⟩ := Reading.files_of_tasks h
  have hmem : d ∈ SideFile.declarations (instanceRef i) content f := SideFile.mem_declarations.2 hd
  obtain ⟨text, htext⟩ := hresolve d hmem
  obtain ⟨last, hlast⟩ := exists_lastSource_of_mem hmem
  refine ⟨text, last, htext, hlast, SideFile.mem_declarations.1 (mem_of_lastSource hlast), ?_⟩
  rw [Progress.get?_allFiles hd.path_ne_envPath, hfiles, ← SideFile.declarations, hlast]
  rfl

/-- A declaration finds its own content if all with its path stand for that. -/
lemma get?_of_declares {content : Section.Instance} {f : Fleet}
    (h : (run store cancel i records).result = .ok set)
    (hprepare : prepare cancel i records = .ok (content, f)) {d : Declaration}
    (hd : SideFile.Declares content f d)
    (hown : ∀ e, SideFile.Declares content f e → e.path = d.path →
      e.source.resolve store = d.source.resolve store) :
    set.files.get? d.path = d.source.resolve store := by
  obtain ⟨content', f', p, course, hprepare', hwork, rfl⟩ := run_eq_ok h
  cases hprepare.symm.trans hprepare'
  obtain ⟨-, last, -, -, hlast, hfile⟩ := last_declared_of_tasks hwork hd
  exact hfile.trans (hown _ hlast rfl)

/-- Declarations of which no two have the same path find their own content. -/
lemma get?_of_distinct {content : Section.Instance} {f : Fleet}
    (h : (run store cancel i records).result = .ok set)
    (hprepare : prepare cancel i records = .ok (content, f))
    (hdistinct : ((SideFile.declarations (instanceRef i) content f).map (·.path)).Nodup)
    {d : Declaration} (hd : SideFile.Declares content f d) :
    set.files.get? d.path = d.source.resolve store := by
  refine get?_of_declares h hprepare hd fun e he hpath => ?_
  rw [List.inj_on_of_nodup_map hdistinct (SideFile.mem_declarations.2 he)
    (SideFile.mem_declarations.2 hd) hpath]

/-- **A path holds what was declared for it last.**  In a pass that succeeds every declared source
has a content, every mapping has its lines, and the file at a declared path has the content of the
last declaration with that path.  So every declaration finds its own content exactly when those
with one path stand for one content. -/
theorem files_hold_last_declared (h : (run store cancel i records).result = .ok set) :
    ∃ content fleet, prepare cancel i records = .ok (content, fleet) ∧
      (∀ e ∈ fleet.frontends, ∀ m ∈ e.content.mappings,
        ∃ lines, SideFile.regexLines (fleet.selectedBy m) = .ok lines) ∧
      (∀ d, SideFile.Declares content fleet d → ∃ text last,
        d.source.resolve store = some text ∧
        lastSource d.path (SideFile.declarations (instanceRef i) content fleet) = some last ∧
        SideFile.Declares content fleet ⟨d.path, last⟩ ∧
        set.files.get? d.path = last.resolve store) ∧
      ((∀ d, SideFile.Declares content fleet d →
          set.files.get? d.path = d.source.resolve store) ↔
        ∀ d e, SideFile.Declares content fleet d → SideFile.Declares content fleet e →
          d.path = e.path → d.source.resolve store = e.source.resolve store) := by
  obtain ⟨content, fleet, p, course, hprepare, hwork, rfl⟩ := run_eq_ok h
  have hlast : ∀ d, SideFile.Declares content fleet d → ∃ text last,
      d.source.resolve store = some text ∧
      lastSource d.path (SideFile.declarations (instanceRef i) content fleet) = some last ∧
      SideFile.Declares content fleet ⟨d.path, last⟩ ∧
      p.allFiles.get? d.path = last.resolve store := fun d => last_declared_of_tasks hwork
  refine ⟨content, fleet, hprepare, fun e he m hm => exists_regexLines_of_tasks hwork he hm, hlast,
    ?_⟩
  constructor
  · intro hown d e hd he hpath
    rw [← hown d hd, ← hown e he, hpath]
  · intro hshared d hd
    obtain ⟨text, last, -, -, hdeclared, hfile⟩ := hlast d hd
    rw [hfile]
    exact hshared ⟨d.path, last⟩ d hdeclared hd rfl

/-- A frontend with a certificate of its own under a name that every such frontend uses. -/
def sharingFrontend (name content : String) : FrontendRecord :=
  .plain (some "edge") name
    { Spec.Frontend.none with
      binds := [.encrypted (.withCertificate ⟨"web", some content, []⟩) none] }

/-- Two frontends that call their certificates by one name: the later one's stays. -/
theorem files_hold_last_declared_two_frontends :
    let store : Store := fun _ => .ok none
    let i : InstanceRecord := .plain (some "edge") "fleet" .none
    let records : Records := ⟨[], [sharingFrontend "a" "one", sharingFrontend "b" "two"], [], []⟩
    ∃ set content fleet, (run store .never i records).result = .ok set ∧
      prepare .never i records = .ok (content, fleet) ∧
      SideFile.Declares content fleet ⟨inConfigDir "web.crt", .inline "two"⟩ ∧
      set.files.get? (inConfigDir "web.crt") = some "two" := by
  intro store i records
  have hlast : (prepare .never i records).map (fun p =>
      lastSource (inConfigDir "web.crt") (SideFile.declarations (instanceRef i) p.1 p.2)) =
      .ok (some (.inline "two")) := by cbv
  have hok : ((run store .never i records).result.map (fun _ => ())) = .ok () := by cbv
  obtain ⟨set, hset, -⟩ := Check.map_eq_ok_iff.1 hok
  obtain ⟨content, fleet, hprepare, -, hfiles, -⟩ := files_hold_last_declared hset
  rw [hprepare, Except.map, Except.ok.injEq] at hlast
  have hdeclared : SideFile.Declares content fleet ⟨inConfigDir "web.crt", .inline "two"⟩ :=
    SideFile.mem_declarations.1 (mem_of_lastSource hlast)
  obtain ⟨text, last, -, hlast', -, hfile⟩ := hfiles _ hdeclared
  cases hlast.symm.trans hlast'
  exact ⟨set, content, fleet, hset, hprepare, hdeclared, hfile⟩

/-- The earlier one of the two does not find its own certificate, though the pass succeeds. -/
theorem shared_name_loses_content :
    let store : Store := fun _ => .ok none
    let i : InstanceRecord := .plain (some "edge") "fleet" .none
    let records : Records := ⟨[], [sharingFrontend "a" "one", sharingFrontend "b" "two"], [], []⟩
    ∃ set content fleet, (run store .never i records).result = .ok set ∧
      prepare .never i records = .ok (content, fleet) ∧
      SideFile.Declares content fleet ⟨inConfigDir "web.crt", .inline "one"⟩ ∧
      set.files.get? (inConfigDir "web.crt") ≠ (Source.inline "one").resolve store := by
  intro store i records
  have hfile : (run store .never i records).result.map
      (fun set => set.files.get? (inConfigDir "web.crt")) = .ok (some "two") := by cbv
  have hall : (prepare .never i records).map
      (fun p => SideFile.declarations (instanceRef i) p.1 p.2) =
      .ok [⟨inConfigDir "web.crt", .inline "one"⟩, ⟨inConfigDir "web.crt", .inline "two"⟩] := by cbv
  obtain ⟨set, hset, hweb⟩ := Check.map_eq_ok_iff.1 hfile
  obtain ⟨⟨content, fleet⟩, hprepare, hdeclarations⟩ := Check.map_eq_ok_iff.1 hall
  have hdeclared : SideFile.Declares content fleet ⟨inConfigDir "web.crt", .inline "one"⟩ := by
    refine SideFile.mem_declarations.1 (?_ : _ ∈ SideFile.declarations (instanceRef i) _ _)
    rw [hdeclarations]
    exact List.mem_cons_self
  refine ⟨set, content, fleet, hset, hprepare, hdeclared, ?_⟩
  rw [hweb]
  decide

end Pass

end ProxyFleet
