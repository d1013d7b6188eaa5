import ProxyFleet.Proofs.DeclaredFiles

/-!
# The files that a pass makes

Which paths the side files of a pass have, told from the checked instance and records alone.

**Variables.**  A task adds the line of a variable and its value to the environment, or nothing
(`Reading.environment_of_task`).  So the tasks of a pass that succeeds leave one line for every
variable that a rule uses (`Reading.environment_of_foldlM`, `SideFile.defined_tasks`).

**Files.**  `SideFile.IsCalledFor` lists everything that calls for a file.  A pass that succeeds
makes those files and no others (`Pass.contains_iff_isCalledFor`).
-/

namespace ProxyFleet

open Section (Certificate CertificateElement Source)

/-! ## Variables -/

/-- The value of a variable in a store: its own text, or the stored one as it is. -/
def Section.Variable.resolve (store : Store) (v : Section.Variable) : Option String :=
  match v.value with
  | .literal value => some value
  | .secret ref => store.text? ref

/-- The variable that a task adds to the environment. -/
def Task.variable? : Task → Option Section.Variable
  | .define _ v => some v
  | _ => none

namespace SideFile

/-- The variables that a row of tasks adds to the environment, in order. -/
def defined (l : List Task) : List Section.Variable := l.filterMap Task.variable?

@[simp] lemma defined_append (l r : List Task) :
    defined (l ++ r) = defined l ++ defined r := List.filterMap_append

lemma defined_flatMap {α : Type} (l : List α) (g : α → List Task) :
    defined (l.flatMap g) = l.flatMap (fun a => defined (g a)) := by
  simp [defined, List.filterMap_flatMap]

lemma defined_eq_nil {l : List Task} (h : ∀ t ∈ l, t.variable? = none) : defined l = [] :=
  List.filterMap_eq_nil_iff.2 h

lemma defined_flatMap_eq_nil {α : Type} {l : List α} {g : α → List Task}
    (h : ∀ a, defined (g a) = []) : defined (l.flatMap g) = [] := by
  rw [defined_flatMap]
  exact List.flatMap_eq_nil_iff.2 fun a _ => h a

variable {owner : RecordRef}

@[simp] lemma defined_certificates (l : List Certificate) :
    defined (l.map (certificate owner)) = [] := by
  refine defined_eq_nil fun t ht => ?_
  obtain ⟨c, -, rfl⟩ := List.mem_map.1 ht
  rfl

@[simp] lemma defined_errorFiles (l : List Section.ErrorFile) :
    defined (errorFiles owner l) = [] := by
  refine defined_eq_nil fun t ht => ?_
  obtain ⟨e, -, he⟩ := List.mem_filterMap.1 ht
  obtain ⟨source, -, rfl⟩ := Option.map_eq_some_iff.1 he
  rfl

@[simp] lemma defined_element (e : CertificateElement) : defined (element owner e) = [] := by
  have hcert : defined [certificate owner e.certificate] = [] := rfl
  rw [element, defined_append, hcert]
  cases e.ocsp <;> rfl

@[simp] lemma defined_bind (extra : List CertificateElement) (b : Section.Bind) :
    defined (bind owner extra b) = [] := by
  rw [bind, defined_append, defined_certificates]
  cases b.certificateList with
  | none => rfl
  | some list =>
    have hput : defined [.put list.path (listContent (list.elements ++ extra))] = [] := rfl
    simp only [defined_append, defined_flatMap_eq_nil defined_element, hput, List.append_nil]

@[simp] lemma defined_servers (l : List Section.ServerParams) :
    defined (servers owner l) = [] := defined_certificates _

@[simp] lemma defined_mappings (backends : List (Entry Section.Backend))
    (l : List Section.RegexMapping) : defined (l.map (mapping owner backends)) = [] := by
  refine defined_eq_nil fun t ht => ?_
  obtain ⟨m, -, rfl⟩ := List.mem_map.1 ht
  rw [mapping]
  split <;> rfl

@[simp] lemma defined_base (b : Section.Base) : defined (base owner b) = b.environment := by
  have hvalues : defined ((b.acls.filter (·.isExternalized)).map
      (fun a => .put a.filePath a.fileContent)) = [] := by
    refine defined_eq_nil fun t ht => ?_
    obtain ⟨a, -, rfl⟩ := List.mem_map.1 ht
    rfl
  have hdefine : defined (b.environment.map (.define owner)) = b.environment := by
    rw [defined, List.filterMap_map]
    exact List.filterMap_some
  rw [base, defined_append, defined_append, hvalues, defined_errorFiles, hdefine]
  rfl

@[simp] lemma defined_syslog (log : Option Section.LogTarget) : defined (syslog log) = [] := by
  cases log with
  | none => rfl
  | some t => cases h : Address.isAddress t.address <;> simp [syslog, h, defined, Task.variable?]

@[simp] lemma defined_checkpoint : defined [.checkpoint] = [] := rfl

@[simp] lemma defined_listen (e : Entry Section.Listen) :
    defined (listen e) = e.content.base.environment := by
  rw [listen, defined_append, defined_append, defined_append, defined_servers, defined_base,
    defined_flatMap_eq_nil (defined_bind _)]
  rfl

@[simp] lemma defined_frontend (backends : List (Entry Section.Backend))
    (e : Entry Section.Frontend) :
    defined (frontend backends e) = e.content.base.environment := by
  rw [frontend, defined_append, defined_append, defined_append, defined_mappings, defined_base,
    defined_flatMap_eq_nil fun b => defined_bind _ b]
  rfl

@[simp] lemma defined_backend (e : Entry Section.Backend) :
    defined (backend e) = e.content.base.environment := by
  rw [backend, defined_append, defined_append, defined_servers, defined_base]
  rfl

/-- The variables that the rules of a fleet use. -/
def usedVariables (f : Fleet) : List Section.Variable :=
  f.listens.flatMap (·.content.base.environment) ++
    f.frontends.flatMap (·.content.base.environment) ++
    f.backends.flatMap (·.content.base.environment)

/-- **The tasks of a pass add the variables that rules use**, and no others. -/
lemma defined_tasks (i : Section.Instance) (f : Fleet) :
    defined (tasks owner i f) = usedVariables f := by
  simp [tasks, usedVariables, defined_flatMap]

lemma mem_usedVariables {f : Fleet} {v : Section.Variable} :
    v ∈ usedVariables f ↔ ∃ b, f.HasBase b ∧ v ∈ b.environment := by
  simp only [usedVariables, List.mem_append, List.mem_flatMap]
  constructor
  · rintro ((⟨e, he, hv⟩ | ⟨e, he, hv⟩) | ⟨e, he, hv⟩)
    · exact ⟨_, .listen he, hv⟩
    · exact ⟨_, .frontend he, hv⟩
    · exact ⟨_, .backend he, hv⟩
  · rintro ⟨b, hb, hv⟩
    cases hb with
    | listen he => exact .inl (.inl ⟨_, he, hv⟩)
    | frontend he => exact .inl (.inr ⟨_, he, hv⟩)
    | backend he => exact .inr ⟨_, he, hv⟩

/-- The line of a variable and its value. -/
def assignment (a : String × String) : String := a.1 ++ "=" ++ a.2

/-- Whether pairs are the names of variables and the values that they have in a store. -/
def Assigns (store : Store) (l : List Section.Variable) (pairs : List (String × String)) : Prop :=
  List.Forall₂ (fun v a => a.1 = v.name ∧ v.resolve store = some a.2) l pairs

end SideFile

namespace Reading

variable {store : Store} {cancel : Cancellation} {c d : Course}

/-- The value of a variable is its text or the stored one. -/
lemma resolve_of_variableValue {owner : RecordRef} {v : Section.Variable} {text : String}
    (h : exec (variableValue store cancel owner v.value) c = (.ok text, d)) :
    v.resolve store = some text := by
  rw [Section.Variable.resolve]
  cases hvalue : v.value with
  | literal value =>
    rw [hvalue] at h
    cases h
    rfl
  | secret ref =>
    rw [hvalue] at h
    exact text?_of_value h

/-- A task that succeeds adds a line for its variable, if it has one. -/
lemma environment_of_task {p q : Progress} {t : Task}
    (h : exec (task store cancel p t) c = (.ok q, d)) :
    ∃ lines, SideFile.Assigns store (SideFile.defined [t]) lines ∧
      q.environment = p.environment ++ lines.map SideFile.assignment := by
  cases t with
  | checkpoint =>
    obtain ⟨_, e, -, h⟩ := exec_bind_eq_ok h
    cases h
    exact ⟨[], .nil, (List.append_nil _).symm⟩
  | find owner use path source =>
    obtain ⟨text, e, -, h⟩ := exec_bind_eq_ok h
    cases h
    exact ⟨[], .nil, (List.append_nil _).symm⟩
  | put path content =>
    cases h
    exact ⟨[], .nil, (List.append_nil _).symm⟩
  | define owner v =>
    obtain ⟨text, e, hvalue, h⟩ := exec_bind_eq_ok h
    cases h
    exact ⟨[(v.name, text)], .cons ⟨rfl, resolve_of_variableValue hvalue⟩ .nil, rfl⟩
  | refuse owner backend => cases h

/-- A row of tasks that succeeds adds a line for each of its variables. -/
lemma environment_of_foldlM {l : List Task} {p q : Progress}
    (h : exec (l.foldlM (task store cancel) p) c = (.ok q, d)) :
    ∃ lines, SideFile.Assigns store (SideFile.defined l) lines ∧
      q.environment = p.environment ++ lines.map SideFile.assignment := by
  induction l generalizing p c with
  | nil =>
    rw [List.foldlM_nil, exec_pure] at h
    cases h
    exact ⟨[], .nil, (List.append_nil _).symm⟩
  | cons t rest ih =>
    rw [List.foldlM_cons] at h
    obtain ⟨p', e, ht, h⟩ := exec_bind_eq_ok h
    obtain ⟨first, hfirst, hp'⟩ := environment_of_task ht
    obtain ⟨later, hlater, hq⟩ := ih h
    have hsplit : SideFile.defined (t :: rest) =
        SideFile.defined [t] ++ SideFile.defined rest := SideFile.defined_append [t] rest
    refine ⟨first ++ later, ?_, ?_⟩
    · rw [hsplit]
      exact List.rel_append hfirst hlater
    · rw [hq, hp', List.map_append, List.append_assoc]

end Reading

/-- The variables of some settings are those from which their headers take their values. -/
lemma Section.Base.mem_environment_iff {b : Section.Base} {v : Section.Variable} :
    v ∈ b.environment ↔ ∃ name value condition,
      (.setHeader name value condition ∈ b.httpRules ∨
        .addHeader name value condition ∈ b.httpRules) ∧ value.content = .variable v := by
  have hvalue : ∀ value : Section.HeaderValue,
      value.usedVariable = some v ↔ value.content = .variable v := by
    intro value
    rw [Section.HeaderValue.usedVariable]
    cases value.content <;> simp
  rw [environment, List.mem_filterMap]
  constructor
  · rintro ⟨rule, hrule, hv⟩
    cases rule with
    | setHeader name value condition =>
      exact ⟨name, value, condition, .inl hrule, (hvalue value).1 hv⟩
    | addHeader name value condition =>
      exact ⟨name, value, condition, .inr hrule, (hvalue value).1 hv⟩
    | setPath | replacePath | deny | redirect | answer => cases hv
  · rintro ⟨name, value, condition, hrule | hrule, hv⟩
    · exact ⟨_, hrule, (hvalue value).2 hv⟩
    · exact ⟨_, hrule, (hvalue value).2 hv⟩

/-! ## Files -/

namespace SideFile

/-- What calls for a file, and the path that the file has. -/
inductive IsCalledFor (i : Section.Instance) (f : Fleet) : String → Prop
  | additionalCertificate {c : Certificate} (h : c ∈ i.global.additionalCertificates) :
    IsCalledFor i f c.path
  | bindCertificate {b : Section.Bind} {extra : List CertificateElement} {c : Certificate}
    (h : f.HasBind b extra) (hc : c ∈ b.certificates) : IsCalledFor i f c.path
  | certificateList {b : Section.Bind} {extra : List CertificateElement}
    {list : Section.CertificateList} (h : f.HasBind b extra)
    (hl : b.certificateList = some list) : IsCalledFor i f list.path
  | listedCertificate {b : Section.Bind} {extra : List CertificateElement}
    {list : Section.CertificateList} {e : CertificateElement} (h : f.HasBind b extra)
    (hl : b.certificateList = some list) (he : e ∈ list.elements ++ extra) :
    IsCalledFor i f e.certificate.path
  | response {b : Section.Bind} {extra : List CertificateElement}
    {list : Section.CertificateList} {e : CertificateElement} {name content : String}
    (h : f.HasBind b extra) (hl : b.certificateList = some list)
    (he : e ∈ list.elements ++ extra) (ho : e.ocsp = .updateWith name content) :
    IsCalledFor i f (Section.ocspPath name)
  | serverCertificate {p : Section.ServerParams} {c : Certificate} (h : f.HasParams p)
    (hc : c ∈ p.certificates) : IsCalledFor i f c.path
  | mapping {e : Entry Section.Frontend} {m : Section.RegexMapping} (he : e ∈ f.frontends)
    (hm : m ∈ e.content.mappings) : IsCalledFor i f m.path
  | values {b : Section.Base} {a : Section.Acl} (h : f.HasBase b) (ha : a ∈ b.acls)
    (hx : a.isExternalized = true) : IsCalledFor i f a.filePath
  | defaultPage {e : Section.ErrorFile} {source : Source} (h : e ∈ i.defaults.errorFiles)
    (hs : e.source = some source) : IsCalledFor i f e.path
  | page {b : Section.Base} {e : Section.ErrorFile} {source : Source} (h : f.HasBase b)
    (he : e ∈ b.errorFiles) (hs : e.source = some source) : IsCalledFor i f e.path
  | environment {b : Section.Base} {v : Section.Variable} (h : f.HasBase b)
    (hv : v ∈ b.environment) : IsCalledFor i f envPath
  | daemon {t : Section.LogTarget} (h : i.global.log = some t)
    (ha : Address.isAddress t.address = false) : IsCalledFor i f syslogPath

variable {i : Section.Instance} {f : Fleet} {path : String}

/-- Everything that calls for a file declares it, but for the variables of the environment. -/
lemma isCalledFor_iff (hlines : ∀ e ∈ f.frontends, ∀ m ∈ e.content.mappings,
    ∃ lines, regexLines (f.selectedBy m) = .ok lines) :
    IsCalledFor i f path ↔
      (∃ source, Declares i f ⟨path, source⟩) ∨ path = envPath ∧ usedVariables f ≠ [] := by
  constructor
  · intro h
    cases h with
    | additionalCertificate h => exact .inl ⟨_, .additionalCertificate h⟩
    | bindCertificate h hc => exact .inl ⟨_, .bindCertificate h hc⟩
    | certificateList h hl => exact .inl ⟨_, .certificateList h hl⟩
    | listedCertificate h hl he => exact .inl ⟨_, .listedCertificate h hl he⟩
    | response h hl he ho => exact .inl ⟨_, .response h hl he ho⟩
    | serverCertificate h hc => exact .inl ⟨_, .serverCertificate h hc⟩
    | mapping he hm =>
      obtain ⟨lines, hl⟩ := hlines _ he _ hm
      exact .inl ⟨_, .mapping he hm hl⟩
    | values h ha hx => exact .inl ⟨_, .values h ha hx⟩
    | defaultPage h hs => exact .inl ⟨_, .defaultPage h hs⟩
    | page h he hs => exact .inl ⟨_, .page h he hs⟩
    | environment h hv =>
      exact .inr ⟨rfl, List.ne_nil_of_mem (mem_usedVariables.2 ⟨_, h, hv⟩)⟩
    | daemon h ha => exact .inl ⟨_, .daemon h ha⟩
  · rintro (⟨source, h⟩ | ⟨rfl, h⟩)
    · cases h with
      | additionalCertificate h => exact .additionalCertificate h
      | defaultPage h hs => exact .defaultPage h hs
      | bindCertificate h hc => exact .bindCertificate h hc
      | listedCertificate h hl he => exact .listedCertificate h hl he
      | response h hl he ho => exact .response h hl he ho
      | certificateList h hl => exact .certificateList h hl
      | serverCertificate h hc => exact .serverCertificate h hc
      | values h ha hx => exact .values h ha hx
      | page h he hs => exact .page h he hs
      | mapping he hm hl => exact .mapping he hm
      | daemon h ha => exact .daemon h ha
    · obtain ⟨v, hv⟩ := List.exists_mem_of_ne_nil _ h
      obtain ⟨b, hb, hv⟩ := mem_usedVariables.1 hv
      exact .environment hb hv

lemma ending_configPath (name : String) {ext : String} (h : 4 ≤ ("." ++ ext).toList.length) :
    ∃ base, configPath name ext = inConfigDir base ∧
      FileName.ending base = FileName.ending ("." ++ ext) := by
  obtain ⟨stem, hpath, -⟩ := FileName.configPath_eq name ext
  exact ⟨_, hpath, FileName.ending_append h stem⟩

/-- Only the log daemon declares the file of its settings. -/
lemma Declares.exists_log {source : Source} (h : Declares i f ⟨syslogPath, source⟩) :
    ∃ t, i.global.log = some t ∧ Address.isAddress t.address = false := by
  -- no other file has the extension of settings
  have hother : ∀ name ext : String, 4 ≤ ("." ++ ext).toList.length →
      FileName.ending ("." ++ ext) ≠ FileName.ending "rsyslog.conf" →
      syslogPath ≠ configPath name ext := by
    intro name ext hlong hne heq
    obtain ⟨base, hpath, hending⟩ := ending_configPath name hlong
    rw [hpath, syslogPath, FileName.inConfigDir_inj] at heq
    rw [← heq] at hending
    exact hne hending.symm
  generalize hd : (⟨syslogPath, source⟩ : Declaration) = d at h
  have hpath : syslogPath = d.path := congrArg Declaration.path hd
  cases h with
  | additionalCertificate | bindCertificate | listedCertificate | serverCertificate =>
    exact absurd hpath (hother _ _ (by decide) (by decide))
  | defaultPage | page => exact absurd hpath (hother _ _ (by decide) (by decide))
  | response => exact absurd hpath (hother _ _ (by decide) (by decide))
  | certificateList | mapping => exact absurd hpath (hother _ _ (by decide) (by decide))
  | values =>
    rw [Section.Acl.filePath, syslogPath, FileName.inConfigDir_inj] at hpath
    have hending := congrArg FileName.ending hpath
    rw [FileName.ending_append (by decide)] at hending
    exact absurd hending (by decide)
  | daemon h ha => exact ⟨_, h, ha⟩

variable (hlines : ∀ e ∈ f.frontends, ∀ m ∈ e.content.mappings,
  ∃ lines, regexLines (f.selectedBy m) = .ok lines)
include hlines

/-- The environment has a file when a header takes its value from it. -/
lemma isCalledFor_envPath_iff : IsCalledFor i f envPath ↔ ∃ b, f.HasBase b ∧
    ∃ name value condition v, (.setHeader name value condition ∈ b.httpRules ∨
      .addHeader name value condition ∈ b.httpRules) ∧ value.content = .variable v := by
  constructor
  · intro h
    rcases (isCalledFor_iff hlines).1 h with ⟨source, hd⟩ | ⟨-, hused⟩
    · exact absurd rfl hd.path_ne_envPath
    · obtain ⟨v, hv⟩ := List.exists_mem_of_ne_nil _ hused
      obtain ⟨b, hb, hv⟩ := mem_usedVariables.1 hv
      obtain ⟨name, value, condition, hrule, hvalue⟩ := Section.Base.mem_environment_iff.1 hv
      exact ⟨b, hb, name, value, condition, v, hrule, hvalue⟩
  · rintro ⟨b, hb, name, value, condition, v, hrule, hvalue⟩
    exact .environment hb
      (Section.Base.mem_environment_iff.2 ⟨name, value, condition, hrule, hvalue⟩)

/-- The log daemon has a file when the process logs to something else than an address. -/
lemma isCalledFor_syslogPath_iff : IsCalledFor i f syslogPath ↔
    ∃ t, i.global.log = some t ∧ Address.isAddress t.address = false := by
  constructor
  · intro h
    rcases (isCalledFor_iff hlines).1 h with ⟨source, hd⟩ | ⟨hpath, -⟩
    · exact hd.exists_log
    · exact absurd hpath (by decide)
  · rintro ⟨t, ht, ha⟩
    exact .daemon ht ha

end SideFile

namespace Pass

variable {store : Store} {cancel : Cancellation} {i : InstanceRecord} {records : Records}
  {set : ArtifactSet}

/-- **A pass that succeeds makes the files that are called for**, and no others. -/
lemma contains_iff_isCalledFor {content : Section.Instance} {fleet : Fleet} {p : Progress}
    {c d : Course} (h : Reading.exec (Reading.tasks store cancel
      (SideFile.tasks (instanceRef i) content fleet)) c = (.ok p, d)) (path : String) :
    p.allFiles.contains path = true ↔ SideFile.IsCalledFor content fleet path := by
  obtain ⟨hresolve, hfiles⟩ := Reading.files_of_tasks h
  have hdeclared : p.files.contains path = true ↔
      ∃ source, SideFile.Declares content fleet ⟨path, source⟩ := by
    rw [KeyMap.contains, hfiles, ← SideFile.declarations]
    constructor
    · intro hsome
      obtain ⟨text, htext⟩ := Option.isSome_iff_exists.1 hsome
      obtain ⟨source, hlast, -⟩ := Option.bind_eq_some_iff.1 htext
      exact ⟨source, SideFile.mem_declarations.1 (mem_of_lastSource hlast)⟩
    · rintro ⟨source, hd⟩
      obtain ⟨last, hlast⟩ := exists_lastSource_of_mem (SideFile.mem_declarations.2 hd)
      obtain ⟨text, htext⟩ := hresolve _ (mem_of_lastSource hlast)
      rw [hlast, Option.bind_some, htext]
      rfl
  have hlines : p.environment.isEmpty = true ↔ SideFile.usedVariables fleet = [] := by
    obtain ⟨lines, hlines, henvironment⟩ := Reading.environment_of_foldlM h
    rw [SideFile.defined_tasks] at hlines
    have hlength : p.environment.length = (SideFile.usedVariables fleet).length := by
      rw [henvironment, List.length_append, List.length_map, ← hlines.length_eq]
      exact Nat.zero_add _
    rw [List.isEmpty_iff_length_eq_zero, hlength, ← List.length_eq_zero_iff]
  rw [SideFile.isCalledFor_iff fun e he m hm => exists_regexLines_of_tasks h he hm,
    Progress.allFiles]
  -- the file of the environment joins the others when there are lines for it
  by_cases hempty : p.environment.isEmpty = true
  · rw [if_pos hempty, hdeclared]
    simp [hlines.1 hempty]
  · rw [if_neg hempty, KeyMap.contains_insert, Bool.or_eq_true, hdeclared, decide_eq_true_eq,
      or_comm]
    simp [mt hlines.2 hempty]

end Pass

end ProxyFleet
