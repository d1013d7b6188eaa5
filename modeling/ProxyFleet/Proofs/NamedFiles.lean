import ProxyFleet.Proofs.CalledFiles

/-!
# Files that statements name

A document leads the proxy to its side files by naming their paths.

**Words.**  A line is a statement taken apart into words that show where they hold the path of a
file.  Every statement that names a file has a line with the same text (`Bind.text_line`,
`ServerParams.text_words`, `Acl.text_line`, `ErrorFile.text_line`, `SwitchingRule.text_line`), and
so has every section of a document (`Fleet.text_lines`).

**Paths.**  Each path in a line is that of a file that is called for, unless the line names an error
page without a source (`Fleet.Accounted`).  The lemmas go from single lines to the sections of a
fleet (`Fleet.accounted_lines`).

Main statement: `Pass.files_are_called_for`.
-/

namespace ProxyFleet

/-! ## Words -/

/-- A word of a statement: a text that may have the path of a file in it. -/
structure Word where
  before : String
  path? : Option String
  after : String

namespace Word

/-- A word as it is written. -/
def text (w : Word) : String := w.before ++ w.path?.getD "" ++ w.after

/-- A word without a path. -/
def plain (s : String) : Word := ⟨s, none, ""⟩

/-- A word that is a path. -/
def file (path : String) : Word := ⟨"", some path, ""⟩

@[simp] lemma text_plain (s : String) : (plain s).text = s := by simp [text, plain]
@[simp] lemma text_file (path : String) : (file path).text = path := by simp [text, file]
@[simp] lemma path?_plain (s : String) : (plain s).path? = none := rfl
@[simp] lemma path?_file (path : String) : (file path).path? = some path := rfl

end Word

/-- A statement as a row of words. -/
abbrev Line := List Word

namespace Line

/-- A statement as it is written. -/
def text (l : Line) : String := Section.statement (l.map Word.text)

/-- The paths in a statement. -/
def paths (l : Line) : List String := l.filterMap (·.path?)

/-- Words without paths. -/
def plain (words : List String) : Line := words.map Word.plain

/-- A keyword and a path, written when there is one. -/
def clause (keyword : String) (path : Option String) : Line :=
  match path with
  | some p => [.plain keyword, .file p]
  | none => []

/-- Statements without paths. -/
def plains (statements : List String) : List Line := statements.map (fun s => plain [s])

@[simp] lemma map_text_plain (words : List String) : (plain words).map Word.text = words := by
  simp [plain, Function.comp_def]

@[simp] lemma map_text_clause (keyword : String) (path : Option String) :
    (clause keyword path).map Word.text = Section.clause keyword path := by
  cases path <;> simp [clause, Section.clause]

@[simp] lemma map_text_plains (statements : List String) :
    (plains statements).map text = statements := by
  simp [plains, text, Section.statement, Function.comp_def]

@[simp] lemma paths_append (l r : Line) : paths (l ++ r) = paths l ++ paths r :=
  List.filterMap_append

@[simp] lemma paths_plain (words : List String) : paths (plain words) = [] := by
  simp [paths, plain, Function.comp_def]

lemma paths_file (path : String) : paths [.file path] = [path] := rfl

@[simp] lemma paths_clause (keyword : String) (path : Option String) :
    paths (clause keyword path) = path.toList := by
  cases path <;> rfl

end Line

namespace Section

/-! ## Statements that name files -/

namespace Bind

/-- The statement of an address with the paths of its certificates and of their list. -/
def line (b : Bind) : Line :=
  Line.plain (["bind", b.endpoint] ++ clause "name" (nonEmpty b.name)) ++
    (b.tls.map (fun tls => Line.clause "crt" (tls.certificate.map Certificate.path) ++
      Line.clause "ca-file" (tls.caCertificate.map Certificate.path) ++
      Line.plain (["ssl"] ++ clause "verify" (tls.verify.map Verify.name)))).getD [] ++
    Line.plain (flag "accept-proxy" b.acceptProxy ++ flag "transparent" b.transparent) ++
    (b.tls.map (fun tls => Line.clause "crt-list" (b.certificateList.map CertificateList.path) ++
      Line.plain (clause "ssl-min-ver" tls.minVersion))).getD []

lemma text_line (b : Bind) : b.line.text = b.statement := by
  rw [Line.text, line, statement]
  cases b.tls <;> simp [tlsWords, lastTlsWords]

lemma mem_paths_line {b : Bind} {path : String} (h : path ∈ b.line.paths) :
    (∃ c ∈ b.certificates, path = c.path) ∨
      ∃ list, b.certificateList = some list ∧ path = list.path := by
  rw [line] at h
  rw [certificates]
  cases htls : b.tls with
  | none => simp [htls] at h
  | some tls =>
    simp only [htls, Option.map_some, Option.getD_some, Line.paths_append, Line.paths_plain,
      Line.paths_clause, List.mem_append, Option.mem_toList, Option.map_eq_some_iff,
      List.not_mem_nil, or_false, false_or] at h ⊢
    rcases h with (⟨c, hc, rfl⟩ | ⟨c, hc, rfl⟩) | ⟨list, hl, rfl⟩
    · exact .inl ⟨c, .inl hc, rfl⟩
    · exact .inl ⟨c, .inr hc, rfl⟩
    · exact .inr ⟨list, hl, rfl⟩

end Bind

namespace ServerParams

/-- The words of the settings of a server with the paths of its certificates. -/
def line (p : ServerParams) (e : Emitted) : Line :=
  Line.plain (flag "check" p.check.isSome) ++
    (p.tls.map (fun tls => Line.plain (["ssl"] ++ clause "alpn" e.alpn) ++
      Line.clause "ca-file" (tls.caCertificate.map Certificate.path))).getD [] ++
    Line.plain (clause "cookie" e.cookie) ++
    Line.clause "crt" ((p.tls.bind (·.certificate)).map Certificate.path) ++
    Line.plain (clause "fall" ((p.check.bind (·.fall)).map digits) ++
      clause "init-addr" p.initAddr ++
      clause "inter" ((p.check.bind (·.interval)).map (fun n => toString n)) ++
      clause "resolvers" p.resolvers ++
      clause "rise" ((p.check.bind (·.rise)).map digits) ++
      (p.proxyProtocol.map ProxyProtocol.words).getD [] ++
      clause "sni" (p.tls.bind (·.sni)) ++
      clause "ssl-min-ver" (p.tls.bind (·.minVersion)) ++
      clause "verify" (e.verify.map Verify.name) ++
      clause "verifyhost" p.verifyHost ++
      clause "weight" (p.weight.map (fun n => toString n)))

lemma text_words (p : ServerParams) (e : Emitted) : (p.line e).map Word.text = p.words e := by
  rw [line, words]
  cases p.tls <;> simp

lemma mem_paths_line {p : ServerParams} {e : Emitted} {path : String}
    (h : path ∈ (p.line e).paths) : ∃ c ∈ p.certificates, path = c.path := by
  rw [line] at h
  rw [certificates]
  cases htls : p.tls with
  | none => simp [htls] at h
  | some tls =>
    simp only [htls, Option.map_some, Option.getD_some, Option.bind_some, Line.paths_append,
      Line.paths_plain, Line.paths_clause, List.mem_append, Option.mem_toList,
      Option.map_eq_some_iff, List.not_mem_nil, or_false, false_or] at h ⊢
    rcases h with ⟨c, hc, rfl⟩ | ⟨c, hc, rfl⟩
    · exact ⟨c, .inr hc, rfl⟩
    · exact ⟨c, .inl hc, rfl⟩

end ServerParams

/-- The statement of a server with the paths of its certificates. -/
def Server.line (s : Server) : Line :=
  Line.plain ["server", s.name, s.endpoint] ++ s.params.line
    ⟨s.params.tls.bind alpn, if s.params.cookie then some (Digest.md5Hex s.endpoint) else none,
      s.params.tls.bind verify⟩

lemma Server.text_line (s : Server) : s.line.text = s.statement := by
  rw [Line.text, line, List.map_append, ServerParams.text_words, Line.map_text_plain, statement]

/-- The statement of a template with the paths of its certificates. -/
def ServerTemplate.line (t : ServerTemplate) : Line :=
  Line.plain ["server-template", t.nameStart, t.range, t.fqdn ++ ":" ++ t.port.text] ++
    t.params.line ⟨none, none, t.params.tls.bind verify⟩

lemma ServerTemplate.text_line (t : ServerTemplate) : t.line.text = t.statement := by
  rw [Line.text, line, List.map_append, ServerParams.text_words, Line.map_text_plain, statement]

/-- The statement of a test with the path of its values, if they stand in a file. -/
def Acl.line (a : Acl) : Line :=
  Line.plain ["acl", a.name, a.criterion] ++
    if a.isExternalized then [.plain "-f", .file a.filePath] else Line.plain a.values

lemma Acl.text_line (a : Acl) : a.line.text = a.statement := by
  rw [Line.text, line, statement]
  cases a.isExternalized <;> simp

/-- The statement of an error page with its path. -/
def ErrorFile.line (e : ErrorFile) : Line :=
  Line.plain ["errorfile", toString e.code] ++ [.file e.path]

lemma ErrorFile.text_line (e : ErrorFile) : e.line.text = e.statement := by
  rw [Line.text, line, statement]
  simp

/-- The statement of a rule with the path of the patterns that it looks up. -/
def SwitchingRule.line (r : SwitchingRule) : Line :=
  match r.target, r.condition with
  | .name name, condition => Line.plain (["use_backend", name] ++ Condition.optionalWords condition)
  | .mapping m, some condition =>
    Line.plain ["use_backend"] ++ [⟨"%[" ++ m.parameter ++ ",map_reg(", some m.path, ")]"⟩] ++
      Line.plain condition.words
  | .mapping m, none =>
    Line.plain ["use_backend"] ++ [⟨"%[" ++ m.parameter ++ ",map_reg(", some m.path, ")]"⟩] ++
      Line.plain ["if", "\x7b"] ++ [⟨m.parameter ++ ",map_reg(", some m.path, ")"⟩] ++
      Line.plain ["-m", "found", "\x7d"]

lemma SwitchingRule.text_line (r : SwitchingRule) : r.line.text = r.statement := by
  rw [Line.text, line, statement]
  cases r.target with
  | name name => simp
  | mapping m => cases r.condition <;> simp [Word.text, RegexMapping.lookup, String.append_assoc]

/-! ## Sections that name files -/

def Base.ruleLines (b : Base) : List Line :=
  b.acls.map Acl.line ++
    Line.plains (b.tcpRules.map TcpRule.statement ++ b.httpRules.map HttpRule.statement) ++
    b.errorFiles.map ErrorFile.line

lemma Base.text_ruleLines (b : Base) : b.ruleLines.map Line.text = b.ruleStatements := by
  simp [ruleLines, ruleStatements, Function.comp_def, Acl.text_line, ErrorFile.text_line]

def Defaults.lines (d : Defaults) : List Line :=
  Line.plains ((d.mode.map (fun m => statement ["mode", m.name])).toList ++
    flag "log global" d.logGlobal ++ flag "option httplog" d.httpLog ++
    flag "option tcplog" d.tcpLog ++ d.timeouts.statements) ++
    d.errorFiles.map ErrorFile.line ++ Line.plains d.additionalParameters

lemma Defaults.text_lines (d : Defaults) : d.lines.map Line.text = d.fragment.statements := by
  simp [lines, fragment, Function.comp_def, ErrorFile.text_line]

def Frontend.lines (f : Frontend) : List Line :=
  Line.plains (f.base.modeStatements ++ f.base.forwardForStatements ++
    f.base.timeouts.statements) ++ f.base.ruleLines ++ f.binds.map Bind.line ++
    f.switching.map SwitchingRule.line ++
    Line.plains (f.defaultBackend.map (fun name => statement ["default_backend", name])).toList

lemma Frontend.text_lines (f : Frontend) : f.lines.map Line.text = f.fragment.statements := by
  simp [lines, fragment, Function.comp_def, Base.text_ruleLines, Bind.text_line,
    SwitchingRule.text_line]

def Backend.lines (b : Backend) : List Line :=
  Line.plains (b.base.modeStatements ++
    (b.pool.balance.map (fun name => statement ["balance", name])).toList ++
    (b.pool.hashType.map HashType.statement).toList ++ b.base.forwardForStatements ++
    flag "option http-pretend-keepalive" b.base.pretendKeepalive ++
    flag "option redispatch" b.pool.redispatch ++
    (b.pool.healthCheck.map HealthCheck.statement).toList ++
    (b.pool.cookie.map Cookie.statements).getD [] ++ b.base.timeouts.statements) ++
    b.base.ruleLines ++ b.pool.servers.map Server.line ++ b.pool.templates.map ServerTemplate.line

lemma Backend.text_lines (b : Backend) : b.lines.map Line.text = b.fragment.statements := by
  simp [lines, fragment, Function.comp_def, Base.text_ruleLines, Server.text_line,
    ServerTemplate.text_line]

end Section

namespace Fleet

open Section (ErrorFile)

/-- The statements of the sections of a document, section by section. -/
def lines (i : Section.Instance) (f : Fleet) : List (List Line) :=
  [Line.plains i.global.fragment.statements, i.defaults.lines] ++
    f.resolvers.map (fun e => Line.plains e.content.fragment.statements) ++
    f.listens.map (·.content.frontend.lines) ++
    f.frontends.map (·.content.lines) ++
    f.listens.map (·.content.backend.lines) ++
    f.backends.map (·.content.lines) ++
    (i.metrics.map (fun m => Line.plains m.fragment.statements)).toList

/-- **The lines of a fleet are the statements of its sections.** -/
lemma text_lines (i : Section.Instance) (f : Fleet) :
    (f.lines i).map (·.map Line.text) = (f.fragments i).map (·.statements) := by
  cases hm : i.metrics <;>
    simp [lines, fragments, Function.comp_def, Section.Defaults.text_lines,
      Section.Frontend.text_lines, Section.Backend.text_lines, hm]

/-! ## Paths in lines -/

/-- Whether the defaults or some settings of the fleet declare an error page. -/
def HasPage (i : Section.Instance) (f : Fleet) (e : ErrorFile) : Prop :=
  e ∈ i.defaults.errorFiles ∨ ∃ b, f.HasBase b ∧ e ∈ b.errorFiles

/-- Whether every path in a statement is that of a file that is called for, or the statement is
that of an error page without a source. -/
def Accounted (i : Section.Instance) (f : Fleet) (l : Line) : Prop :=
  ∀ path ∈ l.paths, SideFile.IsCalledFor i f path ∨
    ∃ e, f.HasPage i e ∧ e.source = none ∧ l = e.line

variable {i : Section.Instance} {f : Fleet}

lemma accounted_plain (words : List String) : f.Accounted i (Line.plain words) := by
  intro path hpath
  rw [Line.paths_plain] at hpath
  cases hpath

lemma accounted_plains {statements : List String} {l : Line} (hl : l ∈ Line.plains statements) :
    f.Accounted i l := by
  obtain ⟨s, -, rfl⟩ := List.mem_map.1 hl
  exact accounted_plain _

lemma accounted_acl {b : Section.Base} (h : f.HasBase b) {a : Section.Acl} (ha : a ∈ b.acls) :
    f.Accounted i a.line := by
  intro path hpath
  rw [Section.Acl.line, Line.paths_append, Line.paths_plain, List.nil_append] at hpath
  split at hpath
  · rename_i hx
    obtain rfl : a.filePath = path := by simpa [Line.paths] using hpath
    exact .inl (.values h ha hx)
  · rw [Line.paths_plain] at hpath
    cases hpath

lemma accounted_page {e : ErrorFile} (h : f.HasPage i e) : f.Accounted i e.line := by
  intro path hpath
  rw [ErrorFile.line, Line.paths_append, Line.paths_plain, List.nil_append, Line.paths_file,
    List.mem_singleton] at hpath
  subst hpath
  cases hs : e.source with
  | none => exact .inr ⟨e, h, hs, rfl⟩
  | some source =>
    rcases h with he | ⟨b, hb, he⟩
    · exact .inl (.defaultPage he hs)
    · exact .inl (.page hb he hs)

/-- Settings with the tests and pages of some settings of the fleet are accounted for. -/
lemma accounted_ruleLines {b s : Section.Base} (h : f.HasBase b) (hacls : s.acls = b.acls)
    (hpages : s.errorFiles = b.errorFiles) {l : Line} (hl : l ∈ s.ruleLines) :
    f.Accounted i l := by
  rw [Section.Base.ruleLines, List.mem_append, List.mem_append] at hl
  rcases hl with (hl | hl) | hl
  · obtain ⟨a, ha, rfl⟩ := List.mem_map.1 hl
    exact accounted_acl h (hacls ▸ ha)
  · exact accounted_plains hl
  · obtain ⟨e, he, rfl⟩ := List.mem_map.1 hl
    exact accounted_page (.inr ⟨b, h, hpages ▸ he⟩)

lemma accounted_bind {b : Section.Bind} {extra : List Section.CertificateElement}
    (h : f.HasBind b extra) : f.Accounted i b.line := by
  intro path hpath
  rcases Section.Bind.mem_paths_line hpath with ⟨c, hc, rfl⟩ | ⟨list, hl, rfl⟩
  · exact .inl (.bindCertificate h hc)
  · exact .inl (.certificateList h hl)

lemma accounted_params {p : Section.ServerParams} (h : f.HasParams p) (words : List String)
    (e : Section.ServerParams.Emitted) : f.Accounted i (Line.plain words ++ p.line e) := by
  intro path hpath
  rw [Line.paths_append, Line.paths_plain, List.nil_append] at hpath
  obtain ⟨c, hc, rfl⟩ := Section.ServerParams.mem_paths_line hpath
  exact .inl (.serverCertificate h hc)

lemma accounted_switching {e : Entry Section.Frontend} (he : e ∈ f.frontends)
    {r : Section.SwitchingRule} (hr : r ∈ e.content.switching) : f.Accounted i r.line := by
  intro path hpath
  rw [Section.SwitchingRule.line] at hpath
  cases htarget : r.target with
  | name name =>
    simp only [htarget, Line.paths_plain] at hpath
    cases hpath
  | mapping m =>
    have hm : m ∈ e.content.mappings :=
      List.mem_filterMap.2 ⟨r, hr, by rw [htarget, Section.BackendTarget.mapping?]⟩
    obtain rfl : m.path = path := by
      cases hcondition : r.condition <;>
        simpa [htarget, hcondition, Line.paths, Line.plain] using hpath
    exact .inl (.mapping he hm)

lemma accounted_frontend {b : Section.Base} {s : Section.Frontend} (h : f.HasBase b)
    (hacls : s.base.acls = b.acls) (hpages : s.base.errorFiles = b.errorFiles)
    (hbinds : ∀ x ∈ s.binds, ∃ extra, f.HasBind x extra)
    (hrules : ∀ r ∈ s.switching, f.Accounted i r.line) {l : Line} (hl : l ∈ s.lines) :
    f.Accounted i l := by
  simp only [Section.Frontend.lines, List.mem_append] at hl
  rcases hl with (((hl | hl) | hl) | hl) | hl
  · exact accounted_plains hl
  · exact accounted_ruleLines h hacls hpages hl
  · obtain ⟨x, hx, rfl⟩ := List.mem_map.1 hl
    obtain ⟨extra, hbind⟩ := hbinds x hx
    exact accounted_bind hbind
  · obtain ⟨r, hr, rfl⟩ := List.mem_map.1 hl
    exact hrules r hr
  · exact accounted_plains hl

lemma accounted_backend {b : Section.Base} {s : Section.Backend} (h : f.HasBase b)
    (hacls : s.base.acls = b.acls) (hpages : s.base.errorFiles = b.errorFiles)
    (hparams : ∀ p ∈ s.pool.params, f.HasParams p) {l : Line} (hl : l ∈ s.lines) :
    f.Accounted i l := by
  simp only [Section.Backend.lines, List.mem_append] at hl
  simp only [Section.Pool.params, List.mem_append] at hparams
  rcases hl with ((hl | hl) | hl) | hl
  · exact accounted_plains hl
  · exact accounted_ruleLines h hacls hpages hl
  · obtain ⟨x, hx, rfl⟩ := List.mem_map.1 hl
    exact accounted_params (hparams _ (.inl (List.mem_map_of_mem hx))) _ _
  · obtain ⟨x, hx, rfl⟩ := List.mem_map.1 hl
    exact accounted_params (hparams _ (.inr (List.mem_map_of_mem hx))) _ _

lemma accounted_defaults {l : Line} (hl : l ∈ i.defaults.lines) : f.Accounted i l := by
  simp only [Section.Defaults.lines, List.mem_append] at hl
  rcases hl with (hl | hl) | hl
  · exact accounted_plains hl
  · obtain ⟨e, he, rfl⟩ := List.mem_map.1 hl
    exact accounted_page (.inl he)
  · exact accounted_plains hl

/-- **Every path that a fleet puts into a statement is accounted for.** -/
lemma accounted_lines {part : List Line} (hpart : part ∈ f.lines i) {l : Line} (hl : l ∈ part) :
    f.Accounted i l := by
  simp only [lines, List.mem_append, List.mem_cons, List.not_mem_nil, or_false, List.mem_map,
    Option.mem_toList, Option.map_eq_some_iff] at hpart
  -- both halves of a listen have its tests and pages, one has its addresses, the other its servers
  rcases hpart with ((((((rfl | rfl) | ⟨e, he, rfl⟩) | ⟨e, he, rfl⟩) | ⟨e, he, rfl⟩) |
    ⟨e, he, rfl⟩) | ⟨e, he, rfl⟩) | ⟨m, -, rfl⟩
  · exact accounted_plains hl
  · exact accounted_defaults hl
  · exact accounted_plains hl
  · exact accounted_frontend (.listen he) rfl rfl (fun x hx => ⟨_, .listen he hx⟩)
      (fun r hr => absurd hr List.not_mem_nil) hl
  · exact accounted_frontend (.frontend he) rfl rfl (fun x hx => ⟨_, .frontend he hx⟩)
      (fun r hr => accounted_switching he hr) hl
  · exact accounted_backend (.listen he) rfl rfl (fun p hp => .listen he hp) hl
  · exact accounted_backend (.backend he) rfl rfl (fun p hp => .backend he hp) hl
  · exact accounted_plains hl

end Fleet

namespace Pass

variable {store : Store} {cancel : Cancellation} {i : InstanceRecord} {records : Records}
  {set : ArtifactSet}

/-- **A pass makes exactly the files that are called for.**  If it succeeds, a path is that of a
side file when the checked instance or the checked records call for a file there: the environment
when a header takes its value from it, the log daemon when the process logs to something else than
an address.  Hence every path in a statement of the document is that of a side file, unless the
statement is that of an error page without a source. -/
theorem files_are_called_for (h : (run store cancel i records).result = .ok set) :
    ∃ content fleet, prepare cancel i records = .ok (content, fleet) ∧
      set.document = Fragment.render (fleet.fragments content) ∧
      (∀ path, set.files.contains path = true ↔ SideFile.IsCalledFor content fleet path) ∧
      (set.files.contains SideFile.envPath = true ↔ ∃ b, fleet.HasBase b ∧
        ∃ name value condition v, (.setHeader name value condition ∈ b.httpRules ∨
          .addHeader name value condition ∈ b.httpRules) ∧ value.content = .variable v) ∧
      (set.files.contains SideFile.syslogPath = true ↔
        ∃ t, content.global.log = some t ∧ Address.isAddress t.address = false) ∧
      (fleet.lines content).map (·.map Line.text) = (fleet.fragments content).map (·.statements) ∧
      ∀ part ∈ fleet.lines content, ∀ l ∈ part, ∀ path ∈ l.paths,
        set.files.contains path = true ∨
          ∃ e, fleet.HasPage content e ∧ e.source = none ∧ l = e.line := by
  obtain ⟨content, fleet, p, course, hprepare, hwork, rfl⟩ := run_eq_ok h
  have hcalled := contains_iff_isCalledFor hwork
  have hlines : ∀ e ∈ fleet.frontends, ∀ m ∈ e.content.mappings,
      ∃ lines, SideFile.regexLines (fleet.selectedBy m) = .ok lines :=
    fun e he m hm => exists_regexLines_of_tasks hwork he hm
  refine ⟨content, fleet, hprepare, by simp only, hcalled, ?_, ?_, fleet.text_lines content, ?_⟩
  · rw [← SideFile.isCalledFor_envPath_iff hlines]
    exact hcalled SideFile.envPath
  · rw [← SideFile.isCalledFor_syslogPath_iff hlines]
    exact hcalled SideFile.syslogPath
  · intro part hpart l hl path hpath
    rcases Fleet.accounted_lines hpart hl path hpath with hcall | hpage
    · exact .inl ((hcalled path).2 hcall)
    · exact .inr hpage

/-- A frontend with a certificate, a header from the environment, and an error page without a
source. -/
def pagedFrontend : FrontendRecord :=
  .plain (some "edge") "web"
    { Spec.Frontend.none with
      base :=
        { Spec.Base.none with
          httpRequest := some ⟨[⟨⟨none, none⟩, "X-Token", ⟨some ⟨"TOKEN", some "t", none⟩, none,
            none⟩⟩], [], [], [], [], none, none, none⟩
          errorFiles := [⟨503, "down", none, none⟩] }
      binds := [.encrypted (.withCertificate ⟨"web", some "one", []⟩) none] }

/-- Its certificate and the environment have files, its error page has none. -/
theorem files_are_called_for_certificate_and_header :
    let store : Store := fun _ => .ok none
    let i : InstanceRecord := .plain (some "edge") "fleet" .none
    let records : Records := ⟨[], [pagedFrontend], [], []⟩
    ∃ set content fleet, (run store .never i records).result = .ok set ∧
      prepare .never i records = .ok (content, fleet) ∧
      SideFile.IsCalledFor content fleet (inConfigDir "web.crt") ∧
      SideFile.IsCalledFor content fleet SideFile.envPath ∧
      ¬SideFile.IsCalledFor content fleet (inConfigDir "down.http") := by
  intro store i records
  have hfiles : (run store .never i records).result.map (fun set =>
      [inConfigDir "web.crt", SideFile.envPath, inConfigDir "down.http"].map set.files.contains) =
      .ok [true, true, false] := by cbv
  obtain ⟨set, hset, hcontains⟩ := Check.map_eq_ok_iff.1 hfiles
  obtain ⟨content, fleet, hprepare, -, hcalled, -⟩ := files_are_called_for hset
  simp only [List.map_cons, List.map_nil, List.cons.injEq, and_true] at hcontains
  obtain ⟨hcertificate, henv, hpage⟩ := hcontains
  refine ⟨set, content, fleet, hset, hprepare, (hcalled _).1 hcertificate, (hcalled _).1 henv, ?_⟩
  rw [← hcalled, hpage]
  exact Bool.false_ne_true

end Pass

end ProxyFleet
