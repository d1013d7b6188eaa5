import ProxyFleet.Proofs.FileNames
import ProxyFleet.Proofs.Plain
import ProxyFleet.Proofs.RequestRules
import ProxyFleet.Proofs.TimeoutStatements

/-!
# Groups of statements

How the statements of a section follow from its declaration.  They stand in groups, one for each kind
of setting and in an order of their own, and in each group as they were declared.

**Groups.**  `Grouped` cuts the lines of a section into groups, each of which has a property of its
own.

**Single settings.**  What stands for a setting that is there once at most is said by its lines
(`modeLine`, `forwardForLine` and so on), and what stands for the timeouts by their map
(`Timeouts.statements_eq_timeoutLines`).

**Lists.**  Each item of a list gives one statement (`EachGives`), which begins with words of that
item: one lemma for each kind of item.

Main statement: `statements_grouped`.
-/

namespace ProxyFleet.Section

/-! ## Groups -/

/-- **Lines in groups**, one after another, each of which has the property in its place. -/
inductive Grouped : List (List String → Prop) → List String → Prop
  | nil : Grouped [] []
  | cons {property : List String → Prop} {properties : List (List String → Prop)}
      {group lines : List String} (h : property group) (hrest : Grouped properties lines) :
      Grouped (property :: properties) (group ++ lines)

namespace Grouped

variable {properties properties' : List (List String → Prop)} {lines lines' : List String}

lemma single {property : List String → Prop} (h : property lines) : Grouped [property] lines := by
  have hone := Grouped.cons h .nil
  rwa [List.append_nil] at hone

/-- A group that is given line by line. -/
lemma given {group : List String} (h : lines = group) : Grouped [(· = group)] lines := by
  rw [h]
  exact single rfl

lemma append (h : Grouped properties lines) (h' : Grouped properties' lines') :
    Grouped (properties ++ properties') (lines ++ lines') := by
  induction h with
  | nil => exact h'
  | cons hgroup _ ih =>
    rw [List.append_assoc]
    exact .cons hgroup ih

end Grouped

/-! ## Single settings -/

/-- The line of a declared mode. -/
def modeLine (b : Spec.Base) : List String :=
  ((nonEmpty (b.mode.getD "")).map (fun m => statement ["mode", m])).toList

/-- The line that passes the sender's address on, if that is enabled. -/
def forwardForLine (b : Spec.Base) : List String :=
  ((b.forwardFor.filter (·.enabled)).map (fun f => statement (["option", "forwardfor"] ++
    clause "except" f.except ++ clause "header" f.header ++ flag "if-none" f.ifNone))).toList

/-- The lines of declared timeouts in the order of their names, where the timeout of checks takes the
place of one that is declared under its name. -/
def timeoutLines (declared : KeyMap Duration) (check : Option Duration) : List String :=
  (check.elim declared (declared.insert "check")).entries.map
    (fun e => statement ["timeout", e.1, toString e.2.millis])

variable {space name : String}

lemma Mode.name_of_ofName {declared : String} {mode : Option Mode}
    (h : Mode.ofName declared = .ok mode) : mode.map Mode.name = nonEmpty declared := by
  rw [ofName] at h
  rw [nonEmpty]
  split_ifs at h with hempty hhttp htcp
  · cases h
    rw [if_pos hempty]
    rfl
  · cases h
    rw [if_neg hempty, hhttp]
    rfl
  · cases h
    rw [if_neg hempty, htcp]
    rfl

lemma Base.modeStatements_eq {b : Spec.Base} {s : Base} (h : Base.Agrees space b s) :
    s.modeStatements = modeLine b := by
  rw [modeLine, ← Mode.name_of_ofName h.mode, Option.map_map]
  rfl

lemma Base.forwardForStatements_eq {b : Spec.Base} {s : Base} (h : Base.Agrees space b s) :
    s.forwardForStatements = forwardForLine b := by
  rw [forwardForStatements, ← h.forwardFor, forwardForLine]
  cases b.forwardFor with
  | none => rfl
  | some f =>
    cases henabled : f.enabled with
    | false =>
      rw [Option.bind_some, ForwardFor.ofSpec, Option.filter_some_neg (by simp [henabled])]
      simp [henabled]
    | true =>
      rw [Option.bind_some, ForwardFor.ofSpec, if_pos henabled, Option.filter_some_pos henabled]
      rfl

/-! ### Timeouts -/

lemma TimeoutScope.pairwise_keys (scope : TimeoutScope) : scope.keys.Pairwise (· < ·) := by
  cases scope <;> decide

/-- Timeouts under names of their scope are written as they stand in their map. -/
lemma Timeouts.toList_eq_entries {t : Timeouts} (h : ∀ e ∈ t.values.entries, e.1 ∈ t.scope.keys) :
    t.toList = t.values.entries := by
  have hascending : t.toList.Pairwise (fun a b => a.1 < b.1) := by
    refine t.scope.pairwise_keys.filterMap _ fun k k' hlt e he e' he' => ?_
    obtain ⟨n, -, rfl⟩ := Option.map_eq_some_iff.1 he
    obtain ⟨n', -, rfl⟩ := Option.map_eq_some_iff.1 he'
    exact hlt
  have hmap : (⟨t.toList, hascending⟩ : KeyMap Nat) = t.values := by
    refine KeyMap.ext_get? fun k => Option.ext fun n => ?_
    rw [KeyMap.get?_eq_some_iff, KeyMap.get?_eq_some_iff]
    constructor
    · intro hmem
      obtain ⟨key, -, hvalue⟩ := List.mem_filterMap.1 hmem
      obtain ⟨m, hm, heq⟩ := Option.map_eq_some_iff.1 hvalue
      cases heq
      exact KeyMap.get?_eq_some_iff.1 hm
    · intro hmem
      refine List.mem_filterMap.2 ⟨k, h _ hmem, ?_⟩
      rw [get?, KeyMap.get?_eq_some_iff.2 hmem, Option.map_some]
  exact congrArg KeyMap.entries hmap

/-- **Timeouts are written in the order of their names**, one line for each. -/
lemma Timeouts.statements_eq_timeoutLines {scope : TimeoutScope} {declared : KeyMap Duration}
    {check : Option Duration} {t : Timeouts} (h : ofDeclared scope declared check = .ok t) :
    t.statements = timeoutLines declared check := by
  obtain ⟨hkeys, hcheck, rfl⟩ := ofDeclared_eq_ok_iff.1 h
  have hvalues : check.elim (declared.mapValues Duration.millis)
      (fun d => (declared.mapValues Duration.millis).insert "check" d.millis) =
      (check.elim declared (declared.insert "check")).mapValues Duration.millis := by
    cases check with
    | none => rfl
    | some d => exact (KeyMap.mapValues_insert _ _ _ _).symm
  rw [statements, toList_eq_entries, hvalues, timeoutLines, KeyMap.mapValues, List.map_map]
  · rfl
  · intro e he
    rw [hvalues] at he
    obtain ⟨d, hd, rfl⟩ := List.mem_map.1 he
    cases check with
    | none => exact (hkeys d hd).1
    | some c =>
      rcases KeyMap.mem_insertEntry hd with rfl | hd
      · exact (hcheck c rfl).1
      · exact (hkeys d hd).1

/-! ## Lists -/

/-- Words of a declared test. -/
def aclWords (a : Spec.Acl) : List String := ["acl", a.name, a.criterion]

lemma Acl.begins {a : Spec.Acl} {b : Acl} (h : ofSpec a = .ok b) :
    Begins (aclWords a) b.statement := by
  simp only [ofSpec, Check.bind_eq_ok_iff, Check.pure_eq_ok_iff] at h
  obtain ⟨given, hname, rfl⟩ := h
  refine ⟨_, rfl, ?_⟩
  rw [FileName.eq_of_fileName hname]
  exact List.prefix_append _ _

/-- Words of a declared rule on connections. -/
def tcpWords (r : Spec.TcpRule) : List String := ["tcp-request", r.kind]

lemma TcpRuleKind.name_of_ofName {declared : String} {kind : TcpRuleKind}
    (h : ofName declared = .ok kind) : kind.name = declared := by
  rw [ofName] at h
  split_ifs at h with hname hname hname hname <;> cases h <;> exact hname.symm

lemma TcpRule.begins {r : Spec.TcpRule} {rule : TcpRule} (h : ofSpec r = .ok rule) :
    Begins (tcpWords r) rule.statement := by
  simp only [ofSpec, Check.bind_eq_ok_iff, Check.pure_eq_ok_iff] at h
  obtain ⟨kind, hkind, timeout, -, condition, -, rfl⟩ := h
  refine ⟨_, rfl, ?_⟩
  rw [TcpRuleKind.name_of_ofName hkind, List.append_assoc, List.append_assoc]
  exact List.prefix_append _ _

/-- The digits of a number that is not negative. -/
lemma toString_toNat {n : Int} (h : 0 ≤ n) : toString n.toNat = toString n := by
  conv_rhs => rw [← Int.toNat_of_nonneg h]
  rfl

/-- Words of a declared error page. -/
def errorWords (e : Spec.ErrorFile) : List String := ["errorfile", digits e.code]

lemma ErrorFile.begins {e : Spec.ErrorFile} {file : ErrorFile} (h : ofSpec space e = .ok file) :
    Begins (errorWords e) file.statement := by
  simp only [ofSpec] at h
  split at h
  · cases h
  · rename_i hcode
    split at h
    · cases h
    · obtain ⟨given, -, h⟩ := Check.bind_eq_ok_iff.1 h
      cases h
      have hnonneg : 0 ≤ e.code.toInt := by
        simp only [Bool.not_eq_true', Bool.not_eq_false, Bool.and_eq_true, decide_eq_true_eq] at hcode
        exact hcode.1
      refine ⟨_, rfl, ?_⟩
      rw [errorWords, digits, ← toString_toNat hnonneg]
      exact List.prefix_append _ [_]

lemma Port.text_of_ofInt? {n : Int} {p : Port} (h : Port.ofInt? n = some p) :
    p.text = toString n := by
  rw [ofInt?] at h
  split at h
  · rename_i hbounds
    cases h
    exact toString_toNat (by omega)
  · cases h

lemma port_text {n : Int64} {p : Port} (h : port n = .ok p) : p.text = digits n := by
  rw [port] at h
  split at h
  · rename_i q hq
    cases h
    exact Port.text_of_ofInt? hq
  · cases h

/-- A declared address with its port or its range of ports. -/
def endpointOf (b : Spec.Bind) : String :=
  b.address.getD "" ++ ":" ++ digits b.port ++
    (b.portRangeEnd.map (fun n => "-" ++ digits n)).getD ""

/-- Words of a declared address. -/
def bindWords (b : Spec.Bind) : List String := ["bind", endpointOf b]

lemma Bind.endpoint_of_ofSpec {b : Spec.Bind} {bind : Bind} (h : ofSpec space b = .ok bind) :
    bind.endpoint = endpointOf b := by
  obtain ⟨first, hfirst, h⟩ := Check.bind_eq_ok_iff.1 h
  obtain ⟨last, hlast, h⟩ := Check.bind_eq_ok_iff.1 h
  obtain ⟨tls, -, h⟩ := Check.bind_eq_ok_iff.1 h
  have hrange : last.map (fun p => "-" ++ p.text) =
      b.portRangeEnd.map (fun n => "-" ++ digits n) := by
    cases hdeclared : b.portRangeEnd with
    | none =>
      rw [hdeclared] at hlast
      cases hlast
      rfl
    | some n =>
      rw [hdeclared] at hlast
      obtain ⟨p, hp, hlast⟩ := Check.bind_eq_ok_iff.1 hlast
      cases hlast
      rw [lastPortOfSpec] at hp
      split at hp
      · rename_i q hq
        cases hp
        rw [Option.map_some, Option.map_some, Port.text_of_ofInt? (Option.filter_eq_some_iff.1 hq).1]
        rfl
      · cases hp
  have hfields : bind.address = b.address.getD "" ∧ bind.port = first ∧ bind.lastPort = last := by
    split at h
    · obtain ⟨list, -, h⟩ := Check.bind_eq_ok_iff.1 h
      cases h
      exact ⟨rfl, rfl, rfl⟩
    · cases h
      exact ⟨rfl, rfl, rfl⟩
  obtain ⟨haddress, hport, hlastPort⟩ := hfields
  rw [endpoint, endpointOf, haddress, hport, hlastPort, port_text hfirst, hrange]

lemma Bind.begins {b : Spec.Bind} {bind : Bind} (h : ofSpec space b = .ok bind) :
    Begins (bindWords b) bind.statement := by
  refine ⟨_, rfl, ?_⟩
  rw [bindWords, endpoint_of_ofSpec h]
  simp

/-- Words of a declared rule that chooses a backend. -/
def switchingWords (r : Spec.SwitchingRule) : List String :=
  "use_backend" :: (r.backend.name.bind nonEmpty).toList

lemma SwitchingRule.begins {r : Spec.SwitchingRule} {rule : SwitchingRule}
    (h : ofSpec r = .ok rule) : Begins (switchingWords r) rule.statement := by
  simp only [ofSpec, Check.bind_eq_ok_iff, Check.pure_eq_ok_iff] at h
  obtain ⟨target, htarget, condition, -, rfl⟩ := h
  rw [BackendTarget.ofSpec] at htarget
  rw [switchingWords]
  split at htarget
  · rename_i given hname hmapping
    cases htarget
    rw [hname]
    exact ⟨_, rfl, List.prefix_append _ _⟩
  · rename_i m hname hmapping
    obtain ⟨file, -, htarget⟩ := Check.bind_eq_ok_iff.1 htarget
    cases htarget
    rw [hname]
    cases condition with
    | none => exact ⟨_, rfl, by simp⟩
    | some c => exact ⟨_, rfl, by simp⟩
  · cases htarget

/-- Words of a declared server. -/
def serverWords (s : Spec.Server) : List String :=
  ["server", s.name, s.address ++ ":" ++ digits s.port]

lemma Server.begins {s : Spec.Server} {server : Server} (h : ofSpec space s = .ok server) :
    Begins (serverWords s) server.statement := by
  simp only [ofSpec, Check.bind_eq_ok_iff, Check.pure_eq_ok_iff] at h
  obtain ⟨given, hport, params, -, rfl⟩ := h
  refine ⟨_, rfl, ?_⟩
  rw [endpoint, port_text hport]
  exact List.prefix_append _ _

/-- Words of a declared template. -/
def templateWords (t : Spec.ServerTemplate) : List String := ["server-template", t.nameStart]

lemma ServerTemplate.begins {t : Spec.ServerTemplate} {template : ServerTemplate}
    (h : ofSpec space t = .ok template) : Begins (templateWords t) template.statement := by
  simp only [ofSpec, Check.bind_eq_ok_iff, Check.pure_eq_ok_iff] at h
  obtain ⟨given, hport, params, -, rfl⟩ := h
  refine ⟨_, rfl, ?_⟩
  simp [templateWords]

/-! ## Sections -/

/-- The groups of tests, of rules on connections and on requests, and of error pages. -/
def ruleGroups (space : String) (b : Spec.Base) : List (List String → Prop) :=
  [EachGives (written Acl.ofSpec Acl.statement) aclWords b.acls,
    EachGives (written TcpRule.ofSpec TcpRule.statement) tcpWords b.tcpRequest,
    EachGives (HttpRule.linesOf space) Spec.RequestRule.words
      ((b.httpRequest.getD .none).inOrder.filter (·.hasEffect)),
    EachGives (written (ErrorFile.ofSpec space) ErrorFile.statement) errorWords b.errorFiles]

lemma Base.grouped_rules {b : Spec.Base} {s : Base} (h : Base.Agrees space b s) :
    Grouped (ruleGroups space b) s.ruleStatements := by
  have hrules : HttpRule.ofSpec space (b.httpRequest.getD .none) = .ok s.httpRules := by
    have hdeclared := h.httpRules
    rw [HttpRule.ofOptional] at hdeclared
    cases hrequest : b.httpRequest with
    | none =>
      rw [hrequest] at hdeclared
      exact hdeclared
    | some rules =>
      rw [hrequest] at hdeclared
      exact hdeclared
  exact (((Grouped.single (eachGives_of_mapM h.acls Acl.begins)).append
    (.single (eachGives_of_mapM h.tcpRules TcpRule.begins))).append
    (.single (HttpRule.eachGives_of_ofSpec hrules))).append
    (.single (eachGives_of_mapM h.errorFiles ErrorFile.begins))

/-- **The groups of a frontend**: its mode, the passing on of addresses, its timeouts, its tests and
rules, the addresses that it listens on, the rules that choose a backend, and the backend of all other
requests. -/
def Frontend.groups (space : String) (f : Spec.Frontend) : List (List String → Prop) :=
  [(· = modeLine f.base), (· = forwardForLine f.base), (· = timeoutLines f.base.timeouts none)] ++
    ruleGroups space f.base ++
    [EachGives (written (Bind.ofSpec space) Bind.statement) bindWords f.binds,
      EachGives (written SwitchingRule.ofSpec SwitchingRule.statement) switchingWords f.switching,
      (· = ((nonEmpty f.defaultBackend.name).map
        (fun name => statement ["default_backend", name])).toList)]

lemma Frontend.grouped {f : Spec.Frontend} {s : Frontend} (h : ofSpec space name f = .ok s) :
    Grouped (groups space f) s.fragment.statements := by
  obtain ⟨hbase, hbinds, hswitching, -, hdefault⟩ := ofSpec_eq_ok_iff.1 h
  obtain ⟨htimeouts, hagrees⟩ := Base.ofSpec_eq_ok_iff.1 hbase
  rw [← Timeouts.ofDeclared_none] at htimeouts
  have hlast : (s.defaultBackend.map (fun name => statement ["default_backend", name])).toList =
      ((nonEmpty f.defaultBackend.name).map
        (fun name => statement ["default_backend", name])).toList := by rw [hdefault]
  exact ((((((Grouped.given (Base.modeStatements_eq hagrees)).append
    (.given (Base.forwardForStatements_eq hagrees))).append
    (.given (Timeouts.statements_eq_timeoutLines htimeouts))).append
    (Base.grouped_rules hagrees)).append
    (.single (eachGives_of_mapM hbinds Bind.begins))).append
    (.single (eachGives_of_mapM hswitching SwitchingRule.begins))).append
    (.given hlast)

/-- The line of a declared algorithm, which is written in lower case. -/
def balanceLine (b : Spec.Backend) : List String :=
  ((b.balance.bind (fun a => nonEmpty (Text.lower a.algorithm))).map
    (fun name => statement ["balance", name])).toList

/-- The line of a declared way to hash. -/
def hashLine (b : Spec.Backend) : List String :=
  (b.hashType.map (fun h => statement (["hash-type"] ++ (h.method.bind nonEmpty).toList ++
    (h.function.bind nonEmpty).toList ++ (h.modifier.bind nonEmpty).toList))).toList

/-- The line of how servers are checked: by requests if that is declared, and else by connections if
these are. -/
def checkLine (b : Spec.Backend) : List String :=
  match b.httpCheck with
  | some check => [statement ["option", "httpchk", check.method, check.uri]]
  | none => flag "option tcp-check" (b.tcpCheck.getD false)

lemma HealthCheck.statement_eq (b : Spec.Backend) :
    ((ofSpec b.httpCheck b.tcpCheck).map statement).toList = checkLine b := by
  rw [checkLine]
  cases b.httpCheck with
  | some check => rfl
  | none =>
    simp only [ofSpec]
    cases b.tcpCheck.getD false <;> rfl

/-- The lines of options: the passing on of addresses, two that are on or off, and how servers are
checked. -/
def optionLines (b : Spec.Backend) : List String :=
  forwardForLine b.base ++
    flag "option http-pretend-keepalive" (b.base.pretendKeepalive.getD false) ++
    flag "option redispatch" (b.redispatch.getD false) ++ checkLine b

/-- Words of a declared cookie. -/
def cookieWords (c : Spec.Cookie) : List String := ["cookie", Digest.md5Hex c.name]

/-- The line of a declared cookie, and that of its key if it is dynamic. -/
inductive IsCookie : Option Spec.Cookie → List String → Prop
  | none : IsCookie none []
  | fixed {c : Spec.Cookie} {line : String} (hdynamic : c.dynamic.getD false = false)
      (h : Gives (written Cookie.ofSpec Cookie.statement) cookieWords c line) :
      IsCookie (some c) [line]
  | dynamic {c : Spec.Cookie} {line : String} (hdynamic : c.dynamic.getD false = true)
      (h : Gives (written Cookie.ofSpec Cookie.statement) cookieWords c line) :
      IsCookie (some c) [line, statement ["dynamic-cookie-key", Digest.md5Hex c.name]]

lemma Cookie.isCookie {c : Option Spec.Cookie} {s : Option Cookie} (h : c.mapM ofSpec = .ok s) :
    IsCookie c ((s.map Cookie.statements).getD []) := by
  cases c with
  | none =>
    cases h
    exact .none
  | some c =>
    obtain ⟨checked, hchecked, h⟩ := Check.bind_eq_ok_iff.1 h
    cases h
    have hfields : checked.name = c.name ∧ checked.dynamic = c.dynamic.getD false := by
      obtain ⟨mode, -, hfields⟩ := Check.bind_eq_ok_iff.1 hchecked
      cases hfields
      exact ⟨rfl, rfl⟩
    obtain ⟨hname, hdynamic⟩ := hfields
    have hgives : Gives (written Cookie.ofSpec Cookie.statement) cookieWords c checked.statement :=
      gives_of_ok hchecked ⟨_, rfl, by simp [cookieWords, digest, hname]⟩
    rw [Option.map_some, Option.getD_some, statements, digest, hname, hdynamic]
    cases hdeclared : c.dynamic.getD false with
    | false => exact .fixed hdeclared hgives
    | true => exact .dynamic hdeclared hgives

/-- **The groups of a backend**: its mode, how servers are chosen, its options, its cookie, its
timeouts, its tests and rules, its servers and its templates. -/
def Backend.groups (space : String) (b : Spec.Backend) : List (List String → Prop) :=
  [(· = modeLine b.base), (· = balanceLine b), (· = hashLine b), (· = optionLines b),
    IsCookie b.cookie, (· = timeoutLines b.base.timeouts b.checkTimeout)] ++
    ruleGroups space b.base ++
    [EachGives (written (Server.ofSpec space) Server.statement) serverWords b.servers,
      EachGives (written (ServerTemplate.ofSpec space) ServerTemplate.statement) templateWords
        b.templates]

lemma Backend.grouped {b : Spec.Backend} {s : Backend} (h : ofSpec space name b = .ok s) :
    Grouped (groups space b) s.fragment.statements := by
  obtain ⟨⟨htimeouts, hagrees⟩, hpool, -⟩ := ofSpec_eq_ok_iff.1 h
  simp only [Pool.ofDeclared, Check.bind_eq_ok_iff, Check.pure_eq_ok_iff] at hpool
  obtain ⟨servers, hservers, templates, htemplates, cookie, hcookie, hpool⟩ := hpool
  have hbalance : (s.pool.balance.map (fun name => statement ["balance", name])).toList =
      balanceLine b := by
    rw [← hpool]
    rfl
  have hhash : (s.pool.hashType.map HashType.statement).toList = hashLine b := by
    rw [← hpool, Option.map_map]
    rfl
  have hoptions : s.base.forwardForStatements ++
      flag "option http-pretend-keepalive" s.base.pretendKeepalive ++
      flag "option redispatch" s.pool.redispatch ++
      (s.pool.healthCheck.map HealthCheck.statement).toList = optionLines b := by
    rw [optionLines, ← HealthCheck.statement_eq, Base.forwardForStatements_eq hagrees,
      ← hagrees.pretendKeepalive, ← hpool]
  have hstatements : s.fragment.statements = s.base.modeStatements ++
      (s.pool.balance.map (fun name => statement ["balance", name])).toList ++
      (s.pool.hashType.map HashType.statement).toList ++
      (s.base.forwardForStatements ++
        flag "option http-pretend-keepalive" s.base.pretendKeepalive ++
        flag "option redispatch" s.pool.redispatch ++
        (s.pool.healthCheck.map HealthCheck.statement).toList) ++
      (cookie.map Cookie.statements).getD [] ++ s.base.timeouts.statements ++
      s.base.ruleStatements ++ servers.map Server.statement ++
      templates.map ServerTemplate.statement := by
    rw [fragment, ← hpool]
    simp only [List.append_assoc]
  rw [hstatements]
  exact ((((((((Grouped.given (Base.modeStatements_eq hagrees)).append
    (.given hbalance)).append (.given hhash)).append (.given hoptions)).append
    (.single (Cookie.isCookie hcookie))).append
    (.given (Timeouts.statements_eq_timeoutLines htimeouts))).append
    (Base.grouped_rules hagrees)).append
    (.single (eachGives_of_mapM hservers Server.begins))).append
    (.single (eachGives_of_mapM htemplates ServerTemplate.begins))

/-- **The statements of a section stand in groups**, which follow one another as the groups of its
kind do.  In a group that comes from a list, each declared item has one statement, which is the one
that the item gives on its own, in the order of the items; so it is with the rules on requests, kind
after kind, of which only refusals that are not enabled and redirects that choose no kind have none. -/
theorem statements_grouped (space name : String) :
    (∀ (f : Spec.Frontend) s, Frontend.ofSpec space name f = .ok s →
      Grouped (Frontend.groups space f) s.fragment.statements) ∧
    ∀ (b : Spec.Backend) s, Backend.ofSpec space name b = .ok s →
      Grouped (Backend.groups space b) s.fragment.statements :=
  ⟨fun _ _ => Frontend.grouped, fun _ _ => Backend.grouped⟩

/-- A frontend with rules of several kinds, declared in another order than they are written in; the
first redirect chooses no kind. -/
def shopFrontend : Spec.Frontend :=
  { Spec.Frontend.none with
    base := { Spec.Base.none with
      mode := some "http"
      httpRequest := some { Spec.HttpRules.none with
        redirect := [⟨⟨none, none⟩, none, .none, "/old", none⟩,
          ⟨⟨none, some "insecure"⟩, some 301, ⟨false, false, true⟩, "https", none⟩]
        deny := some ⟨⟨none, some "blocked"⟩, true⟩
        setPath := [⟨⟨none, none⟩, "/shop%[path]"⟩] }
      acls := [⟨"insecure", "ssl_fc", ["0"]⟩, ⟨"blocked", "src", ["10.0.0.1", "10.0.0.2"]⟩] }
    defaultBackend := ⟨"pool"⟩ }

/-- A backend with two servers, of which the second one is declared to be checked, and with both ways
to check them. -/
def shopBackend : Spec.Backend :=
  { Spec.Backend.none with
    balance := some ⟨"RoundRobin"⟩
    hashType := some ⟨some "consistent", none, some "avalanche"⟩
    redispatch := some true
    httpCheck := some ⟨"/health", "GET"⟩
    tcpCheck := some true
    checkTimeout := some (.ofSeconds 5 0)
    servers := [⟨⟨none, none, none, none, none, none, none, none, false⟩, "first", "10.0.0.1", 80⟩,
      ⟨⟨none, none, some ⟨true, none, none, none⟩, none, none, none, none, none, false⟩,
        "second", "10.0.0.2", 80⟩] }

theorem statements_grouped_shop :
    (∃ s, Frontend.ofSpec "edge" "shop" shopFrontend = .ok s ∧
      Grouped (Frontend.groups "edge" shopFrontend) s.fragment.statements ∧
      s.fragment.statements = ["mode http", "acl insecure ssl_fc 0",
        "acl blocked src 10.0.0.1 10.0.0.2", "http-request set-path /shop%[path]",
        "http-request deny if blocked",
        "http-request redirect scheme https code 301 if insecure", "default_backend pool"]) ∧
    ∃ s, Backend.ofSpec "edge" "shop" shopBackend = .ok s ∧
      Grouped (Backend.groups "edge" shopBackend) s.fragment.statements ∧
      s.fragment.statements = ["balance roundrobin", "hash-type consistent avalanche",
        "option redispatch", "option httpchk GET /health", "timeout check 5000",
        "server first 10.0.0.1:80", "server second 10.0.0.2:80 check"] := by
  obtain ⟨hfrontend, hbackend⟩ := statements_grouped "edge" "shop"
  constructor
  · have hlines : (Frontend.ofSpec "edge" "shop" shopFrontend).map (·.fragment.statements) =
        .ok ["mode http", "acl insecure ssl_fc 0", "acl blocked src 10.0.0.1 10.0.0.2",
          "http-request set-path /shop%[path]", "http-request deny if blocked",
          "http-request redirect scheme https code 301 if insecure", "default_backend pool"] := by
      decide +kernel
    obtain ⟨s, hs, hstatements⟩ := Check.map_eq_ok_iff.1 hlines
    exact ⟨s, hs, hfrontend _ s hs, hstatements⟩
  · have hlines : (Backend.ofSpec "edge" "shop" shopBackend).map (·.fragment.statements) =
        .ok ["balance roundrobin", "hash-type consistent avalanche", "option redispatch",
          "option httpchk GET /health", "timeout check 5000", "server first 10.0.0.1:80",
          "server second 10.0.0.2:80 check"] := by
      decide +kernel
    obtain ⟨s, hs, hstatements⟩ := Check.map_eq_ok_iff.1 hlines
    exact ⟨s, hs, hbackend _ s hs, hstatements⟩

end ProxyFleet.Section
