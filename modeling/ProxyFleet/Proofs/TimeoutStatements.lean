import ProxyFleet.Proofs.TimeoutSteps

/-!
# Timeouts in sections

Which statements of a section set a timeout, and what they have to do with the declared timeouts.

**Keywords.**  The first word of a statement tells what it sets (`Section.keyword_statement`).  Each
kind of rule, address, server and setting has keywords of its own, and `timeout` is none of them, so
that of a section that is checked only the statements of its timeouts are left
(`Section.Frontend.setTimeouts_fragment` and so on).  In the defaults there may be lines among the
additional parameters as well, which are written as they are.

**Declared timeouts.**  `Section.declaredTimeouts` are the statements that a declaration asks for:
one for each name that the kind of section accepts, in its order, where the timeout of checks goes
before a declared one.  Timeouts that were checked have these statements
(`Section.Timeouts.statements_of_ofDeclared`), and each half of a listen has those of its own kind
(`Section.Timeouts.statements_project`).

Main statement: `Section.timeouts_as_declared`.
-/

namespace ProxyFleet

lemma KeyMap.get?_mapValues {α β : Type} (f : α → β) (m : KeyMap α) (key : String) :
    (m.mapValues f).get? key = (m.get? key).map f := by
  simp only [get?, mapValues]
  induction m.entries with
  | nil => rfl
  | cons e rest ih =>
    rw [List.map_cons, lookup_cons_eq_ite, lookup_cons_eq_ite, ih]
    split <;> rfl

/-- Values can be replaced before or after an entry is put in. -/
lemma KeyMap.mapValues_insert {α β : Type} (f : α → β) (m : KeyMap α) (key : String) (value : α) :
    (m.insert key value).mapValues f = (m.mapValues f).insert key (f value) := by
  refine ext_get? fun k => ?_
  rw [get?_mapValues, get?_insert, get?_insert, get?_mapValues]
  split <;> rfl

namespace Section

/-! ## Keywords -/

/-- The first word of a statement. -/
def keyword (s : String) : String := String.ofList (s.toList.takeWhile (· != ' '))

/-- The statements that set a timeout. -/
def setTimeouts (l : List String) : List String := l.filter (fun s => keyword s = "timeout")

/-- The first of the words that a statement is made of is its keyword. -/
lemma keyword_statement {word : String} (h : ' ' ∉ word.toList) (words : List String) :
    keyword (statement (word :: words)) = word := by
  have hword : ∀ c ∈ word.toList, (c != ' ') = true :=
    fun c hc => bne_iff_ne.2 fun he => h (he ▸ hc)
  cases words with
  | nil => simp [keyword, statement, List.takeWhile_eq_self_iff.2 hword]
  | cons next rest =>
    have hblank : (" ".toList ++ (String.intercalate " " (next :: rest)).toList).takeWhile
        (· != ' ') = [] := rfl
    rw [keyword, statement, String.intercalate_cons_cons, String.toList_append,
      String.toList_append, List.append_assoc, List.takeWhile_append_of_pos hword, hblank,
      List.append_nil, String.ofList_toList]

/-! ### Statements of one keyword -/

/-- The statements that begin with a word. -/
def settings (word : String) (l : List String) : List String :=
  l.filter (fun s => keyword s = word)

section Settings

variable {α : Type} {f : α → String} {word other : String}

lemma settings_append (l r : List String) :
    settings word (l ++ r) = settings word l ++ settings word r := List.filter_append l r

lemma settings_eq_nil {l : List String} (h : ∀ s ∈ l, keyword s ≠ word) : settings word l = [] :=
  List.filter_eq_nil_iff.2 fun s hs => by simpa using h s hs

variable (word)

lemma settings_map (h : ∀ a, keyword (f a) = word) (l : List α) :
    settings word (l.map f) = l.map f := by
  refine List.filter_eq_self.2 fun s hs => ?_
  obtain ⟨a, -, rfl⟩ := List.mem_map.1 hs
  exact decide_eq_true (h a)

/-- Statements that all begin with another word are not among them. -/
lemma settings_map_of_ne (h : ∀ a, keyword (f a) = other) (hother : other ≠ word) (l : List α) :
    settings word (l.map f) = [] := by
  refine settings_eq_nil fun s hs => ?_
  obtain ⟨a, -, rfl⟩ := List.mem_map.1 hs
  rw [h a]
  exact hother

lemma settings_toList_map_of_ne (h : ∀ a, keyword (f a) = other) (hother : other ≠ word)
    (o : Option α) : settings word (o.map f).toList = [] := by
  rw [Option.toList_map]
  exact settings_map_of_ne word h hother _

lemma settings_flag (h : keyword other ≠ word) (on : Bool) : settings word (flag other on) = [] := by
  cases on
  · rfl
  · exact settings_eq_nil fun s hs => by rwa [List.mem_singleton.1 hs]

end Settings

@[simp] lemma setTimeouts_nil : setTimeouts [] = [] := rfl

@[simp] lemma setTimeouts_append (l r : List String) :
    setTimeouts (l ++ r) = setTimeouts l ++ setTimeouts r := List.filter_append l r

lemma setTimeouts_eq_nil {l : List String} (h : ∀ s ∈ l, keyword s ≠ "timeout") :
    setTimeouts l = [] := settings_eq_nil h

lemma setTimeouts_map {α : Type} {f : α → String} {word : String}
    (h : ∀ a, keyword (f a) = word) (hword : word ≠ "timeout") (l : List α) :
    setTimeouts (l.map f) = [] := settings_map_of_ne _ h hword l

lemma setTimeouts_toList_map {α : Type} {f : α → String} {word : String}
    (h : ∀ a, keyword (f a) = word) (hword : word ≠ "timeout") (o : Option α) :
    setTimeouts (o.map f).toList = [] := settings_toList_map_of_ne _ h hword o

lemma setTimeouts_flag (word : String) (h : keyword word ≠ "timeout") (on : Bool) :
    setTimeouts (flag word on) = [] := settings_flag _ h on

/-! ### Rules and settings -/

lemma Acl.keyword_statement (a : Acl) : keyword a.statement = "acl" :=
  Section.keyword_statement (by decide) _

lemma TcpRule.keyword_statement (r : TcpRule) : keyword r.statement = "tcp-request" :=
  Section.keyword_statement (by decide) _

lemma HttpRule.keyword_statement (r : HttpRule) : keyword r.statement = "http-request" := by
  cases r <;> exact Section.keyword_statement (by decide) _

lemma ErrorFile.keyword_statement (e : ErrorFile) : keyword e.statement = "errorfile" :=
  Section.keyword_statement (by decide) _

lemma ForwardFor.keyword_statement (f : ForwardFor) : keyword f.statement = "option" :=
  Section.keyword_statement (by decide) _

lemma Bind.keyword_statement (b : Bind) : keyword b.statement = "bind" :=
  Section.keyword_statement (by decide) _

lemma SwitchingRule.keyword_statement (r : SwitchingRule) :
    keyword r.statement = "use_backend" := by
  obtain ⟨target, condition⟩ := r
  cases target with
  | name name => exact Section.keyword_statement (by decide) _
  | mapping m => cases condition <;> exact Section.keyword_statement (by decide) _

lemma HashType.keyword_statement (h : HashType) : keyword h.statement = "hash-type" :=
  Section.keyword_statement (by decide) _

lemma HealthCheck.keyword_statement (c : HealthCheck) : keyword c.statement = "option" := by
  cases c <;> exact Section.keyword_statement (by decide) _

lemma Cookie.setTimeouts_statements (c : Cookie) : setTimeouts c.statements = [] := by
  refine setTimeouts_eq_nil fun s hs => ?_
  have hcookie : keyword c.statement = "cookie" := Section.keyword_statement (by decide) _
  rcases List.mem_append.1 hs with hs | hs
  · rw [List.mem_singleton.1 hs, hcookie]
    decide
  · split at hs
    · rw [List.mem_singleton.1 hs, Section.keyword_statement (by decide)]
      decide
    · cases hs

lemma Server.keyword_statement (s : Server) : keyword s.statement = "server" :=
  Section.keyword_statement (by decide) _

lemma ServerTemplate.keyword_statement (t : ServerTemplate) :
    keyword t.statement = "server-template" :=
  Section.keyword_statement (by decide) _

/-! ### Sections -/

/-- The statements of timeouts set timeouts. -/
@[simp] lemma Timeouts.setTimeouts_statements (t : Timeouts) :
    setTimeouts t.statements = t.statements :=
  settings_map _ (fun _ => Section.keyword_statement (by decide) _) _

namespace Base

@[simp] lemma setTimeouts_modeStatements (b : Base) : setTimeouts b.modeStatements = [] :=
  setTimeouts_toList_map (fun _ => keyword_statement (by decide) _) (by decide) _

@[simp] lemma setTimeouts_forwardForStatements (b : Base) :
    setTimeouts b.forwardForStatements = [] :=
  setTimeouts_toList_map ForwardFor.keyword_statement (by decide) _

@[simp] lemma setTimeouts_ruleStatements (b : Base) : setTimeouts b.ruleStatements = [] := by
  rw [ruleStatements, setTimeouts_append, setTimeouts_append, setTimeouts_append,
    setTimeouts_map Acl.keyword_statement (by decide),
    setTimeouts_map TcpRule.keyword_statement (by decide),
    setTimeouts_map HttpRule.keyword_statement (by decide),
    setTimeouts_map ErrorFile.keyword_statement (by decide)]
  rfl

end Base

/-- **A frontend sets its timeouts and no others.** -/
lemma Frontend.setTimeouts_fragment (f : Frontend) :
    setTimeouts f.fragment.statements = f.base.timeouts.statements := by
  have hbinds := setTimeouts_map Bind.keyword_statement (by decide) f.binds
  have hrules := setTimeouts_map SwitchingRule.keyword_statement (by decide) f.switching
  have hdefault := setTimeouts_toList_map (f := fun name => statement ["default_backend", name])
    (fun _ => keyword_statement (by decide) _) (by decide) f.defaultBackend
  simp [fragment, hbinds, hrules, hdefault]

/-- **A backend sets its timeouts and no others.** -/
lemma Backend.setTimeouts_fragment (b : Backend) :
    setTimeouts b.fragment.statements = b.base.timeouts.statements := by
  have hbalance := setTimeouts_toList_map (f := fun name => statement ["balance", name])
    (fun _ => keyword_statement (by decide) _) (by decide) b.pool.balance
  have hhash := setTimeouts_toList_map HashType.keyword_statement (by decide) b.pool.hashType
  have hkeepalive := setTimeouts_flag "option http-pretend-keepalive" (by decide)
    b.base.pretendKeepalive
  have hredispatch := setTimeouts_flag "option redispatch" (by decide) b.pool.redispatch
  have hcheck := setTimeouts_toList_map HealthCheck.keyword_statement (by decide) b.pool.healthCheck
  have hcookie : setTimeouts ((b.pool.cookie.map Cookie.statements).getD []) = [] := by
    cases b.pool.cookie with
    | none => rfl
    | some c => exact c.setTimeouts_statements
  have hservers := setTimeouts_map Server.keyword_statement (by decide) b.pool.servers
  have htemplates := setTimeouts_map ServerTemplate.keyword_statement (by decide) b.pool.templates
  simp [fragment, hbalance, hhash, hkeepalive, hredispatch, hcheck, hcookie, hservers, htemplates]

/-- **The defaults set their timeouts**, and those that stand among their additional lines. -/
lemma Defaults.setTimeouts_fragment (d : Defaults) : setTimeouts d.fragment.statements =
    d.timeouts.statements ++ setTimeouts d.additionalParameters := by
  have hmode := setTimeouts_toList_map (f := fun m : Mode => statement ["mode", m.name])
    (fun _ => keyword_statement (by decide) _) (by decide) d.mode
  have hlog := setTimeouts_flag "log global" (by decide) d.logGlobal
  have hhttp := setTimeouts_flag "option httplog" (by decide) d.httpLog
  have htcp := setTimeouts_flag "option tcplog" (by decide) d.tcpLog
  have hfiles := setTimeouts_map ErrorFile.keyword_statement (by decide) d.errorFiles
  simp [fragment, hmode, hlog, hhttp, htcp, hfiles]

/-! ## Declared timeouts -/

/-- The length of time that is declared under a name.  The timeout of checks goes before one that
is declared under its name. -/
def declaredTimeout (declared : KeyMap Duration) (check : Option Duration) (key : String) :
    Option Duration :=
  if key = "check" then check.or (declared.get? key) else declared.get? key

/-- The statements that a kind of section gives for declared timeouts: one for each name that it
accepts, in its order, with the length of time in whole milliseconds. -/
def declaredTimeouts (scope : TimeoutScope) (declared : KeyMap Duration)
    (check : Option Duration) : List String :=
  scope.keys.filterMap (fun key => (declaredTimeout declared check key).map (fun d =>
    "timeout " ++ key ++ " " ++ toString (min (d.nanos / 1000000) (2 ^ 64 - 1))))

namespace Timeouts

variable {scope : TimeoutScope} {declared : KeyMap Duration} {check : Option Duration}
  {t : Timeouts}

lemma ofDeclared_none : ofDeclared scope declared none = ofSpec scope declared := by
  rw [ofDeclared]
  cases ofSpec scope declared <;> rfl

/-- What stands under a name is the length of time that is declared for it. -/
lemma get?_of_ofDeclared (h : ofDeclared scope declared check = .ok t) (key : String) :
    t.get? key = (declaredTimeout declared check key).map Duration.millis := by
  obtain ⟨-, -, rfl⟩ := ofDeclared_eq_ok_iff.1 h
  cases check with
  | none => simp [get?, declaredTimeout, KeyMap.get?_mapValues]
  | some d => by_cases hkey : key = "check" <;>
      simp [get?, declaredTimeout, KeyMap.get?_mapValues, hkey]

/-- Names that are declared are among those that the scope accepts. -/
lemma mem_keys_of_ofDeclared (h : ofDeclared scope declared check = .ok t) :
    ∀ key ∈ declared.keys, key ∈ scope.keys := by
  intro key hkey
  obtain ⟨e, he, rfl⟩ := List.mem_map.1 hkey
  exact ((ofDeclared_eq_ok_iff.1 h).1 e he).1

/-- **Declared timeouts are written as declared**, those that a scope accepts in its own order. -/
lemma statements_project (h : ofDeclared scope declared check = .ok t) (other : TimeoutScope) :
    (t.project other).statements = declaredTimeouts other declared check := by
  rw [statements, toList, declaredTimeouts, List.map_filterMap]
  refine List.filterMap_congr fun key hkey => ?_
  have haccepted : key ∈ other.keys := hkey
  rw [get?_project, if_pos haccepted, get?_of_ofDeclared h]
  cases declaredTimeout declared check key <;> rfl

/-- A projection to their own scope changes nothing in how timeouts are written. -/
lemma statements_project_self (t : Timeouts) : (t.project t.scope).statements = t.statements := by
  have hlist : (t.project t.scope).toList = t.toList :=
    List.filterMap_congr fun key hkey => by
      have haccepted : key ∈ t.scope.keys := hkey
      rw [get?_project, if_pos haccepted]
  rw [statements, statements, hlist]

lemma statements_of_ofDeclared (h : ofDeclared scope declared check = .ok t) :
    t.statements = declaredTimeouts scope declared check := by
  have hscope : t.scope = scope := by rw [(ofDeclared_eq_ok_iff.1 h).2.2]
  rw [← statements_project_self, hscope, statements_project h]

end Timeouts

/-! ## Sections as declared -/

variable {space name : String}

/-- The statements of a section that set timeouts are those that its kind gives for the declared
ones. -/
lemma Frontend.setTimeouts_of_ofSpec {spec : Spec.Frontend} {s : Frontend}
    (h : ofSpec space name spec = .ok s) :
    setTimeouts s.fragment.statements =
        declaredTimeouts .frontend spec.base.timeouts none ∧
      ∀ key ∈ spec.base.timeouts.keys, key ∈ TimeoutScope.frontend.keys := by
  have htimeouts := (Base.ofSpec_eq_ok_iff.1 (ofSpec_eq_ok_iff.1 h).1).1
  rw [← Timeouts.ofDeclared_none] at htimeouts
  rw [setTimeouts_fragment, Timeouts.statements_of_ofDeclared htimeouts]
  exact ⟨rfl, Timeouts.mem_keys_of_ofDeclared htimeouts⟩

lemma Backend.setTimeouts_of_ofSpec {spec : Spec.Backend} {s : Backend}
    (h : ofSpec space name spec = .ok s) :
    setTimeouts s.fragment.statements =
        declaredTimeouts .backend spec.base.timeouts spec.checkTimeout ∧
      ∀ key ∈ spec.base.timeouts.keys, key ∈ TimeoutScope.backend.keys := by
  have htimeouts := (ofSpec_eq_ok_iff.1 h).1.1
  rw [setTimeouts_fragment, Timeouts.statements_of_ofDeclared htimeouts]
  exact ⟨rfl, Timeouts.mem_keys_of_ofDeclared htimeouts⟩

lemma Listen.setTimeouts_of_ofSpec {spec : Spec.Listen} {s : Listen}
    (h : ofSpec space name spec = .ok s) :
    setTimeouts s.frontend.fragment.statements =
        declaredTimeouts .frontend spec.base.timeouts spec.checkTimeout ∧
      setTimeouts s.backend.fragment.statements =
        declaredTimeouts .backend spec.base.timeouts spec.checkTimeout ∧
      ∀ key ∈ spec.base.timeouts.keys,
        key ∈ TimeoutScope.frontend.keys ∨ key ∈ TimeoutScope.backend.keys := by
  have htimeouts := (ofSpec_eq_ok_iff.1 h).1.1
  rw [Frontend.setTimeouts_fragment, Backend.setTimeouts_fragment]
  exact ⟨Timeouts.statements_project htimeouts _, Timeouts.statements_project htimeouts _,
    fun key hkey => mem_listen_keys.1 (Timeouts.mem_keys_of_ofDeclared htimeouts key hkey)⟩

lemma Instance.setTimeouts_of_ofSpec {spec : Spec.Instance} {s : Instance}
    (h : ofSpec space name spec = .ok s) :
    setTimeouts s.defaults.fragment.statements =
        declaredTimeouts .defaults spec.configuration.defaults.timeouts none ++
          setTimeouts (Text.trimmedLines spec.configuration.defaults.additionalParameters) ∧
      ∀ key ∈ spec.configuration.defaults.timeouts.keys, key ∈ TimeoutScope.defaults.keys := by
  obtain ⟨metrics, -, h⟩ := Check.bind_eq_ok_iff.1 h
  obtain ⟨global, -, h⟩ := Check.bind_eq_ok_iff.1 h
  obtain ⟨defaults, hdefaults, h⟩ := Check.bind_eq_ok_iff.1 h
  cases h
  obtain ⟨timeouts, htimeouts, h⟩ := Check.bind_eq_ok_iff.1 hdefaults
  obtain ⟨mode, -, h⟩ := Check.bind_eq_ok_iff.1 h
  obtain ⟨files, -, h⟩ := Check.bind_eq_ok_iff.1 h
  cases h
  rw [← Timeouts.ofDeclared_none] at htimeouts
  rw [Defaults.setTimeouts_fragment, Timeouts.statements_of_ofDeclared htimeouts]
  exact ⟨rfl, Timeouts.mem_keys_of_ofDeclared htimeouts⟩

/-- **Sections set their timeouts as declared.**  Of an accepted frontend, backend or listen, each
section has one statement for every declared timeout that its kind accepts, in the order of its
kind, and no others; the timeout of checks goes before a declared one, and no timeout of a listen is
left out of both of its halves.  So it is with the defaults of an instance, which have the
statements among their additional lines besides. -/
theorem timeouts_as_declared (space name : String) :
    (∀ (spec : Spec.Frontend) s, Frontend.ofSpec space name spec = .ok s →
      setTimeouts s.fragment.statements =
          declaredTimeouts .frontend spec.base.timeouts none ∧
        ∀ key ∈ spec.base.timeouts.keys, key ∈ TimeoutScope.frontend.keys) ∧
    (∀ (spec : Spec.Backend) s, Backend.ofSpec space name spec = .ok s →
      setTimeouts s.fragment.statements =
          declaredTimeouts .backend spec.base.timeouts spec.checkTimeout ∧
        ∀ key ∈ spec.base.timeouts.keys, key ∈ TimeoutScope.backend.keys) ∧
    (∀ (spec : Spec.Listen) s, Listen.ofSpec space name spec = .ok s →
      setTimeouts s.frontend.fragment.statements =
          declaredTimeouts .frontend spec.base.timeouts spec.checkTimeout ∧
        setTimeouts s.backend.fragment.statements =
          declaredTimeouts .backend spec.base.timeouts spec.checkTimeout ∧
        ∀ key ∈ spec.base.timeouts.keys,
          key ∈ TimeoutScope.frontend.keys ∨ key ∈ TimeoutScope.backend.keys) ∧
    ∀ (spec : Spec.Instance) s, Instance.ofSpec space name spec = .ok s →
      setTimeouts s.defaults.fragment.statements =
          declaredTimeouts .defaults spec.configuration.defaults.timeouts none ++
            setTimeouts (Text.trimmedLines spec.configuration.defaults.additionalParameters) ∧
        ∀ key ∈ spec.configuration.defaults.timeouts.keys, key ∈ TimeoutScope.defaults.keys :=
  ⟨fun _ _ => Frontend.setTimeouts_of_ofSpec, fun _ _ => Backend.setTimeouts_of_ofSpec,
    fun _ _ => Listen.setTimeouts_of_ofSpec, fun _ _ => Instance.setTimeouts_of_ofSpec⟩

/-- The timeout of checks takes the place of a declared one in the half that serves, both halves
have the timeout of requests, and the rest of a millisecond is dropped. -/
theorem timeouts_as_declared_listen :
    let spec : Spec.Listen :=
      { Spec.Listen.none with
        base := { Spec.Base.none with
          timeouts := .ofList [("server", .ofSeconds 3 0), ("http-request", ⟨false, 1999999⟩),
            ("check", .ofSeconds 2 0), ("client", .ofSeconds 1 0)] }
        checkTimeout := some (.ofSeconds 5 0) }
    ∃ s, Listen.ofSpec "edge" "web" spec = .ok s ∧
      setTimeouts s.frontend.fragment.statements =
        ["timeout client 1000", "timeout http-request 1"] ∧
      setTimeouts s.backend.fragment.statements =
        ["timeout check 5000", "timeout http-request 1", "timeout server 3000"] := by
  intro spec
  have hok : (Listen.ofSpec "edge" "web" spec).isOk = true := by cbv
  cases hs : Listen.ofSpec "edge" "web" spec with
  | error e =>
    rw [hs] at hok
    cases hok
  | ok s =>
    obtain ⟨hfront, hback, -⟩ := (timeouts_as_declared "edge" "web").2.2.1 spec s hs
    exact ⟨s, rfl, hfront.trans (by cbv), hback.trans (by cbv)⟩

/-- An additional line sets a timeout for a second time, and not to the declared length of time; and
of a length of time that is longer than what can be counted, that much is written. -/
theorem timeouts_beside_declared :
    let spec : Spec.Instance :=
      { Spec.Instance.none with
        configuration := { Spec.Configuration.none with
          defaults := { Spec.Defaults.none with
            timeouts := .ofList [("client", .ofSeconds 5 0)]
            additionalParameters := "timeout client 30000" } } }
    let long : Spec.Frontend :=
      { Spec.Frontend.none with
        base := { Spec.Base.none with
          timeouts := .ofList [("client", ⟨false, 2 ^ 64 * 1000000⟩)] } }
    (∃ s, Instance.ofSpec "edge" "fleet" spec = .ok s ∧
      setTimeouts s.defaults.fragment.statements =
        ["timeout client 5000", "timeout client 30000"]) ∧
      declaredTimeouts .defaults spec.configuration.defaults.timeouts none =
        ["timeout client 5000"] ∧
      ∃ s, Frontend.ofSpec "edge" "web" long = .ok s ∧
        setTimeouts s.fragment.statements = ["timeout client 18446744073709551615"] := by
  intro spec long
  have hdefaults : (Instance.ofSpec "edge" "fleet" spec).toOption.map
      (fun s => setTimeouts s.defaults.fragment.statements) =
      some ["timeout client 5000", "timeout client 30000"] := by cbv
  have hlong : (Frontend.ofSpec "edge" "web" long).toOption.map
      (fun s => setTimeouts s.fragment.statements) =
      some ["timeout client 18446744073709551615"] := by cbv
  refine ⟨?_, by cbv, ?_⟩
  · cases hs : Instance.ofSpec "edge" "fleet" spec with
    | error e =>
      rw [hs] at hdefaults
      cases hdefaults
    | ok s =>
      rw [hs] at hdefaults
      injection hdefaults with hdefaults
      exact ⟨s, rfl, hdefaults⟩
  · cases hs : Frontend.ofSpec "edge" "web" long with
    | error e =>
      rw [hs] at hlong
      cases hlong
    | ok s =>
      rw [hs] at hlong
      injection hlong with hlong
      exact ⟨s, rfl, hlong⟩

end Section

end ProxyFleet
