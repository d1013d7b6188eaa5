import Mathlib
import ProxyFleet.Section.Listen

/-!
# Checks that succeed

A specification is checked part by part, and the check of the whole succeeds exactly when every
part does.  For each kind of section this file says which checks those are and what comes out of
them, so that nothing else has to open a check.

**Single steps.**  `Check.bind_eq_ok_iff` opens one step of a check.

**Timeouts.**  `Timeouts.ofSpec_eq_ok_iff` says which declared timeouts a scope takes and what they
become, `Timeouts.ofDeclared_eq_ok_iff` the same where the timeout of checks joins them.

**Sections.**  `Base.ofSpec_eq_ok_iff`, `Frontend.ofSpec_eq_ok_iff`, `Backend.ofSpec_eq_ok_iff` and
`Listen.ofSpec_eq_ok_iff`.
-/

namespace ProxyFleet

namespace Check

variable {ε α β : Type}

/-- A check of two steps succeeds when both do. -/
lemma bind_eq_ok_iff {x : Except ε α} {f : α → Except ε β} {b : β} :
    (x >>= f) = .ok b ↔ ∃ a, x = .ok a ∧ f a = .ok b := by
  cases x with
  | error e => simp [bind, Except.bind]
  | ok a => simp [bind, Except.bind]

/-- A check of two steps fails when one of them does, and the first one counts. -/
lemma bind_eq_error_iff {x : Except ε α} {f : α → Except ε β} {e : ε} :
    (x >>= f) = .error e ↔ x = .error e ∨ ∃ a, x = .ok a ∧ f a = .error e := by
  cases x with
  | error e => simp [bind, Except.bind]
  | ok a => simp [bind, Except.bind]

/-- What is made of the result of a check that succeeds. -/
lemma map_eq_ok_iff {x : Except ε α} {f : α → β} {b : β} :
    x.map f = .ok b ↔ ∃ a, x = .ok a ∧ f a = b := by
  cases x with
  | error e => simp [Except.map]
  | ok a => simp [Except.map]

/-- A check succeeds whatever its faults are called. -/
lemma mapError_eq_ok_iff {ε' : Type} {x : Except ε α} {f : ε → ε'} {a : α} :
    x.mapError f = .ok a ↔ x = .ok a := by
  cases x with
  | error e => simp [Except.mapError]
  | ok a => simp [Except.mapError]

lemma mapError_eq_error_iff {ε' : Type} {x : Except ε α} {f : ε → ε'} {e' : ε'} :
    x.mapError f = .error e' ↔ ∃ e, x = .error e ∧ f e = e' := by
  cases x with
  | error e => simp [Except.mapError]
  | ok a => simp [Except.mapError]

@[simp] lemma pure_eq_ok_iff {a b : α} : (pure a : Except ε α) = .ok b ↔ a = b := by
  simp [pure, Except.pure]

/-- A check without a value succeeds if it does not fail. -/
lemma eq_ok_of_isOk {x : Except ε Unit} (h : x.isOk = true) : x = .ok () := by
  cases x with
  | error e => cases h
  | ok => rfl

/-- Checks of a list take each member to what it becomes. -/
lemma forall₂_of_mapM {f : α → Except ε β} {l : List α} {r : List β} (h : l.mapM f = .ok r) :
    List.Forall₂ (fun a b => f a = .ok b) l r := by
  induction l generalizing r with
  | nil =>
    cases h
    exact .nil
  | cons a rest ih =>
    rw [List.mapM_cons] at h
    obtain ⟨b, hb, h⟩ := bind_eq_ok_iff.1 h
    obtain ⟨later, hlater, h⟩ := bind_eq_ok_iff.1 h
    cases h
    exact .cons hb (ih hlater)

/-- The check of an optional value. -/
lemma forall₂_of_mapM_option {f : α → Except ε β} {o : Option α} {p : Option β}
    (h : o.mapM f = .ok p) : List.Forall₂ (fun a b => f a = .ok b) o.toList p.toList := by
  cases o with
  | none =>
    cases h
    exact .nil
  | some a =>
    obtain ⟨b, hb, h⟩ := bind_eq_ok_iff.1 h
    cases h
    exact .cons hb .nil

/-- What checks of a list give comes from the members of the list. -/
lemma exists_of_mem_mapM {f : α → Except ε β} {l : List α} {r : List β} (h : l.mapM f = .ok r)
    {b : β} (hb : b ∈ r) : ∃ a ∈ l, f a = .ok b := by
  induction l generalizing r with
  | nil =>
    cases h
    cases hb
  | cons a rest ih =>
    rw [List.mapM_cons] at h
    obtain ⟨b', hb', h⟩ := bind_eq_ok_iff.1 h
    obtain ⟨later, hlater, h⟩ := bind_eq_ok_iff.1 h
    cases h
    rcases List.mem_cons.1 hb with rfl | hb
    · exact ⟨a, List.mem_cons_self, hb'⟩
    · obtain ⟨x, hx, hfx⟩ := ih hlater hb
      exact ⟨x, List.mem_cons_of_mem _ hx, hfx⟩

/-- What the check of an optional value gives comes from that value. -/
lemma exists_of_mapM_eq_some {f : α → Except ε β} {o : Option α} {b : β}
    (h : o.mapM f = .ok (some b)) : ∃ a, f a = .ok b := by
  cases o with
  | none => cases h
  | some a =>
    rw [Option.mapM_some] at h
    cases hfa : f a with
    | error e =>
      rw [hfa] at h
      cases h
    | ok b' =>
      rw [hfa] at h
      cases h
      exact ⟨a, hfa⟩

end Check

namespace KeyMap

variable {α β : Type}

/-! ## Maps with other entries -/

/-- A map holds a new key and those that it held. -/
@[simp] lemma contains_insert (m : KeyMap α) (key k : String) (value : α) :
    (m.insert key value).contains k = (decide (k = key) || m.contains k) := by
  rw [contains, contains, get?_insert]
  by_cases h : k = key <;> simp [h]

/-- The map with every value replaced by its image. -/
def mapValues (f : α → β) (m : KeyMap α) : KeyMap β :=
  ⟨m.entries.map (fun e => (e.1, f e.2)), by
    rw [List.pairwise_map]
    exact m.ascending⟩

/-- What a look-up finds in a map without some of its keys. -/
@[simp] lemma get?_filterKeys (p : String → Bool) (m : KeyMap α) (k : String) :
    (m.filterKeys p).get? k = if p k = true then m.get? k else none := by
  have key : ∀ l : List (String × α),
      (l.filter (fun e => p e.1)).lookup k = if p k = true then l.lookup k else none := by
    intro l
    induction l with
    | nil => simp
    | cons e rest ih =>
      rw [List.filter_cons]
      split
      · rename_i he
        rw [lookup_cons_eq_ite, lookup_cons_eq_ite, ih]
        by_cases hk : k = e.1
        · simp [hk, he]
        · simp [hk]
      · rename_i he
        rw [ih, lookup_cons_eq_ite]
        by_cases hk : k = e.1
        · subst hk
          simp [he]
        · simp [hk]
  exact key m.entries

/-- Taking keys out and replacing values can be done in either order. -/
lemma filterKeys_mapValues (f : α → β) (p : String → Bool) (m : KeyMap α) :
    (m.mapValues f).filterKeys p = (m.filterKeys p).mapValues f := by
  apply ext_entries
  simp [filterKeys, mapValues, List.filter_map, Function.comp_def]

/-- An entry whose key is taken out need not be put in. -/
lemma filterKeys_insert_of_not {p : String → Bool} {key : String} (h : p key = false)
    (m : KeyMap α) (value : α) : (m.insert key value).filterKeys p = m.filterKeys p := by
  refine ext_get? fun k => ?_
  by_cases hk : k = key
  · subst hk
    simp [h]
  · simp [hk]

/-- An entry whose key stays can be put in before or after. -/
lemma filterKeys_insert {p : String → Bool} {key : String} (h : p key = true) (m : KeyMap α)
    (value : α) : (m.insert key value).filterKeys p = (m.filterKeys p).insert key value := by
  refine ext_get? fun k => ?_
  by_cases hk : k = key
  · subst hk
    simp [h]
  · simp [hk]

end KeyMap

namespace Section

variable {space name : String} {scope : TimeoutScope}

/-! ## Timeouts -/

/-- A length of time is taken unless it carries a minus sign. -/
lemma millis_eq_ok_iff {field : String} {d : Duration} {n : Nat} :
    millis field d = .ok n ↔ d.negative = false ∧ d.millis = n := by
  rw [millis]
  cases d.negative <;> simp

namespace Timeouts

variable {t u : Timeouts}

lemma insert_eq_ok_iff {key : String} {n : Nat} :
    t.insert key n = .ok u ↔ key ∈ t.scope.keys ∧ u = ⟨t.scope, t.values.insert key n⟩ := by
  by_cases h : key ∈ t.scope.keys
  · simp [insert, h, eq_comm]
  · simp [insert, h]

/-- The timeout of checks is taken where there is one and its scope accepts it. -/
lemma setCheck_eq_ok_iff {declared : Option Duration} :
    t.setCheck declared = .ok u ↔
      (∀ d ∈ declared, "check" ∈ t.scope.keys ∧ d.negative = false) ∧
        u = ⟨t.scope, declared.elim t.values (fun d => t.values.insert "check" d.millis)⟩ := by
  cases declared with
  | none =>
    simp only [setCheck, Except.ok.injEq, Option.elim_none]
    exact ⟨fun h => ⟨by simp, h.symm⟩, fun h => h.2.symm⟩
  | some d =>
    simp only [setCheck, Check.bind_eq_ok_iff, millis_eq_ok_iff, insert_eq_ok_iff]
    simp only [Option.mem_def, Option.some.injEq, forall_eq', Option.elim_some]
    constructor
    · rintro ⟨n, ⟨hd, rfl⟩, hkey, rfl⟩
      exact ⟨⟨hkey, hd⟩, rfl⟩
    · rintro ⟨⟨hkey, hd⟩, rfl⟩
      exact ⟨_, ⟨hd, rfl⟩, hkey, rfl⟩

/-- Setting timeouts one after another. -/
lemma foldlM_insert_eq_ok_iff {l : List (String × Duration)} :
    l.foldlM (fun t e => do t.insert e.1 (← millis ("timeout " ++ e.1) e.2)) t = .ok u ↔
      (∀ e ∈ l, e.1 ∈ t.scope.keys ∧ e.2.negative = false) ∧
        u = ⟨t.scope, l.foldl (fun m e => m.insert e.1 e.2.millis) t.values⟩ := by
  induction l generalizing t with
  | nil =>
    simp only [List.foldlM_nil, Check.pure_eq_ok_iff, List.foldl_nil]
    exact ⟨fun h => ⟨by simp, h.symm⟩, fun h => h.2.symm⟩
  | cons e rest ih =>
    simp only [List.foldlM_cons, Check.bind_eq_ok_iff, millis_eq_ok_iff, insert_eq_ok_iff,
      List.forall_mem_cons, List.foldl_cons]
    constructor
    · rintro ⟨v, ⟨n, ⟨hneg, rfl⟩, hkey, rfl⟩, hrest⟩
      obtain ⟨hall, rfl⟩ := ih.1 hrest
      exact ⟨⟨⟨hkey, hneg⟩, hall⟩, rfl⟩
    · rintro ⟨⟨⟨hkey, hneg⟩, hall⟩, rfl⟩
      exact ⟨_, ⟨_, ⟨hneg, rfl⟩, hkey, rfl⟩, ih.2 ⟨hall, rfl⟩⟩

/-- **Which timeouts a scope takes, and what they become.** -/
lemma ofSpec_eq_ok_iff {declared : KeyMap Duration} :
    ofSpec scope declared = .ok t ↔
      (∀ e ∈ declared.entries, e.1 ∈ scope.keys ∧ e.2.negative = false) ∧
        t = ⟨scope, declared.mapValues Duration.millis⟩ := by
  have hfold : declared.entries.foldl (fun m e => m.insert e.1 e.2.millis) KeyMap.empty =
      declared.mapValues Duration.millis := by
    rw [← KeyMap.ofList_entries (declared.mapValues Duration.millis)]
    simp [KeyMap.ofList, KeyMap.mapValues, List.foldl_map]
  rw [ofSpec, foldlM_insert_eq_ok_iff]
  simp [empty, hfold]

/-- Declared timeouts, which the timeout of checks joins. -/
def ofDeclared (scope : TimeoutScope) (declared : KeyMap Duration) (check : Option Duration) :
    Except Fault Timeouts := do
  (← ofSpec scope declared).setCheck check

/-- What timeouts become that the timeout of checks has joined. -/
lemma ofDeclared_eq_ok_iff {declared : KeyMap Duration} {check : Option Duration} :
    ofDeclared scope declared check = .ok t ↔
      (∀ e ∈ declared.entries, e.1 ∈ scope.keys ∧ e.2.negative = false) ∧
        (∀ d ∈ check, "check" ∈ scope.keys ∧ d.negative = false) ∧
        t = ⟨scope, check.elim (declared.mapValues Duration.millis)
          (fun d => (declared.mapValues Duration.millis).insert "check" d.millis)⟩ := by
  simp only [ofDeclared, Check.bind_eq_ok_iff, ofSpec_eq_ok_iff, setCheck_eq_ok_iff]
  constructor
  · rintro ⟨u, ⟨hall, rfl⟩, hcheck, rfl⟩
    exact ⟨hall, hcheck, rfl⟩
  · rintro ⟨hall, hcheck, rfl⟩
    exact ⟨_, ⟨hall, rfl⟩, hcheck, rfl⟩

end Timeouts

/-! ## Sections -/

/-- The rules on requests, none if they were left out. -/
def HttpRule.ofOptional (space : String) (rules : Option Spec.HttpRules) :
    Except Fault (List HttpRule) :=
  rules.elim (.ok []) (HttpRule.ofSpec space)

/-- What comes out of the checks of shared settings that do not look at timeouts. -/
structure Base.Agrees (space : String) (b : Spec.Base) (s : Base) : Prop where
  mode : Mode.ofName (b.mode.getD "") = .ok s.mode
  acls : b.acls.mapM Acl.ofSpec = .ok s.acls
  tcpRules : b.tcpRequest.mapM TcpRule.ofSpec = .ok s.tcpRules
  httpRules : HttpRule.ofOptional space b.httpRequest = .ok s.httpRules
  errorFiles : b.errorFiles.mapM (ErrorFile.ofSpec space) = .ok s.errorFiles
  forwardFor : b.forwardFor.bind ForwardFor.ofSpec = s.forwardFor
  pretendKeepalive : b.pretendKeepalive.getD false = s.pretendKeepalive

/-- **Timeouts are checked apart from the other settings.** -/
lemma Base.ofSpec_eq_ok_iff {b : Spec.Base} {s : Base} :
    Base.ofSpec space scope b = .ok s ↔
      Timeouts.ofSpec scope b.timeouts = .ok s.timeouts ∧ Base.Agrees space b s := by
  have hrules : Base.ofSpec space scope b = (do
      let mode ← Mode.ofName (b.mode.getD "")
      let timeouts ← Timeouts.ofSpec scope b.timeouts
      let acls ← b.acls.mapM Acl.ofSpec
      let tcpRules ← b.tcpRequest.mapM TcpRule.ofSpec
      let httpRules ← HttpRule.ofOptional space b.httpRequest
      let errorFiles ← b.errorFiles.mapM (ErrorFile.ofSpec space)
      return ⟨mode, b.forwardFor.bind ForwardFor.ofSpec, b.pretendKeepalive.getD false, timeouts,
        acls, tcpRules, httpRules, errorFiles⟩) := by
    rw [Base.ofSpec]
    cases b.httpRequest <;> rfl
  rw [hrules]
  simp only [Check.bind_eq_ok_iff, Check.pure_eq_ok_iff]
  constructor
  · rintro ⟨mode, hmode, timeouts, htimeouts, acls, hacls, tcp, htcp, http, hhttp, errors, herrors,
      rfl⟩
    exact ⟨htimeouts, hmode, hacls, htcp, hhttp, herrors, rfl, rfl⟩
  · rintro ⟨htimeouts, h⟩
    refine ⟨_, h.mode, _, htimeouts, _, h.acls, _, h.tcpRules, _, h.httpRules, _, h.errorFiles, ?_⟩
    rw [h.forwardFor, h.pretendKeepalive]

/-- A frontend. -/
lemma Frontend.ofSpec_eq_ok_iff {f : Spec.Frontend} {s : Frontend} :
    Frontend.ofSpec space name f = .ok s ↔
      Base.ofSpec space .frontend f.base = .ok s.base ∧
        f.binds.mapM (Bind.ofSpec space) = .ok s.binds ∧
        f.switching.mapM SwitchingRule.ofSpec = .ok s.switching ∧
        s.name = name ∧ s.defaultBackend = nonEmpty f.defaultBackend.name := by
  simp only [Frontend.ofSpec, Check.bind_eq_ok_iff, Check.pure_eq_ok_iff]
  constructor
  · rintro ⟨base, hbase, binds, hbinds, rules, hrules, rfl⟩
    exact ⟨hbase, hbinds, hrules, rfl, rfl⟩
  · rintro ⟨hbase, hbinds, hrules, hname, hdefault⟩
    refine ⟨_, hbase, _, hbinds, _, hrules, ?_⟩
    rw [← hname, ← hdefault]

/-- The checks of the settings of a pool, wherever it is declared. -/
def Pool.ofDeclared (space : String) (servers : List Spec.Server)
    (templates : List Spec.ServerTemplate) (balance : Option Spec.Balance)
    (hashType : Option Spec.HashType) (redispatch : Option Bool) (cookie : Option Spec.Cookie)
    (http : Option Spec.HttpCheck) (tcp : Option Bool) : Except Fault Pool := do
  let servers ← servers.mapM (Server.ofSpec space)
  let templates ← templates.mapM (ServerTemplate.ofSpec space)
  let cookie ← cookie.mapM Cookie.ofSpec
  return {
    servers
    templates
    balance := balanceOf balance
    hashType := hashType.map HashType.ofSpec
    redispatch := redispatch.getD false
    cookie
    healthCheck := HealthCheck.ofSpec http tcp }

/-- Shared settings that the timeout of checks has joined. -/
lemma Base.exists_setCheck_iff {b : Spec.Base} {check : Option Duration} {s : Base} :
    (∃ base, Base.ofSpec space scope b = .ok base ∧
      base.timeouts.setCheck check = .ok s.timeouts ∧ { base with timeouts := s.timeouts } = s) ↔
    Timeouts.ofDeclared scope b.timeouts check = .ok s.timeouts ∧ Base.Agrees space b s := by
  simp only [Timeouts.ofDeclared, Check.bind_eq_ok_iff, Base.ofSpec_eq_ok_iff]
  constructor
  · rintro ⟨base, ⟨htimeouts, h⟩, hcheck, hs⟩
    refine ⟨⟨_, htimeouts, hcheck⟩, ?_⟩
    rw [← hs]
    exact ⟨h.mode, h.acls, h.tcpRules, h.httpRules, h.errorFiles, h.forwardFor,
      h.pretendKeepalive⟩
  · rintro ⟨⟨t, htimeouts, hcheck⟩, h⟩
    exact ⟨{ s with timeouts := t }, ⟨htimeouts, h.mode, h.acls, h.tcpRules, h.httpRules,
      h.errorFiles, h.forwardFor, h.pretendKeepalive⟩, hcheck, rfl⟩

/-- A backend. -/
lemma Backend.ofSpec_eq_ok_iff {b : Spec.Backend} {s : Backend} :
    Backend.ofSpec space name b = .ok s ↔
      (Timeouts.ofDeclared .backend b.base.timeouts b.checkTimeout = .ok s.base.timeouts ∧
        Base.Agrees space b.base s.base) ∧
      Pool.ofDeclared space b.servers b.templates b.balance b.hashType b.redispatch b.cookie
        b.httpCheck b.tcpCheck = .ok s.pool ∧
      b.hostCertificate.mapM (CertificateElement.ofSpec space) = .ok s.hostCertificate ∧
      s.name = name ∧ s.hostRegex = nonEmpty b.hostRegex := by
  rw [← Base.exists_setCheck_iff]
  simp only [Backend.ofSpec, Pool.ofDeclared, Check.bind_eq_ok_iff, Check.pure_eq_ok_iff]
  constructor
  · rintro ⟨base, hbase, timeouts, htimeouts, servers, hservers, templates, htemplates, cookie,
      hcookie, host, hhost, rfl⟩
    exact ⟨⟨base, hbase, htimeouts, rfl⟩, ⟨servers, hservers, templates, htemplates, cookie,
      hcookie, rfl⟩, hhost, rfl, rfl⟩
  · rintro ⟨⟨base, hbase, htimeouts, hs⟩, ⟨servers, hservers, templates, htemplates, cookie,
      hcookie, hpool⟩, hhost, hname, hregex⟩
    refine ⟨base, hbase, _, htimeouts, servers, hservers, templates, htemplates, cookie, hcookie,
      _, hhost, ?_⟩
    rw [hs, hpool, ← hname, ← hregex]

/-- A listen. -/
lemma Listen.ofSpec_eq_ok_iff {l : Spec.Listen} {s : Listen} :
    Listen.ofSpec space name l = .ok s ↔
      (Timeouts.ofDeclared .listen l.base.timeouts l.checkTimeout = .ok s.base.timeouts ∧
        Base.Agrees space l.base s.base) ∧
      l.binds.mapM (Bind.ofSpec space) = .ok s.binds ∧
      Pool.ofDeclared space l.servers l.templates l.balance l.hashType l.redispatch l.cookie
        l.httpCheck l.tcpCheck = .ok s.pool ∧
      l.hostCertificate.mapM (CertificateElement.ofSpec space) = .ok s.hostCertificate ∧
      s.name = name := by
  rw [← Base.exists_setCheck_iff]
  simp only [Listen.ofSpec, Pool.ofDeclared, Check.bind_eq_ok_iff, Check.pure_eq_ok_iff]
  constructor
  · rintro ⟨base, hbase, timeouts, htimeouts, binds, hbinds, servers, hservers, templates,
      htemplates, cookie, hcookie, host, hhost, rfl⟩
    exact ⟨⟨base, hbase, htimeouts, rfl⟩, hbinds, ⟨servers, hservers, templates, htemplates,
      cookie, hcookie, rfl⟩, hhost, rfl⟩
  · rintro ⟨⟨base, hbase, htimeouts, hs⟩, hbinds, ⟨servers, hservers, templates, htemplates,
      cookie, hcookie, hpool⟩, hhost, hname⟩
    refine ⟨base, hbase, _, htimeouts, _, hbinds, servers, hservers, templates, htemplates, cookie,
      hcookie, _, hhost, ?_⟩
    rw [hs, hpool, ← hname]

end Section

end ProxyFleet
