import Mathlib
import ProxyFleet.Proofs.Checks
import ProxyFleet.Proofs.Plain

/-!
# The halves of a listen

A listen stands for a frontend and a backend under one name.  This file declares the two halves as
records of their own, checked on their own, and compares them with the halves of the listen that
was checked once.

**Timeouts.**  A listen accepts the timeouts that one of its halves accepts (`mem_listen_keys`).
Projecting what a listen makes of its timeouts gives what each half makes of those that it accepts
(`Timeouts.project_frontend`, `Timeouts.project_backend`); the timeout of checks goes to the
backend alone.

**Halves.**  `Listen.ofSpec_frontendHalf` and `Listen.ofSpec_backendHalf` take an accepted listen
apart, and `Listen.exists_ofSpec_of_halves` puts one together.

Main statement: `Listen.ofSpec_iff_halves`.
-/

namespace ProxyFleet

namespace Spec

/-- The shared settings with no timeouts but those that a scope accepts. -/
def Base.withTimeoutsOf (b : Base) (scope : Section.TimeoutScope) : Base :=
  { b with timeouts := b.timeouts.filterKeys (fun key => scope.keys.contains key) }

/-- The frontend that a listen declares: it listens where the listen does, and sends everything to
the backend of the same name. -/
def Listen.frontendHalf (l : Listen) (name : String) : Frontend :=
  ⟨l.base.withTimeoutsOf .frontend, l.binds, [], ⟨name⟩⟩

/-- The backend that a listen declares. -/
def Listen.backendHalf (l : Listen) : Backend where
  base := l.base.withTimeoutsOf .backend
  checkTimeout := l.checkTimeout
  servers := l.servers
  templates := l.templates
  balance := l.balance
  hostRegex := ""
  hostCertificate := l.hostCertificate
  redispatch := l.redispatch
  hashType := l.hashType
  cookie := l.cookie
  httpCheck := l.httpCheck
  tcpCheck := l.tcpCheck

end Spec

namespace Section

variable {space name : String}

/-! ## Timeouts of the halves -/

/-- A listen accepts what one of its halves accepts. -/
lemma mem_listen_keys {key : String} :
    key ∈ TimeoutScope.listen.keys ↔
      key ∈ TimeoutScope.frontend.keys ∨ key ∈ TimeoutScope.backend.keys := by
  simp only [TimeoutScope.keys, List.mem_cons, List.not_mem_nil, or_false]
  tauto

namespace Timeouts

variable {declared : KeyMap Duration} {check : Option Duration} {t : Timeouts}

/-- The declared timeouts that a scope accepts. -/
lemma forall_mem_filterKeys {scope : TimeoutScope} {P : String × Duration → Prop} :
    (∀ e ∈ (declared.filterKeys (fun key => scope.keys.contains key)).entries,
      e.1 ∈ scope.keys ∧ P e) ↔ ∀ e ∈ declared.entries, e.1 ∈ scope.keys → P e := by
  simp only [KeyMap.filterKeys, List.mem_filter, List.contains_iff_mem]
  constructor
  · intro h e he hkey
    exact (h e ⟨he, hkey⟩).2
  · rintro h e ⟨he, hkey⟩
    exact ⟨hkey, h e he hkey⟩

/-- The frontend makes of its timeouts what the listen made of them.  The timeout of checks is not
among them. -/
lemma project_frontend (h : ofDeclared .listen declared check = .ok t) :
    ofSpec .frontend (declared.filterKeys (fun key => TimeoutScope.frontend.keys.contains key)) =
      .ok (t.project .frontend) := by
  obtain ⟨hall, -, rfl⟩ := ofDeclared_eq_ok_iff.1 h
  rw [ofSpec_eq_ok_iff, forall_mem_filterKeys]
  refine ⟨fun e he _ => (hall e he).2, ?_⟩
  have hcheck : TimeoutScope.frontend.keys.contains "check" = false := by decide
  cases check with
  | none => rw [project, Option.elim_none, KeyMap.filterKeys_mapValues]
  | some d =>
    rw [project, Option.elim_some, KeyMap.filterKeys_insert_of_not hcheck,
      KeyMap.filterKeys_mapValues]

/-- The backend makes of its timeouts what the listen made of them, the timeout of checks among
them. -/
lemma project_backend (h : ofDeclared .listen declared check = .ok t) :
    ofDeclared .backend (declared.filterKeys (fun key => TimeoutScope.backend.keys.contains key))
      check = .ok (t.project .backend) := by
  obtain ⟨hall, hcheck, rfl⟩ := ofDeclared_eq_ok_iff.1 h
  have hkey : TimeoutScope.backend.keys.contains "check" = true := by decide
  rw [ofDeclared_eq_ok_iff, forall_mem_filterKeys]
  refine ⟨fun e he _ => (hall e he).2, fun d hd => ⟨by decide, (hcheck d hd).2⟩, ?_⟩
  cases check with
  | none => rw [project, Option.elim_none, Option.elim_none, KeyMap.filterKeys_mapValues]
  | some d =>
    rw [project, Option.elim_some, Option.elim_some, KeyMap.filterKeys_insert hkey,
      KeyMap.filterKeys_mapValues]

/-- A listen takes its timeouts when each half takes those that it accepts and no half is left
without one that is declared. -/
lemma exists_listen_of_halves {u v : Timeouts}
    (hf : ofSpec .frontend
      (declared.filterKeys (fun key => TimeoutScope.frontend.keys.contains key)) = .ok u)
    (hb : ofDeclared .backend
      (declared.filterKeys (fun key => TimeoutScope.backend.keys.contains key)) check = .ok v)
    (hkeys : ∀ key ∈ declared.keys,
      key ∈ TimeoutScope.frontend.keys ∨ key ∈ TimeoutScope.backend.keys) :
    ∃ t, ofDeclared .listen declared check = .ok t := by
  rw [ofSpec_eq_ok_iff, forall_mem_filterKeys] at hf
  rw [ofDeclared_eq_ok_iff, forall_mem_filterKeys] at hb
  refine ⟨_, ofDeclared_eq_ok_iff.2 ⟨fun e he => ?_, fun d hd => ⟨by decide, ?_⟩, rfl⟩⟩
  · have hkey := hkeys e.1 (List.mem_map_of_mem he)
    refine ⟨mem_listen_keys.2 hkey, ?_⟩
    rcases hkey with hkey | hkey
    · exact hf.1 e he hkey
    · exact hb.1 e he hkey
  · exact (hb.2.1 d hd).2

end Timeouts

/-! ## Halves -/

/-- Which timeouts are declared or held does not matter to the other settings. -/
lemma Base.Agrees.of_timeouts {b : Spec.Base} {s : Base} (h : Base.Agrees space b s)
    (declared : KeyMap Duration) (t : Timeouts) :
    Base.Agrees space { b with timeouts := declared } { s with timeouts := t } :=
  ⟨h.mode, h.acls, h.tcpRules, h.httpRules, h.errorFiles, h.forwardFor, h.pretendKeepalive⟩

namespace Listen

variable {l : Spec.Listen} {s : Listen}

/-- The half of an accepted listen that listens is what its frontend becomes. -/
lemma ofSpec_frontendHalf (hname : name ≠ "") (h : ofSpec space name l = .ok s) :
    Frontend.ofSpec space name (l.frontendHalf name) = .ok s.frontend := by
  obtain ⟨⟨htimeouts, hbase⟩, hbinds, -, -, rfl⟩ := ofSpec_eq_ok_iff.1 h
  rw [Frontend.ofSpec_eq_ok_iff, Base.ofSpec_eq_ok_iff]
  refine ⟨⟨Timeouts.project_frontend htimeouts, hbase.of_timeouts _ _⟩, hbinds, rfl, rfl, ?_⟩
  simp [frontend, Spec.Listen.frontendHalf, nonEmpty, hname]

/-- The half of an accepted listen that serves is what its backend becomes, apart from the host
certificate. -/
lemma ofSpec_backendHalf (h : ofSpec space name l = .ok s) :
    Backend.ofSpec space name l.backendHalf =
      .ok { s.backend with hostCertificate := s.hostCertificate } := by
  obtain ⟨⟨htimeouts, hbase⟩, -, hpool, hhost, rfl⟩ := ofSpec_eq_ok_iff.1 h
  rw [Backend.ofSpec_eq_ok_iff]
  exact ⟨⟨Timeouts.project_backend htimeouts, hbase.of_timeouts _ _⟩, hpool, hhost, rfl, rfl⟩

/-- A listen is accepted when both halves are and neither lacks a timeout that is declared. -/
lemma exists_ofSpec_of_halves {f : Frontend} {b : Backend}
    (hf : Frontend.ofSpec space name (l.frontendHalf name) = .ok f)
    (hb : Backend.ofSpec space name l.backendHalf = .ok b)
    (hkeys : ∀ key ∈ l.base.timeouts.keys,
      key ∈ TimeoutScope.frontend.keys ∨ key ∈ TimeoutScope.backend.keys) :
    ∃ s, ofSpec space name l = .ok s := by
  rw [Frontend.ofSpec_eq_ok_iff, Base.ofSpec_eq_ok_iff] at hf
  rw [Backend.ofSpec_eq_ok_iff] at hb
  obtain ⟨⟨hft, -⟩, hbinds, -⟩ := hf
  obtain ⟨⟨hbt, hbase⟩, hpool, hhost, -⟩ := hb
  obtain ⟨t, ht⟩ := Timeouts.exists_listen_of_halves hft hbt hkeys
  exact ⟨⟨name, { b.base with timeouts := t }, f.binds, b.pool, b.hostCertificate⟩,
    ofSpec_eq_ok_iff.2 ⟨⟨ht, hbase.of_timeouts _ _⟩, hbinds, hpool, hhost, rfl⟩⟩

/-- **A listen is its two halves.**  It is accepted exactly when the frontend and the backend that
it declares are, each with the timeouts that it accepts, and every timeout belongs to one of them.
Its two sections are then the sections of that frontend and of that backend. -/
theorem ofSpec_iff_halves (space : String) {name : String} (hname : name ≠ "")
    (l : Spec.Listen) :
    ((∃ s, ofSpec space name l = .ok s) ↔
      (∃ f, Frontend.ofSpec space name (l.frontendHalf name) = .ok f) ∧
      (∃ b, Backend.ofSpec space name l.backendHalf = .ok b) ∧
      ∀ key ∈ l.base.timeouts.keys,
        key ∈ TimeoutScope.frontend.keys ∨ key ∈ TimeoutScope.backend.keys) ∧
    ∀ s, ofSpec space name l = .ok s →
      ∃ f b, Frontend.ofSpec space name (l.frontendHalf name) = .ok f ∧
        Backend.ofSpec space name l.backendHalf = .ok b ∧
        s.frontend.fragment = f.fragment ∧ s.backend.fragment = b.fragment := by
  have hhalves : ∀ s, ofSpec space name l = .ok s →
      ∃ f b, Frontend.ofSpec space name (l.frontendHalf name) = .ok f ∧
        Backend.ofSpec space name l.backendHalf = .ok b ∧
        s.frontend.fragment = f.fragment ∧ s.backend.fragment = b.fragment := fun s hs =>
    ⟨_, _, ofSpec_frontendHalf hname hs, ofSpec_backendHalf hs, rfl, rfl⟩
  refine ⟨⟨?_, ?_⟩, hhalves⟩
  · rintro ⟨s, hs⟩
    obtain ⟨f, b, hf, hb, -⟩ := hhalves s hs
    obtain ⟨⟨htimeouts, -⟩, -⟩ := ofSpec_eq_ok_iff.1 hs
    refine ⟨⟨f, hf⟩, ⟨b, hb⟩, fun key hkey => ?_⟩
    obtain ⟨e, he, rfl⟩ := List.mem_map.1 hkey
    exact mem_listen_keys.1 ((Timeouts.ofDeclared_eq_ok_iff.1 htimeouts).1 e he).1
  · rintro ⟨⟨f, hf⟩, ⟨b, hb⟩, hkeys⟩
    exact exists_ofSpec_of_halves hf hb hkeys

/-- The timeout of checks goes to the backend, in place of a declared one, and the timeouts of
clients and servers to one half each. -/
theorem ofSpec_iff_halves_check_timeout :
    let l : Spec.Listen :=
      { Spec.Listen.none with
        base := { Spec.Base.none with
          timeouts := .ofList [("check", .ofSeconds 2 0), ("client", .ofSeconds 1 0),
            ("server", .ofSeconds 3 0)] }
        binds := [{ Spec.Bind.encrypted (.withCertificate ⟨"web", some "pem", []⟩) none with
          port := 8443 }]
        checkTimeout := some (.ofSeconds 5 0) }
    "web" ≠ "" ∧ ∃ s f b, ofSpec "edge" "web" l = .ok s ∧
      Frontend.ofSpec "edge" "web" (l.frontendHalf "web") = .ok f ∧
      Backend.ofSpec "edge" "web" l.backendHalf = .ok b ∧
      s.frontend.fragment = f.fragment ∧ s.backend.fragment = b.fragment ∧
      s.frontend.fragment.statements = ["timeout client 1000",
        "bind :8443 crt /usr/local/etc/haproxy/web.crt ssl", "default_backend web"] ∧
      s.backend.fragment.statements = ["timeout check 5000", "timeout server 3000"] := by
  intro l
  have hname : "web" ≠ "" := by decide
  have heval : (ofSpec "edge" "web" l).toOption.map
      (fun s => (s.frontend.fragment.statements, s.backend.fragment.statements)) =
      some (["timeout client 1000", "bind :8443 crt /usr/local/etc/haproxy/web.crt ssl",
        "default_backend web"], ["timeout check 5000", "timeout server 3000"]) := by cbv
  cases hs : ofSpec "edge" "web" l with
  | error e =>
    rw [hs] at heval
    cases heval
  | ok s =>
    rw [hs] at heval
    obtain ⟨f, b, hf, hb, hfront, hback⟩ := (ofSpec_iff_halves "edge" hname l).2 s hs
    injection heval with heval
    injection heval with hfe hbe
    exact ⟨hname, s, f, b, rfl, hf, hb, hfront, hback, hfe, hbe⟩

end Listen

end Section

end ProxyFleet
