import ProxyFleet.Proofs.KeptValues

/-!
# Reads of a pass

What a pass reads from its store, in which order, and in which namespaces.

**Runs.**  A pass that has taken up its records reads what they need, as far as it comes
(`Pass.made_of_prepare`).

**References.**  A value that is given in place refers to nothing, and only external references of
certificates name a namespace of their own (`Spec.Kept.of_mem_refs`).

Main statement: `Pass.reads_in_order`.
-/

namespace ProxyFleet

open Spec (Kept)

/-! ## References -/

namespace Spec.Kept

/-- Whether a value is given in place, so that nothing has to be read for it. -/
def inPlace : Kept → Bool
  | .certificate c => c.value.isSome
  | .page p => p.value.isSome
  | .header v => ((v.env.bind (·.source)).bind (·.secretKey)).isNone

variable {space : String} {ref : StoreRef}

/-- Whether a reference is an external one of a certificate, which points to a secret. -/
def IsExternal (k : Kept) (ref : StoreRef) : Prop :=
  ∃ c s x, k = .certificate c ∧ s ∈ c.sources ∧ s.externalSecretKey = some x ∧
    ref = ⟨.secret, x.space, x.name, x.key⟩

lemma of_mem_refsOf {c : Certificate} {s : CertificateSource} (hs : s ∈ c.sources)
    (h : ref ∈ Section.Certificate.refsOf space s) :
    ref.space = space ∨ IsExternal (.certificate c) ref := by
  simp only [Section.Certificate.refsOf, List.mem_append, List.mem_map, Option.mem_toList] at h
  rcases h with (⟨r, -, rfl⟩ | ⟨r, -, rfl⟩) | ⟨x, hx, rfl⟩
  · exact .inl rfl
  · exact .inl rfl
  · exact .inr ⟨c, s, x, rfl, hs, hx, rfl⟩

/-- **Where references point.** -/
lemma of_mem_refs {k : Kept} (h : ref ∈ k.refs space) :
    k.inPlace = false ∧ (ref.space = space ∨ k.IsExternal ref) := by
  cases k with
  | certificate c =>
    rw [refs] at h
    split at h
    · cases h
    · rename_i hvalue
      obtain ⟨s, hs, href⟩ := List.mem_flatMap.1 h
      exact ⟨by simp [inPlace, hvalue], of_mem_refsOf hs href⟩
  | page p =>
    rw [refs] at h
    split at h
    · cases h
    · rename_i hvalue
      obtain ⟨r, -, rfl⟩ := List.mem_map.1 h
      exact ⟨by simp [inPlace, hvalue], .inl rfl⟩
  | header v =>
    obtain ⟨r, hr, rfl⟩ := List.mem_map.1 h
    exact ⟨by simp [inPlace, Option.mem_toList.1 hr], .inl rfl⟩

end Spec.Kept

/-! ## Runs -/

namespace Pass

variable {cancel : Cancellation} {i : InstanceRecord} {records : Records}

/-- **A pass that has taken up its records reads what they need**, as far as it comes. -/
lemma made_of_prepare (store : Store) {content : Section.Instance} {fleet : Fleet}
    (h : prepare cancel i records = .ok (content, fleet)) :
    ∃ made, (run store cancel i records).reads = made.map (·.ref) ∧
      Reading.Made (fleet.demands (instanceRef i) content) made
        (run store cancel i records).result := by
  have hasks : Reading.Asks (fleet.demands (instanceRef i) content)
      (Reading.tasks store cancel (SideFile.tasks (instanceRef i) content fleet)) := by
    rw [← SideFile.demands_tasks]
    exact Reading.asks_tasks _
  obtain ⟨made, hreads, hmade⟩ := hasks (Course.afterFleet fleet)
  rw [run_of_prepare h]
  rcases hwork : Reading.exec (Reading.tasks store cancel
    (SideFile.tasks (instanceRef i) content fleet)) (Course.afterFleet fleet) with ⟨e | p, course⟩
  · rw [hwork] at hreads hmade
    refine ⟨made, hreads, hmade.front, fun _ hok => ?_, fun record fault hlookup => ?_⟩
    · cases hok
    · cases hlookup
      exact hmade.last record fault rfl
  · rw [hwork] at hreads hmade
    refine ⟨made, hreads, hmade.front, fun _ _ => hmade.all p rfl, fun _ _ hlookup => ?_⟩
    cases hlookup

/-- **What a pass reads.**  One that fails before it has taken up all records reads nothing.  Any
other wants the values that its sections refer to, which are those that its records need: those of
the instance, and then those of the sorted listens, frontends and backends, with the host
certificates of the selected backends in the lists of the frontends.  It reads all of them, once for
each time that they are needed and in this order, if it succeeds.  If it fails, it reads the first
ones, and a value that could not be had is the last one read.  Nothing is read for a value that is
given in place, and nothing outside the namespace of the instance, but for secrets that external
references of certificates point to. -/
theorem reads_in_order (store : Store) (cancel : Cancellation) (i : InstanceRecord)
    (records : Records) :
    let o := run store cancel i records
    let owner := instanceRef i
    let needs := records.sorted.needs i
    (∀ e, prepare cancel i records = .error e → o.result = .error e ∧ o.reads = []) ∧
    (∀ content fleet, prepare cancel i records = .ok (content, fleet) →
      let wanted := fleet.demands owner content
      wanted = needs.flatMap (Need.demands owner.space) ∧
      (∀ set, o.result = .ok set → o.reads = wanted.map (·.ref)) ∧
      (∀ e, o.result = .error e → o.reads <+: wanted.map (·.ref)) ∧
      (∀ record fault, o.result = .error (.lookup record fault) →
        o.reads.getLast? = some fault.ref)) ∧
    (∀ n ∈ needs, ∀ ref ∈ n.value.refs owner.space,
      n.value.inPlace = false ∧ (ref.space = owner.space ∨ n.value.IsExternal ref)) := by
  intro o owner needs
  refine ⟨fun e he => ?_, fun content fleet hprepare => ?_, fun n _ ref href =>
    Kept.of_mem_refs href⟩
  · have hrun : o = _ := run_of_prepare_error he
    rw [hrun]
    exact ⟨rfl, rfl⟩
  · obtain ⟨made, hreads, hmade⟩ := made_of_prepare store hprepare
    refine ⟨demands_eq hprepare, fun set hset => ?_, fun e _ => ?_, fun record fault hlookup => ?_⟩
    · rw [hreads, hmade.all set hset]
    · rw [hreads]
      exact hmade.front.map _
    · rw [hreads, List.getLast?_map, hmade.last record fault hlookup]
      rfl

/-- The certificate of the frontend is read, and then that of the backend which it selects. -/
theorem reads_in_order_selected_backend :
    let store : Store := fun r => .ok (some (Text.utf8 r.name))
    let i : InstanceRecord := .plain (some "edge") "fleet" .none
    let records : Records := ⟨[], [hostsFrontend], [hostedBackend "pool" "shop"], []⟩
    let o := run store .never i records
    o.result.isOk = true ∧
      o.reads = [⟨.secret, "vault", "web", "pem"⟩, ⟨.secret, "edge", "tls-pool", "pem"⟩] := by
  intro store i records o
  have hok : o.result.isOk = true := by decide +kernel
  have hneeded : ((records.sorted.needs i).flatMap (Need.demands (instanceRef i).space)).map
      (·.ref) = [⟨.secret, "vault", "web", "pem"⟩, ⟨.secret, "edge", "tls-pool", "pem"⟩] := by
    decide +kernel
  obtain ⟨-, hprepared, -⟩ := reads_in_order store .never i records
  refine ⟨hok, ?_⟩
  cases hset : o.result with
  | error e =>
    rw [hset] at hok
    cases hok
  | ok set =>
    obtain ⟨content, fleet, -, -, hprepare, -⟩ := run_eq_ok hset
    obtain ⟨hwanted, hsucceeded, -⟩ := hprepared content fleet hprepare
    rw [hsucceeded set hset, hwanted, hneeded]

end Pass

end ProxyFleet
