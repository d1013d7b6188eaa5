import ProxyFleet.Proofs.ListenHalves

/-!
# Timeouts through insertions and projections

Timeouts start out empty for a scope.  An insertion sets one of them, unless the scope does not know
its name, and a projection goes over to another scope and drops what that one does not know.

**Steps.**  `Timeouts.get?_step` says what stands under a name after one step.  No step leaves a
timeout that its scope does not accept (`Timeouts.accepted_run`).

**History.**  `Timeouts.get?_run_eq_some_iff` tells from the steps alone what stands under a name:
the number of its last insertion, if the scope of that moment accepts the name and so does the scope
of every later projection.

**Lists.**  Timeouts that are accepted are listed once each, in the order of their scope
(`Timeouts.map_fst_toList`), and a projection takes away from the list what it does not accept
(`Timeouts.mem_toList_project`).

Main statement: `Timeouts.run_keeps_accepted`.
-/

namespace ProxyFleet

lemma KeyMap.mem_keys {α : Type} {m : KeyMap α} {key : String} :
    key ∈ m.keys ↔ (m.get? key).isSome = true := by
  simp only [keys, List.mem_map, Option.isSome_iff_exists, get?_eq_some_iff]
  constructor
  · rintro ⟨e, he, rfl⟩
    exact ⟨e.2, he⟩
  · rintro ⟨v, hv⟩
    exact ⟨_, hv, rfl⟩

lemma KeyMap.nodup_keys {α : Type} (m : KeyMap α) : m.keys.Nodup := by
  rw [keys, List.Nodup, List.pairwise_map]
  exact m.ascending.imp fun hlt => ne_of_lt hlt

namespace Section

lemma TimeoutScope.nodup_keys (scope : TimeoutScope) : scope.keys.Nodup := by
  cases scope <;> decide

namespace Timeouts

/-! ## Steps -/

/-- What can be done to timeouts. -/
inductive Step
  | insert (key : String) (millis : Nat)
  | project (scope : TimeoutScope)
  deriving DecidableEq

/-- The timeouts after a step.  An insertion that is refused leaves them as they are. -/
def step (t : Timeouts) : Step → Timeouts
  | .insert key millis =>
    match t.insert key millis with
    | .ok u => u
    | .error _ => t
  | .project scope => t.project scope

/-- The timeouts after a row of steps. -/
def run (t : Timeouts) (steps : List Step) : Timeouts := steps.foldl step t

variable {t : Timeouts} {scope : TimeoutScope} {steps : List Step} {key : String} {millis : Nat}

@[simp] lemma run_append_singleton (t : Timeouts) (steps : List Step) (s : Step) :
    t.run (steps ++ [s]) = (t.run steps).step s := by
  simp [run]

@[simp] lemma step_insert_of_not_mem (h : key ∉ t.scope.keys) :
    t.step (.insert key millis) = t := by
  simp [step, insert, h]

@[simp] lemma scope_step (t : Timeouts) (s : Step) :
    (t.step s).scope = match s with
      | .insert _ _ => t.scope
      | .project scope => scope := by
  cases s with
  | insert key millis => by_cases h : key ∈ t.scope.keys <;> simp [step, insert, h]
  | project scope => rfl

@[simp] lemma get?_project (t : Timeouts) (scope : TimeoutScope) (key : String) :
    (t.project scope).get? key = if key ∈ scope.keys then t.get? key else none := by
  simp [project, get?]

/-- **What stands under a name after a step.** -/
lemma get?_step (t : Timeouts) (s : Step) (key : String) :
    (t.step s).get? key = match s with
      | .insert k millis => if key = k ∧ k ∈ t.scope.keys then some millis else t.get? key
      | .project scope => if key ∈ scope.keys then t.get? key else none := by
  cases s with
  | insert k millis =>
    by_cases h : k ∈ t.scope.keys
    · simp [step, insert, h, get?]
    · simp [h]
  | project scope => exact get?_project t scope key

/-- Whether every timeout is one that the scope accepts. -/
def Accepted (t : Timeouts) : Prop := ∀ key millis, t.get? key = some millis → key ∈ t.scope.keys

/-- No step leaves a timeout that the scope does not accept. -/
lemma Accepted.step (h : t.Accepted) (s : Step) : (t.step s).Accepted := by
  intro key millis hkey
  rw [get?_step] at hkey
  rw [scope_step]
  cases s with
  | insert k n =>
    dsimp only at hkey ⊢
    split_ifs at hkey with hnew
    · exact hnew.1 ▸ hnew.2
    · exact h key millis hkey
  | project scope =>
    dsimp only at hkey ⊢
    split_ifs at hkey with haccepted
    exact haccepted

/-- **Timeouts stay among those that their scope accepts.** -/
lemma accepted_run (scope : TimeoutScope) (steps : List Step) :
    ((empty scope).run steps).Accepted := by
  induction steps using List.reverseRecOn with
  | nil => exact fun key millis h => by simp [run, empty, get?] at h
  | append_singleton steps s ih =>
    rw [run_append_singleton]
    exact ih.step s

/-! ## History -/

/-- The scope after some steps: that of the last projection. -/
def lastScope (scope : TimeoutScope) : List Step → TimeoutScope
  | [] => scope
  | .insert _ _ :: rest => lastScope scope rest
  | .project other :: rest => lastScope other rest

lemma scope_run (t : Timeouts) (steps : List Step) :
    (t.run steps).scope = lastScope t.scope steps := by
  induction steps generalizing t with
  | nil => rfl
  | cons s rest ih =>
    rw [run, List.foldl_cons, ← run, ih, scope_step]
    cases s <;> rfl

/-- Whether a step leaves alone what stands under a name. -/
def Step.Spares (key : String) : Step → Prop
  | .insert k _ => k ≠ key
  | .project scope => key ∈ scope.keys

/-- Whether some steps end with a number under a name: its last insertion set that number and was
not refused, and no projection dropped it afterwards. -/
def LastInserted (scope : TimeoutScope) (steps : List Step) (key : String) (millis : Nat) : Prop :=
  ∃ before after, steps = before ++ .insert key millis :: after ∧
    key ∈ (lastScope scope before).keys ∧ ∀ s ∈ after, s.Spares key

lemma not_lastInserted_nil : ¬LastInserted scope [] key millis := by
  rintro ⟨before, after, h, -⟩
  simp at h

/-- One more step is the last insertion itself, or spares what the last insertion set. -/
lemma lastInserted_append_singleton {s : Step} :
    LastInserted scope (steps ++ [s]) key millis ↔
      s = .insert key millis ∧ key ∈ (lastScope scope steps).keys ∨
        s.Spares key ∧ LastInserted scope steps key millis := by
  constructor
  · rintro ⟨before, after, h, hkey, hspared⟩
    rcases List.eq_nil_or_concat after with rfl | ⟨between, last, rfl⟩
    · obtain ⟨rfl, hs⟩ := List.append_inj' h rfl
      cases hs
      exact .inl ⟨rfl, hkey⟩
    · rw [List.concat_eq_append, ← List.cons_append, ← List.append_assoc] at h
      obtain ⟨rfl, hs⟩ := List.append_inj' h rfl
      cases hs
      exact .inr ⟨hspared s (by simp), before, between, rfl, hkey,
        fun u hu => hspared u (by simp [hu])⟩
  · rintro (⟨rfl, hkey⟩ | ⟨hs, before, after, rfl, hkey, hspared⟩)
    · exact ⟨steps, [], rfl, hkey, by simp⟩
    · refine ⟨before, after ++ [s], by simp, hkey, fun u hu => ?_⟩
      rcases List.mem_append.1 hu with hu | hu
      · exact hspared u hu
      · exact List.mem_singleton.1 hu ▸ hs

/-- **What stands under a name is what its last insertion set there.** -/
lemma get?_run_eq_some_iff :
    ((empty scope).run steps).get? key = some millis ↔ LastInserted scope steps key millis := by
  induction steps using List.reverseRecOn with
  | nil => simpa [run, empty, get?] using not_lastInserted_nil
  | append_singleton steps s ih =>
    rw [run_append_singleton, get?_step, lastInserted_append_singleton, ← ih]
    have hscope : ((empty scope).run steps).scope = lastScope scope steps := scope_run _ _
    have haccepted := accepted_run scope steps key millis
    rw [hscope] at haccepted
    cases s with
    | insert k n =>
      rw [hscope]
      by_cases hk : k = key
      · subst hk
        by_cases hmem : k ∈ (lastScope scope steps).keys
        · simp [hmem, Step.Spares]
        · -- a refused insertion finds nothing under its name
          have hnone : ((empty scope).run steps).get? k ≠ some millis := fun h => hmem (haccepted h)
          simp [hmem, hnone]
      · simp [Step.Spares, hk, Ne.symm hk]
    | project other => simp [Step.Spares]

/-! ## Lists -/

@[simp] lemma mem_toList {e : String × Nat} :
    e ∈ t.toList ↔ e.1 ∈ t.scope.keys ∧ t.get? e.1 = some e.2 := by
  obtain ⟨key, millis⟩ := e
  simp only [toList, List.mem_filterMap, Option.map_eq_some_iff, Prod.mk.injEq]
  constructor
  · rintro ⟨k, hk, n, hn, rfl, rfl⟩
    exact ⟨hk, hn⟩
  · rintro ⟨hk, hn⟩
    exact ⟨key, hk, millis, hn, rfl, rfl⟩

/-- The names in the list are those of the scope that something stands under. -/
lemma map_fst_toList (t : Timeouts) :
    t.toList.map Prod.fst = t.scope.keys.filter (fun key => (t.get? key).isSome) := by
  rw [toList]
  induction t.scope.keys with
  | nil => rfl
  | cons key rest ih =>
    rw [List.filterMap_cons, List.filter_cons]
    cases t.get? key with
    | none => simpa using ih
    | some millis => simpa using ih

lemma nodup_map_fst_toList (t : Timeouts) : (t.toList.map Prod.fst).Nodup := by
  rw [map_fst_toList]
  exact t.scope.nodup_keys.filter _

/-- All timeouts are listed, if the scope accepts them. -/
lemma Accepted.map_fst_toList_perm (h : t.Accepted) :
    (t.toList.map Prod.fst).Perm t.values.keys := by
  rw [List.perm_ext_iff_of_nodup t.nodup_map_fst_toList t.values.nodup_keys]
  intro key
  rw [map_fst_toList, List.mem_filter, KeyMap.mem_keys]
  constructor
  · exact fun hkey => hkey.2
  · intro hsome
    obtain ⟨millis, hmillis⟩ := Option.isSome_iff_exists.1 hsome
    exact ⟨h key millis hmillis, hsome⟩

/-- **A projection keeps what the new scope accepts.** -/
lemma Accepted.mem_toList_project (h : t.Accepted) {e : String × Nat} :
    e ∈ (t.project scope).toList ↔ e ∈ t.toList ∧ e.1 ∈ scope.keys := by
  have hscope : (t.project scope).scope = scope := rfl
  rw [mem_toList, mem_toList, get?_project, hscope]
  constructor
  · rintro ⟨hkey, hget⟩
    rw [if_pos hkey] at hget
    exact ⟨⟨h _ _ hget, hget⟩, hkey⟩
  · rintro ⟨⟨-, hget⟩, hkey⟩
    exact ⟨hkey, by rw [if_pos hkey, hget]⟩

lemma Accepted.project (h : t.Accepted) (scope : TimeoutScope) : (t.project scope).Accepted :=
  h.step (.project scope)

lemma project_project (t : Timeouts) (scope : TimeoutScope) :
    (t.project scope).project scope = t.project scope := by
  refine congrArg (mk scope) (KeyMap.ext_entries ?_)
  simp [Timeouts.project, KeyMap.filterKeys, List.filter_filter]

/-- A listen's timeouts go to one of its halves, or to both. -/
lemma Accepted.mem_toList_halves (h : t.Accepted) (hscope : t.scope = .listen)
    {e : String × Nat} :
    e ∈ t.toList ↔ e ∈ (t.project .frontend).toList ∨ e ∈ (t.project .backend).toList := by
  rw [h.mem_toList_project, h.mem_toList_project, ← and_or_left, ← mem_listen_keys, ← hscope]
  exact ⟨fun he => ⟨he, (mem_toList.1 he).1⟩, fun he => he.1⟩

/-- **Timeouts through any insertions and projections.**

* Every timeout is one that the scope of the moment accepts.
* The list has each timeout once, in the order of the scope, with the number that its last insertion
  set.
* An insertion is refused exactly for a name that the scope does not accept; the fault has that
  name, and nothing changes.
* A projection keeps exactly the timeouts that the new scope accepts, so that projecting twice to
  one scope is projecting once, and projecting to two scopes keeps what both accept.
* The halves of a listen agree on the names that both accept, and have all timeouts between them. -/
theorem run_keeps_accepted (scope : TimeoutScope) (steps : List Step) :
    let t := (empty scope).run steps
    (∀ key ∈ t.values.keys, key ∈ t.scope.keys) ∧
    ((t.toList.map Prod.fst).Sublist t.scope.keys ∧
      (t.toList.map Prod.fst).Nodup ∧ (t.toList.map Prod.fst).Perm t.values.keys ∧
      ∀ key millis, (key, millis) ∈ t.toList ↔ LastInserted scope steps key millis) ∧
    (∀ key millis, (∀ e, t.insert key millis = .error e ↔
        key ∉ t.scope.keys ∧ e = .unknownTimeout key) ∧
      (key ∉ t.scope.keys → t.step (.insert key millis) = t)) ∧
    ((∀ other e, e ∈ (t.project other).toList ↔ e ∈ t.toList ∧ e.1 ∈ other.keys) ∧
      (∀ other, (t.project other).project other = t.project other) ∧
      ∀ other next e, e ∈ ((t.project other).project next).toList ↔
        e ∈ t.toList ∧ e.1 ∈ other.keys ∧ e.1 ∈ next.keys) ∧
    (t.scope = .listen →
      (∀ key ∈ TimeoutScope.frontend.keys, key ∈ TimeoutScope.backend.keys →
        (t.project .frontend).get? key = (t.project .backend).get? key) ∧
      ∀ e, e ∈ t.toList ↔ e ∈ (t.project .frontend).toList ∨ e ∈ (t.project .backend).toList) := by
  intro t
  have ht : t.Accepted := accepted_run scope steps
  refine ⟨fun key hkey => ?_, ⟨?_, t.nodup_map_fst_toList, ht.map_fst_toList_perm,
    fun key millis => ?_⟩,
    fun key millis => ⟨fun e => insert_eq_error_iff, step_insert_of_not_mem⟩,
    ⟨fun other e => ht.mem_toList_project, t.project_project, fun other next e => ?_⟩,
    fun hscope => ⟨fun key hfront hback => ?_, fun e => ht.mem_toList_halves hscope⟩⟩
  · obtain ⟨millis, hmillis⟩ := Option.isSome_iff_exists.1 (KeyMap.mem_keys.1 hkey)
    exact ht key millis hmillis
  · rw [map_fst_toList]
    exact List.filter_sublist
  · rw [mem_toList, ← get?_run_eq_some_iff]
    exact ⟨fun h => h.2, fun h => ⟨ht key millis h, h⟩⟩
  · rw [(ht.project other).mem_toList_project, ht.mem_toList_project, and_assoc]
  · rw [get?_project, get?_project, if_pos hfront, if_pos hback]

/-- Both halves of a listen have the timeout of requests, one has that of clients, and the other
that of checks, set anew; the timeout of a client that is done is refused. -/
theorem run_keeps_accepted_listen :
    let steps : List Step := [.insert "check" 1, .insert "client" 2, .insert "client-fin" 3,
      .insert "http-request" 4, .insert "check" 5]
    let t := (empty .listen).run steps
    t.scope = .listen ∧
      (t.project .frontend).get? "http-request" = (t.project .backend).get? "http-request" ∧
      t.toList = [("check", 5), ("client", 2), ("http-request", 4)] ∧
      ("check", 5) ∈ (t.project .backend).toList ∧ "client-fin" ∉ t.scope.keys ∧
      t.step (.insert "client-fin" 3) = t := by
  intro steps t
  obtain ⟨-, -, hinsert, hproject, hhalves⟩ := run_keeps_accepted .listen steps
  have hscope : t.scope = .listen := by decide
  have hlist : t.toList = [("check", 5), ("client", 2), ("http-request", 4)] := by decide
  have hcheck : ("check", 5) ∈ (t.project .backend).toList :=
    (hproject.1 .backend _).2 ⟨hlist ▸ by decide, by decide⟩
  have hfin : "client-fin" ∉ t.scope.keys := by decide
  exact ⟨hscope, (hhalves hscope).1 "http-request" (by decide) (by decide), hlist, hcheck, hfin,
    (hinsert "client-fin" 3).2 hfin⟩

end Timeouts

end Section

end ProxyFleet
