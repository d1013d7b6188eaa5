import Mathlib
import ProxyFleet.Proofs.Plain
import ProxyFleet.Proofs.Preparation
import ProxyFleet.Proofs.Reading

/-!
# The order in which records are handed in

A pass does not depend on the order of the lists that it is given.

**The order of keys.**  Records are ordered by a key, their namespace and their name.  `before` is
a strict order of keys (`before_trans`), and of two records with different keys one stands before
the other (`before_or_key_eq`).  Hence sorting permutations of one list gives one list, unless two
of its records have the same key (`sorted_eq_of_perm`).

**Names.**  A pass takes a record up only if no other one has its name, so in a pass that succeeds
no two records of one kind have the same key (`Pass.distinct_of_ok`).

Main statement: `Pass.run_of_perm`.
-/

namespace ProxyFleet

namespace Record

variable {σ τ : Type} {a b c : Record σ τ}

/-! ## The order of keys -/

/-- What records are ordered by: the namespace, if there is one, and the name. -/
def key (r : Record σ τ) : Option String × String := (r.metadata.space, r.metadata.anyName)

lemma key_eq_iff : a.key = b.key ↔
    a.metadata.space = b.metadata.space ∧ a.metadata.anyName = b.metadata.anyName := by
  simp [key]

/-- A record stands before another by its namespace, and within one namespace by its name. -/
lemma before_iff : a.before b = true ↔
    a.metadata.space < b.metadata.space ∨
      a.metadata.space = b.metadata.space ∧ a.metadata.anyName < b.metadata.anyName := by
  rw [before]
  cases a.metadata.space <;> cases b.metadata.space <;> simp

/-- Namespaces are ordered, and having none comes first. -/
lemma space_lt_trans {s t u : Option String} (h₁ : s < t) (h₂ : t < u) : s < u := by
  cases s with
  | none => cases u <;> cases t <;> simp_all
  | some s =>
    cases t with
    | none => simp at h₁
    | some t =>
      cases u with
      | none => simp at h₂
      | some u =>
        simp only [Option.some_lt_some] at h₁ h₂ ⊢
        exact String.lt_trans h₁ h₂

lemma space_lt_irrefl (s : Option String) : ¬s < s := by
  cases s with
  | none => simp
  | some s => simp

lemma space_eq_of_not_lt {s t : Option String} (h₁ : ¬s < t) (h₂ : ¬t < s) : s = t := by
  cases s with
  | none => cases t <;> simp_all
  | some s =>
    cases t with
    | none => simp at h₂
    | some t =>
      simp only [Option.some_lt_some] at h₁ h₂
      rw [KeyMap.key_eq_of_not_lt h₁ h₂]

lemma before_trans (h₁ : a.before b = true) (h₂ : b.before c = true) : a.before c = true := by
  rw [before_iff] at h₁ h₂ ⊢
  rcases h₁ with h₁ | ⟨e₁, h₁⟩
  · rcases h₂ with h₂ | ⟨e₂, -⟩
    · exact .inl (space_lt_trans h₁ h₂)
    · exact .inl (e₂ ▸ h₁)
  · rcases h₂ with h₂ | ⟨e₂, h₂⟩
    · exact .inl (e₁ ▸ h₂)
    · exact .inr ⟨e₁.trans e₂, String.lt_trans h₁ h₂⟩

lemma not_before_of_key_eq (h : a.key = b.key) : a.before b = false := by
  obtain ⟨hs, hn⟩ := key_eq_iff.1 h
  rw [← Bool.not_eq_true, before_iff]
  rintro (hlt | ⟨-, hlt⟩)
  · exact space_lt_irrefl _ (hs ▸ hlt)
  · exact String.lt_irrefl _ (hn ▸ hlt)

/-- Of two records with different keys one stands before the other. -/
lemma before_or_key_eq (a b : Record σ τ) :
    a.before b = true ∨ a.key = b.key ∨ b.before a = true := by
  rw [before_iff, before_iff, key_eq_iff]
  by_cases hs : a.metadata.space = b.metadata.space
  · by_cases hn : a.metadata.anyName < b.metadata.anyName
    · exact .inl (.inr ⟨hs, hn⟩)
    · by_cases hn' : b.metadata.anyName < a.metadata.anyName
      · exact .inr (.inr (.inr ⟨hs.symm, hn'⟩))
      · exact .inr (.inl ⟨hs, KeyMap.key_eq_of_not_lt hn hn'⟩)
  · by_cases hlt : a.metadata.space < b.metadata.space
    · exact .inl (.inl hlt)
    · by_cases hlt' : b.metadata.space < a.metadata.space
      · exact .inr (.inr (.inl hlt'))
      · exact absurd (space_eq_of_not_lt hlt hlt') hs

/-- Only the key of a record counts. -/
lemma before_congr_right (h : b.key = c.key) : a.before b = a.before c := by
  obtain ⟨hs, hn⟩ := key_eq_iff.1 h
  rw [Bool.eq_iff_iff, before_iff, before_iff, hs, hn]

lemma before_asymm (h : a.before b = true) : b.before a = false := by
  by_contra hc
  have hirrefl := before_trans h (Bool.not_eq_false _ ▸ hc)
  rw [not_before_of_key_eq rfl] at hirrefl
  cases hirrefl

/-- That no record stands before an earlier one passes on along a list. -/
lemma not_before_trans (h₁ : b.before a = false) (h₂ : c.before b = false) :
    c.before a = false := by
  rcases before_or_key_eq a c with h | h | h
  · exact before_asymm h
  · exact not_before_of_key_eq h.symm
  · -- `c` before `a` would put it before `b`, or `b` before `a`
    have hcb : c.before b = true := by
      rcases before_or_key_eq a b with h' | h' | h'
      · exact before_trans h h'
      · rwa [← before_congr_right h']
      · rw [h₁] at h'
        cases h'
    rw [h₂] at hcb
    cases hcb

/-! ## Sorting -/

/-- Sorting keeps every record. -/
lemma sorted_perm (l : List (Record σ τ)) : (sorted l).Perm l := List.mergeSort_perm l _

/-- Sorting compares in a way that passes on. -/
lemma comparison_trans (a b c : Record σ τ) (h₁ : (!b.before a) = true)
    (h₂ : (!c.before b) = true) : (!c.before a) = true := by
  rw [Bool.not_eq_true'] at h₁ h₂ ⊢
  exact not_before_trans h₁ h₂

/-- Any two records can be sorted. -/
lemma comparison_total (a b : Record σ τ) : (!b.before a || !a.before b) = true := by
  rcases before_or_key_eq a b with h | h | h
  · simp [before_asymm h]
  · simp [not_before_of_key_eq h]
  · simp [before_asymm h]

/-- In a sorted list no record stands before an earlier one. -/
lemma pairwise_sorted (l : List (Record σ τ)) :
    (sorted l).Pairwise (fun a b => b.before a = false) := by
  have h : (sorted l).Pairwise (fun a b => (!b.before a) = true) :=
    List.pairwise_mergeSort comparison_trans comparison_total l
  exact h.imp (fun h => by simpa using h)

/-- **Sorting forgets the order of a list** in which no two records have the same key. -/
lemma sorted_eq_of_perm {l r : List (Record σ τ)} (h : l.Perm r) (hd : (l.map key).Nodup) :
    sorted l = sorted r := by
  refine List.Perm.eq_of_pairwise (fun a b ha hb hab hba => ?_) (pairwise_sorted l)
    (pairwise_sorted r) ((sorted_perm l).trans (h.trans (sorted_perm r).symm))
  have ha' : a ∈ l := (sorted_perm l).mem_iff.1 ha
  have hb' : b ∈ l := h.mem_iff.2 ((sorted_perm r).mem_iff.1 hb)
  have hkey : a.key = b.key := by
    rcases before_or_key_eq a b with h | h | h
    · rw [hba] at h
      cases h
    · exact h
    · rw [hab] at h
      cases h
  exact List.inj_on_of_nodup_map hd ha' hb' hkey

end Record

/-! ## Names in a pass that succeeds -/

namespace Entry

variable {σ τ α : Type} {cancel : Cancellation} {kind : RecordKind} {space : String}
  {check : String → σ → Except Fault α} {claims : Claims}

/-- Records that are all taken up have names that nobody has taken, no two of them the same. -/
lemma names_of_ofRecords {l : List (Record σ τ)} {entries : List (Entry α)} {after : Claims}
    (h : ofRecords cancel kind space check claims l = .ok (entries, after)) :
    (∀ r ∈ l, claims.lookup r.metadata.anyName = none) ∧
      (l.map (·.metadata.anyName)).Nodup := by
  induction l generalizing claims entries after with
  | nil => simp
  | cons r rest ih =>
    obtain ⟨entry, later, hentry, hrest, rfl⟩ := ofRecords_cons_eq_ok h
    obtain ⟨-, hfree, -⟩ := ofRecord_eq_ok_iff.1 hentry
    obtain ⟨hlater, hnodup⟩ := ih hrest
    -- whoever comes later finds the name of `r` taken
    have hne : ∀ s ∈ rest, s.metadata.anyName ≠ r.metadata.anyName ∧
        claims.lookup s.metadata.anyName = none := by
      intro s hs
      have hs' := hlater s hs
      rw [name_of_ofRecord hentry, KeyMap.lookup_cons_eq_ite] at hs'
      split at hs'
      · cases hs'
      · rename_i hne
        exact ⟨hne, hs'⟩
    refine ⟨?_, ?_⟩
    · intro s hs
      rcases List.mem_cons.1 hs with rfl | hs
      · exact hfree
      · exact (hne s hs).2
    · refine List.nodup_cons.2 ⟨fun hmem => ?_, hnodup⟩
      obtain ⟨s, hs, he⟩ := List.mem_map.1 hmem
      exact (hne s hs).1 he

/-- Records with different names have different keys. -/
lemma nodup_key_of_ofRecords {l : List (Record σ τ)} {taken : List (Entry α) × Claims}
    (h : ofRecords cancel kind space check claims (Record.sorted l) = .ok taken) :
    (l.map Record.key).Nodup := by
  have hnames := (names_of_ofRecords h).2
  have hkeys : ((Record.sorted l).map Record.key).Nodup := by
    refine List.Nodup.of_map Prod.snd ?_
    simpa [Record.key, Function.comp_def] using hnames
  exact ((Record.sorted_perm l).map Record.key).nodup_iff.1 hkeys

end Entry

namespace Records

/-- The same records of each kind, in any order. -/
structure Perm (a b : Records) : Prop where
  listens : a.listens.Perm b.listens
  frontends : a.frontends.Perm b.frontends
  backends : a.backends.Perm b.backends
  resolvers : a.resolvers.Perm b.resolvers

/-- No two records of one kind have both the same namespace and the same name. -/
structure Distinct (r : Records) : Prop where
  listens : (r.listens.map Record.key).Nodup
  frontends : (r.frontends.map Record.key).Nodup
  backends : (r.backends.map Record.key).Nodup
  resolvers : (r.resolvers.map Record.key).Nodup

end Records

/-- A fleet is made of distinct records. -/
lemma Fleet.distinct_of_ofRecords {cancel : Cancellation} {owner : RecordRef} {r : Records}
    {fleet : Fleet} (h : Fleet.ofRecords cancel owner r = .ok fleet) : r.Distinct := by
  obtain ⟨c₁, c₂, c₃, c₄, hl, hf, hb, hr⟩ := ofRecords_eq_ok h
  exact ⟨Entry.nodup_key_of_ofRecords hl, Entry.nodup_key_of_ofRecords hf,
    Entry.nodup_key_of_ofRecords hb, Entry.nodup_key_of_ofRecords hr⟩

/-- A fleet sees its records only in order. -/
lemma Fleet.ofRecords_perm (cancel : Cancellation) (owner : RecordRef) {a b : Records}
    (h : a.Perm b) (hd : a.Distinct) :
    Fleet.ofRecords cancel owner a = Fleet.ofRecords cancel owner b := by
  simp only [Fleet.ofRecords, Record.sorted_eq_of_perm h.listens hd.listens,
    Record.sorted_eq_of_perm h.frontends hd.frontends,
    Record.sorted_eq_of_perm h.backends hd.backends,
    Record.sorted_eq_of_perm h.resolvers hd.resolvers]

namespace Pass

variable {store : Store} {cancel : Cancellation} {i : InstanceRecord} {a b : Records}

/-- In a pass that succeeds no two records of one kind have the same key. -/
lemma distinct_of_ok {set : ArtifactSet} (h : (run store cancel i a).result = .ok set) :
    a.Distinct := by
  obtain ⟨content, fleet, p, course, hprepare, -⟩ := run_eq_ok h
  exact Fleet.distinct_of_ofRecords (prepare_eq_ok hprepare).2

/-- Distinct records are taken up alike in every order. -/
lemma prepare_eq_of_distinct (cancel : Cancellation) (i : InstanceRecord) (h : a.Perm b)
    (hd : a.Distinct) : prepare cancel i b = prepare cancel i a := by
  simp only [prepare, Fleet.ofRecords_perm cancel (instanceRef i) h hd]

/-- Records that are taken up are taken up in every order. -/
lemma prepare_of_perm {content : Section.Instance} {fleet : Fleet} (h : a.Perm b)
    (hprepare : prepare cancel i a = .ok (content, fleet)) :
    prepare cancel i b = .ok (content, fleet) := by
  have hdistinct := Fleet.distinct_of_ofRecords (prepare_eq_ok hprepare).2
  rw [prepare_eq_of_distinct cancel i h hdistinct, hprepare]

/-- Distinct records give the same outcome in every order. -/
lemma run_eq_of_distinct (store : Store) (cancel : Cancellation) (i : InstanceRecord)
    (h : a.Perm b) (hd : a.Distinct) : run store cancel i b = run store cancel i a := by
  simp only [run, prepare_eq_of_distinct cancel i h hd]

/-- **A pass does not depend on the order in which records are handed in.**  If it succeeds on one
order of the records, it has the same outcome on every other one: document, files, fingerprint,
reads and statuses.  If no two records of one kind have both the same namespace and the same name,
then so it does when it fails. -/
theorem run_of_perm (store : Store) (cancel : Cancellation) (i : InstanceRecord)
    (h : a.Perm b) :
    (∀ set, (run store cancel i a).result = .ok set →
      (run store cancel i b).result = .ok set ∧
        (run store cancel i b).reads = (run store cancel i a).reads ∧
        (run store cancel i b).statuses = (run store cancel i a).statuses) ∧
    (a.Distinct → run store cancel i b = run store cancel i a) := by
  refine ⟨fun set hset => ?_, run_eq_of_distinct store cancel i h⟩
  have hrun := run_eq_of_distinct store cancel i h (distinct_of_ok hset)
  rw [hrun]
  exact ⟨hset, rfl, rfl⟩

/-- A frontend whose certificate is kept in a secret of its own name. -/
def storedFrontend (space : Option String) (name : String) : FrontendRecord :=
  .plain space name
    { Spec.Frontend.none with
      binds := [.encrypted
        (.withCertificate ⟨name, none, [⟨none, some ⟨"tls-" ++ name, "pem"⟩, none⟩]⟩) none] }

/-- A record without a namespace comes before one with a namespace, whichever is handed in first,
and the values of both are read in that order. -/
theorem run_of_perm_two_frontends :
    let store : Store := fun r => .ok (some (Text.utf8 r.name))
    let i : InstanceRecord := .plain (some "edge") "fleet" .none
    let web := storedFrontend (some "edge") "web"
    let zoo := storedFrontend none "zoo"
    let a : Records := ⟨[], [web, zoo], [], []⟩
    let b : Records := ⟨[], [zoo, web], [], []⟩
    a.Perm b ∧ a.Distinct ∧
      (∃ set, (run store .never i a).result = .ok set ∧
        (run store .never i b).result = .ok set) ∧
      (run store .never i b).reads.map (·.name) = ["tls-zoo", "tls-web"] := by
  intro store i web zoo a b
  have hperm : a.Perm b := ⟨.refl _, .swap _ _ _, .refl _, .refl _⟩
  have hdistinct : a.Distinct := ⟨by decide, by decide, by decide, by decide⟩
  have hok : (run store .never i a).result.isOk = true := by cbv
  refine ⟨hperm, hdistinct, ?_, by cbv⟩
  cases hset : (run store .never i a).result with
  | error e =>
    rw [hset] at hok
    cases hok
  | ok set => exact ⟨set, rfl, ((run_of_perm store .never i hperm).1 set hset).1⟩

end Pass

end ProxyFleet
