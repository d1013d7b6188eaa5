import ProxyFleet.Pass
import ProxyFleet.Proofs.Checks

/-!
# Preparing a pass

What has to hold for a pass to get to its work on side files.

**Taking up records.**  `Entry.ofRecord_eq_ok_iff` says when a record is taken up, and
`Entry.ofRecords_cons_eq_ok` opens one step of taking up a list of them.

**Fleets.**  A fleet that was taken up is checked: every section in it is what a declaration of its
kind became (`Fleet.checked_of_ofRecords`).
-/

namespace ProxyFleet

namespace Entry

variable {σ τ α : Type} {cancel : Cancellation} {kind : RecordKind} {space : String}
  {check : String → σ → Except Fault α} {claims : Claims}

/-- **When a record is taken up**: the pass is not cancelled, its name is free, and it is valid. -/
lemma ofRecord_eq_ok_iff {r : Record σ τ} {entry : Entry α} :
    ofRecord cancel kind space check claims r = .ok entry ↔
      cancel.holds claims.length 0 = false ∧ claims.lookup r.metadata.anyName = none ∧
        ∃ content, check r.metadata.anyName r.spec = .ok content ∧
          entry = ⟨r.ref kind space, r.metadata.allLabels, content⟩ := by
  have hname : (r.ref kind space).name = r.metadata.anyName := rfl
  rw [ofRecord]
  cases cancel.holds claims.length 0 with
  | true => simp
  | false =>
    simp only [Bool.false_eq_true, if_false, hname, true_and]
    cases claims.lookup r.metadata.anyName with
    | some existing => simp
    | none => cases check r.metadata.anyName r.spec <;> simp [eq_comm]

/-- The name of an entry is that of its record. -/
lemma name_of_ofRecord {r : Record σ τ} {entry : Entry α}
    (h : ofRecord cancel kind space check claims r = .ok entry) :
    entry.ref.name = r.metadata.anyName := by
  obtain ⟨-, -, content, -, rfl⟩ := ofRecord_eq_ok_iff.1 h
  rfl

/-- The first of several records is taken up before the others. -/
lemma ofRecords_cons_eq_ok {r : Record σ τ} {rest : List (Record σ τ)} {entries : List (Entry α)}
    {after : Claims}
    (h : ofRecords cancel kind space check claims (r :: rest) = .ok (entries, after)) :
    ∃ entry later, ofRecord cancel kind space check claims r = .ok entry ∧
      ofRecords cancel kind space check ((entry.ref.name, kind) :: claims) rest =
        .ok (later, after) ∧ entries = entry :: later := by
  rw [ofRecords] at h
  obtain ⟨entry, hentry, h⟩ := Check.bind_eq_ok_iff.1 h
  obtain ⟨⟨later, claims'⟩, hlater, h⟩ := Check.bind_eq_ok_iff.1 h
  cases h
  exact ⟨entry, later, hentry, hlater, rfl⟩

/-- The section of an entry is what a declaration became. -/
lemma exists_check_of_mem {l : List (Record σ τ)} {entries : List (Entry α)} {after : Claims}
    (h : ofRecords cancel kind space check claims l = .ok (entries, after)) {e : Entry α}
    (he : e ∈ entries) : ∃ spec, check e.ref.name spec = .ok e.content := by
  induction l generalizing claims entries after with
  | nil =>
    cases h
    cases he
  | cons r rest ih =>
    obtain ⟨entry, later, hentry, hlater, rfl⟩ := ofRecords_cons_eq_ok h
    rcases List.mem_cons.1 he with rfl | he
    · obtain ⟨-, -, content, hcheck, rfl⟩ := ofRecord_eq_ok_iff.1 hentry
      exact ⟨r.spec, hcheck⟩
    · exact ih hlater he

end Entry

namespace Fleet

/-- The lists of a fleet are taken up one after another, when the instance has its name. -/
lemma ofRecords_eq_ok {cancel : Cancellation} {owner : RecordRef} {r : Records} {f : Fleet}
    (h : ofRecords cancel owner r = .ok f) :
    ∃ c₁ c₂ c₃ c₄,
      Entry.ofRecords cancel .listen owner.space (Section.Listen.ofSpec owner.space)
        [(owner.name, .proxyInstance)] (Record.sorted r.listens) = .ok (f.listens, c₁) ∧
      Entry.ofRecords cancel .frontend owner.space (Section.Frontend.ofSpec owner.space) c₁
        (Record.sorted r.frontends) = .ok (f.frontends, c₂) ∧
      Entry.ofRecords cancel .backend owner.space (Section.Backend.ofSpec owner.space) c₂
        (Record.sorted r.backends) = .ok (f.backends, c₃) ∧
      Entry.ofRecords cancel .resolver owner.space Section.Resolver.ofSpec c₃
        (Record.sorted r.resolvers) = .ok (f.resolvers, c₄) := by
  obtain ⟨⟨listens, c₁⟩, hl, h⟩ := Check.bind_eq_ok_iff.1 h
  obtain ⟨⟨frontends, c₂⟩, hf, h⟩ := Check.bind_eq_ok_iff.1 h
  obtain ⟨⟨backends, c₃⟩, hb, h⟩ := Check.bind_eq_ok_iff.1 h
  obtain ⟨⟨resolvers, c₄⟩, hr, h⟩ := Check.bind_eq_ok_iff.1 h
  cases h
  exact ⟨c₁, c₂, c₃, c₄, hl, hf, hb, hr⟩

/-- Every section of a fleet that may have files is what a declaration became. -/
structure Checked (space : String) (f : Fleet) : Prop where
  listens : ∀ e ∈ f.listens, ∃ spec, Section.Listen.ofSpec space e.ref.name spec = .ok e.content
  frontends : ∀ e ∈ f.frontends,
    ∃ spec, Section.Frontend.ofSpec space e.ref.name spec = .ok e.content
  backends : ∀ e ∈ f.backends,
    ∃ spec, Section.Backend.ofSpec space e.ref.name spec = .ok e.content

/-- A fleet that was taken up is checked. -/
lemma checked_of_ofRecords {cancel : Cancellation} {owner : RecordRef} {r : Records} {f : Fleet}
    (h : ofRecords cancel owner r = .ok f) : f.Checked owner.space := by
  obtain ⟨c₁, c₂, c₃, c₄, hl, hf, hb, -⟩ := ofRecords_eq_ok h
  exact ⟨fun e he => Entry.exists_check_of_mem hl he, fun e he => Entry.exists_check_of_mem hf he,
    fun e he => Entry.exists_check_of_mem hb he⟩

end Fleet

namespace Pass

variable {cancel : Cancellation} {i : InstanceRecord} {records : Records}

/-- A pass is prepared when its instance is valid and its records are taken up. -/
lemma prepare_eq_ok {content : Section.Instance} {fleet : Fleet}
    (h : prepare cancel i records = .ok (content, fleet)) :
    Section.Instance.ofSpec (instanceRef i).space (instanceRef i).name i.spec = .ok content ∧
      Fleet.ofRecords cancel (instanceRef i) records = .ok fleet := by
  rw [prepare] at h
  split at h
  · cases h
  · obtain ⟨content', hcontent, h⟩ := Check.bind_eq_ok_iff.1 h
    obtain ⟨fleet', hfleet, h⟩ := Check.bind_eq_ok_iff.1 h
    cases h
    exact ⟨Check.mapError_eq_ok_iff.1 hcontent, Check.mapError_eq_ok_iff.1 hfleet⟩

end Pass

end ProxyFleet
