import ProxyFleet.Proofs.Statuses

/-!
# Passes that are cancelled

A pass that is cancelled during a read is the uncancelled pass up to that read.

**Preparation.**  Nothing is read before all records are taken up, so that a cancellation during a
read does not count there (`Pass.prepare_congr`).

**Work that is cut short.**  Work that is cancelled during a read comes to the same as the whole work
if that does not go further, and otherwise it stops with the reads made so far
(`Reading.CutShort`).  One lemma for each part of the work says so, up to a row of tasks
(`Reading.cutShort_tasks`).

Main statement: `Pass.run_duringRead`.
-/

namespace ProxyFleet

/-! ## Preparation -/

section

variable {a b : Cancellation}

/-- Before the first read nothing counts but the looks of a pass. -/
lemma Entry.ofRecord_congr {σ τ α : Type} {kind : RecordKind} {space : String}
    {check : String → σ → Except Fault α} (h : ∀ looks, a.holds looks 0 = b.holds looks 0)
    (claims : Claims) (r : Record σ τ) :
    ofRecord a kind space check claims r = ofRecord b kind space check claims r := by
  rw [ofRecord, ofRecord, h]

lemma Entry.ofRecords_congr {σ τ α : Type} {kind : RecordKind} {space : String}
    {check : String → σ → Except Fault α} (h : ∀ looks, a.holds looks 0 = b.holds looks 0)
    (claims : Claims) (l : List (Record σ τ)) :
    ofRecords a kind space check claims l = ofRecords b kind space check claims l := by
  induction l generalizing claims with
  | nil => rfl
  | cons r rest ih => simp only [ofRecords, ofRecord_congr h, ih]

lemma Pass.prepare_congr (h : ∀ looks, a.holds looks 0 = b.holds looks 0) (i : InstanceRecord)
    (records : Records) : prepare a i records = prepare b i records := by
  simp only [prepare, Fleet.ofRecords, h, Entry.ofRecords_congr h]

/-- A cancellation during a read does not show before there is one. -/
lemma Pass.prepare_duringRead (n : Nat) (i : InstanceRecord) (records : Records) :
    prepare (.duringRead n) i records = prepare .never i records := by
  refine prepare_congr (fun looks => ?_) i records
  simp only [Cancellation.holds, decide_eq_false_iff_not]
  omega

end

/-! ## Work that is cut short -/

namespace Reading

variable {α β : Type} {store : Store} {n : Nat}

/-- What work that is cut short with the read of the given number comes to, beside the whole work:
either to the same, which has no later reads, or to a stop with the first reads. -/
inductive CutResult (n : Nat) (whole cut : Except PassFault α × Course) : Prop
  | same (hcut : cut = whole) (h : whole.2.reads.length ≤ n)
  | stopped (hcut : cut.1 = .error .cancelled) (hreads : cut.2.reads = whole.2.reads.take n)
    (h : n ≤ whole.2.reads.length)

/-- **Whether one computation is another that is cut short** with the read of the given number,
when it starts with no later reads than that one. -/
structure CutShort (n : Nat) (whole cut : Reading α) : Prop where
  grows : ∀ c, c.reads <+: (exec whole c).2.reads
  result : ∀ c, c.reads.length ≤ n → CutResult n (exec whole c) (exec cut c)

lemma cutShort_pure (a : α) : CutShort n (pure a) (pure a) :=
  ⟨fun _ => List.prefix_rfl, fun _ hc => .same rfl hc⟩

/-- **Two steps that are cut short.**  If the first one stops, the second one is not begun, and what
the second one adds to the whole work comes after the first reads. -/
lemma cutShort_bind {x y : Reading α} {f g : α → Reading β} (hx : CutShort n x y)
    (hf : ∀ a, CutShort n (f a) (g a)) : CutShort n (x >>= f) (y >>= g) := by
  have hgrows : ∀ c, (exec x c).2.reads <+: (exec (x >>= f) c).2.reads := by
    intro c
    rw [exec_bind]
    rcases exec x c with ⟨e | a, d⟩
    · exact List.prefix_rfl
    · exact (hf a).grows d
  refine ⟨fun c => (hx.grows c).trans (hgrows c), fun c hc => ?_⟩
  cases hx.result c hc with
  | same hcut h =>
    rw [exec_bind, exec_bind, hcut]
    rcases hwhole : exec x c with ⟨e | a, d⟩
    · rw [hwhole] at h
      exact .same rfl h
    · rw [hwhole] at h
      exact (hf a).result d h
  | stopped hcut hreads h =>
    have hstop : exec (y >>= g) c = (.error .cancelled, (exec y c).2) := by
      rw [exec_bind]
      rcases hy : exec y c with ⟨e | a, d⟩
      · rw [hy] at hcut
        cases hcut
        rfl
      · rw [hy] at hcut
        cases hcut
    obtain ⟨later, hlater⟩ := hgrows c
    rw [hstop]
    refine .stopped rfl ?_ (h.trans (hgrows c).length_le)
    rw [← hlater, List.take_append_of_le_length h]
    exact hreads

lemma cutShort_bind_pure {x y : Reading α} {f : α → β} (hx : CutShort n x y) :
    CutShort n (x >>= fun a => pure (f a)) (y >>= fun a => pure (f a)) :=
  cutShort_bind hx fun a => cutShort_pure (f a)

/-- A pass that is cancelled during a read goes on up to the first look after it. -/
lemma holds_duringRead (hn : 0 < n) {c : Course} (hc : c.reads.length ≤ n) :
    (Cancellation.duringRead n).holds c.looks c.reads.length = decide (c.reads.length = n) := by
  rw [Cancellation.holds, decide_eq_decide]
  omega

lemma cutShort_checkpoint (hn : 0 < n) :
    CutShort n (checkpoint .never) (checkpoint (.duringRead n)) := by
  refine ⟨fun c => ?_, fun c hc => ?_⟩
  · rw [exec_checkpoint]
  · rw [exec_checkpoint, exec_checkpoint, holds_duringRead hn hc]
    by_cases hlast : c.reads.length = n
    · exact .stopped (by simp [hlast]) (by simp [← hlast]) hlast.ge
    · exact .same (by simp [hlast, Cancellation.holds]) hc

lemma cutShort_value (hn : 0 < n) (owner : RecordRef) (use : FileUse) (ref : StoreRef) :
    CutShort n (value store .never owner use ref) (value store (.duringRead n) owner use ref) := by
  have hreads : ∀ c, (exec (value store .never owner use ref) c).2.reads = c.reads ++ [ref] := by
    intro c
    rw [exec_value]
    rfl
  refine ⟨fun c => ?_, fun c hc => ?_⟩
  · rw [hreads]
    exact List.prefix_append _ _
  · by_cases hlast : c.reads.length = n
    · have hcut : exec (value store (.duringRead n) owner use ref) c =
          (.error .cancelled, ⟨c.looks + 1, c.reads⟩) := by
        rw [exec_value, holds_duringRead hn hc, decide_eq_true hlast, if_pos rfl]
      refine .stopped (by rw [hcut]) ?_ ?_
      · rw [hcut, hreads, ← hlast, List.take_left]
      · rw [hreads, List.length_append, hlast]
        exact Nat.le_add_right _ _
    · refine .same ?_ ?_
      · rw [exec_value, exec_value, holds_duringRead hn hc, decide_eq_false hlast]
        rfl
      · rw [hreads, List.length_append, List.length_singleton]
        omega

lemma cutShort_values (hn : 0 < n) (owner : RecordRef) (use : FileUse) (refs : List StoreRef) :
    CutShort n (refs.mapM (value store .never owner use))
      (refs.mapM (value store (.duringRead n) owner use)) := by
  induction refs with
  | nil => exact cutShort_pure []
  | cons ref rest ih =>
    rw [List.mapM_cons, List.mapM_cons]
    exact cutShort_bind (cutShort_value hn owner use ref) fun text => cutShort_bind_pure ih

lemma cutShort_content (hn : 0 < n) (owner : RecordRef) (use : FileUse) (source : Section.Source) :
    CutShort n (content store .never owner use source)
      (content store (.duringRead n) owner use source) := by
  cases source with
  | inline given => exact cutShort_pure given
  | stored refs => exact cutShort_bind_pure (cutShort_values hn owner use refs)

lemma cutShort_variableValue (hn : 0 < n) (owner : RecordRef) (v : Section.VariableValue) :
    CutShort n (variableValue store .never owner v)
      (variableValue store (.duringRead n) owner v) := by
  cases v with
  | literal given => exact cutShort_pure given
  | secret ref => exact cutShort_value hn owner .header ref

/-- **A task that is cut short.** -/
lemma cutShort_task (hn : 0 < n) (p : Progress) (t : Task) :
    CutShort n (task store .never p t) (task store (.duringRead n) p t) := by
  cases t with
  | checkpoint => exact cutShort_bind_pure (cutShort_checkpoint hn)
  | find owner use path source => exact cutShort_bind_pure (cutShort_content hn owner use source)
  | put path content => exact cutShort_pure _
  | define owner v => exact cutShort_bind_pure (cutShort_variableValue hn owner v.value)
  | refuse owner backend => exact ⟨fun _ => List.prefix_rfl, fun _ hc => .same rfl hc⟩

lemma cutShort_foldlM (hn : 0 < n) (l : List Task) (p : Progress) :
    CutShort n (l.foldlM (task store .never) p) (l.foldlM (task store (.duringRead n)) p) := by
  induction l generalizing p with
  | nil => exact cutShort_pure p
  | cons t rest ih =>
    rw [List.foldlM_cons, List.foldlM_cons]
    exact cutShort_bind (cutShort_task hn p t) fun q => ih q

/-- **A row of tasks that is cut short.** -/
lemma cutShort_tasks (store : Store) (hn : 0 < n) (l : List Task) :
    CutShort n (tasks store .never l) (tasks store (.duringRead n) l) :=
  cutShort_foldlM hn l .none

end Reading

/-! ## Passes -/

namespace Pass

variable {n : Nat}

/-- A pass that is cancelled beforehand does nothing. -/
lemma run_before (store : Store) (i : InstanceRecord) (records : Records) :
    run store .before i records = ⟨.error .cancelled, [], []⟩ := rfl

/-- How a pass that is cancelled during a read ends, beside the whole pass. -/
inductive CutOutcome (n : Nat) (whole cut : Outcome) : Prop
  | same (hcut : cut = whole) (h : whole.reads.length ≤ n)
  | stopped (hcut : cut = ⟨.error .cancelled, whole.reads.take n, []⟩) (h : n ≤ whole.reads.length)

lemma cutOutcome_run (store : Store) (i : InstanceRecord) (records : Records) (hn : 0 < n) :
    CutOutcome n (run store .never i records) (run store (.duringRead n) i records) := by
  cases hprepare : prepare .never i records with
  | error e =>
    rw [run_of_prepare_error hprepare,
      run_of_prepare_error ((prepare_duringRead n i records).trans hprepare)]
    exact .same rfl (Nat.zero_le n)
  | ok prepared =>
    obtain ⟨content, fleet⟩ := prepared
    rw [run_of_prepare hprepare,
      run_of_prepare ((prepare_duringRead n i records).trans hprepare)]
    have hcut : Reading.CutShort n _ _ := Reading.cutShort_tasks store hn
      (SideFile.tasks (instanceRef i) content fleet)
    cases hcut.result (Course.afterFleet fleet) (Nat.zero_le n) with
    | same hcut h =>
      rw [hcut]
      exact .same rfl (by rwa [Outcome.reads_ofWork])
    | stopped hcut hreads h =>
      refine .stopped ?_ (by rwa [Outcome.reads_ofWork])
      rw [Outcome.reads_ofWork, ← hreads]
      rcases hwork : Reading.exec (Reading.tasks store (.duringRead n)
        (SideFile.tasks (instanceRef i) content fleet)) (Course.afterFleet fleet) with ⟨e | p, d⟩
      · rw [hwork] at hcut
        cases hcut
        rfl
      · rw [hwork] at hcut
        cases hcut

/-- **A pass that is cancelled during a read** makes the reads of the whole pass up to that one, and
none after it.  It ends as the whole pass does, if that needs no further look, or it is cancelled
and reports nothing.  So a cancellation that comes after the last read changes nothing, and one that
comes before the last read stops the pass.  A pass that is cancelled beforehand reads nothing. -/
theorem run_duringRead (store : Store) (i : InstanceRecord) (records : Records) (n : Nat)
    (hn : 0 < n) :
    let whole := run store .never i records
    let cut := run store (.duringRead n) i records
    cut.reads = whole.reads.take n ∧
    (cut = whole ∨ cut.result = .error .cancelled ∧ cut.statuses = []) ∧
    (whole.reads.length < n → cut = whole) ∧
    (n < whole.reads.length → cut.result = .error .cancelled) ∧
    run store .before i records = ⟨.error .cancelled, [], []⟩ := by
  intro whole cut
  cases cutOutcome_run store i records hn with
  | same hcut h =>
    refine ⟨?_, .inl hcut, fun _ => hcut, fun hlt => absurd h hlt.not_ge, run_before _ _ _⟩
    rw [show cut = whole from hcut, List.take_of_length_le h]
  | stopped hcut h =>
    have hstop : cut = ⟨.error .cancelled, whole.reads.take n, []⟩ := hcut
    rw [hstop]
    exact ⟨rfl, .inr ⟨rfl, rfl⟩, fun hlt => absurd h hlt.not_ge, fun _ => rfl, run_before _ _ _⟩

/-- Of two certificates only the first one is read when the pass is cancelled meanwhile. -/
theorem run_duringRead_first_of_two :
    let store : Store := fun r => .ok (some (Text.utf8 r.name))
    let i : InstanceRecord := .plain (some "edge") "fleet" .none
    let records : Records := ⟨[], [hostsFrontend], [hostedBackend "pool" "shop"], []⟩
    let cut := run store (.duringRead 1) i records
    0 < 1 ∧ cut.result = .error .cancelled ∧ cut.statuses = [] ∧
      cut.reads = [⟨.secret, "vault", "web", "pem"⟩] := by
  intro store i records cut
  have hwhole : (run store .never i records).reads =
      [⟨.secret, "vault", "web", "pem"⟩, ⟨.secret, "edge", "tls-pool", "pem"⟩] := by decide +kernel
  obtain ⟨hreads, hend, -, hcancelled, -⟩ := run_duringRead store i records 1 Nat.one_pos
  have hresult : cut.result = .error .cancelled := hcancelled (by rw [hwhole]; decide)
  refine ⟨Nat.one_pos, hresult, ?_, hreads.trans (by rw [hwhole]; rfl)⟩
  rcases hend with hsame | ⟨-, hstatuses⟩
  · have hlonger := congrArg (fun o : Outcome => o.reads.length) hsame
    rw [hreads, hwhole] at hlonger
    cases hlonger
  · exact hstatuses

end Pass

end ProxyFleet
