import ProxyFleet.Proofs.Statuses

/-!
# Values that a pass reads

Which stored values are read in a pass, for which records, and how far a pass gets with them.

**Runs.**  A computation asks for certain values when it reads them in their order: all of them if
it succeeds, and else the first ones.  If a value cannot be had, it is the last one read, and the
fault names the record that it was read for (`Reading.Asks`).  Two steps ask for the values of the
first one and then for those of the second one (`Reading.asks_bind`), so a row of tasks asks for the
values of its tasks (`Reading.asks_tasks`).

**Fleets.**  `Fleet.demands` lists the values that the sections of an instance and its fleet refer
to, section by section.  The tasks of a pass ask for exactly these (`SideFile.demands_tasks`).
-/

namespace ProxyFleet

/-- A stored value that is read for a record. -/
structure Demand where
  record : RecordRef
  ref : StoreRef
  deriving DecidableEq

/-- The reference of the value that could not be had. -/
def LookupFault.ref : LookupFault → StoreRef
  | .missing _ ref => ref
  | .failed ref _ => ref

/-! ## Runs -/

/-- What a run has read of the values that it asks for, when it has come to a result: the first
ones, all of them if it succeeds, and none after one that could not be had. -/
structure Reading.Made {α : Type} (demands made : List Demand) (result : Except PassFault α) :
    Prop where
  front : made <+: demands
  all : ∀ a, result = .ok a → made = demands
  last : ∀ record fault, result = .error (.lookup record fault) →
    made.getLast? = some ⟨record, fault.ref⟩

namespace Reading

variable {α β : Type} {store : Store} {cancel : Cancellation} {owner : RecordRef} {use : FileUse}
  {l r : List Demand}

/-- **Whether a computation asks for certain values**: from wherever it starts, it reads them in
their order, as far as it comes. -/
def Asks (demands : List Demand) (x : Reading α) : Prop :=
  ∀ c, ∃ made, (exec x c).2.reads = c.reads ++ made.map (·.ref) ∧
    Made demands made (exec x c).1

/-- A computation without reads and without a lookup that fails asks for nothing. -/
lemma asks_nil {x : Reading α} (hreads : ∀ c, (exec x c).2.reads = c.reads)
    (hfault : ∀ c record fault, (exec x c).1 ≠ .error (.lookup record fault)) : Asks [] x :=
  fun c => ⟨[], by simp [hreads c], List.prefix_rfl, fun _ _ => rfl,
    fun record fault h => absurd h (hfault c record fault)⟩

lemma asks_pure (a : α) : Asks [] (pure a : Reading α) :=
  asks_nil (fun _ => rfl) fun _ _ _ h => by cases h

lemma asks_checkpoint : Asks [] (checkpoint cancel) := by
  refine asks_nil (fun c => ?_) fun c record fault h => ?_
  · rw [exec_checkpoint]
  · cases cancelled_of_checkpoint (Prod.ext h rfl)

/-- **Two steps ask for the values of both**, one after the other. -/
lemma asks_bind {x : Reading α} {f : α → Reading β} (hx : Asks l x) (hf : ∀ a, Asks r (f a)) :
    Asks (l ++ r) (x >>= f) := by
  intro c
  obtain ⟨made, hreads, hmade⟩ := hx c
  rw [exec_bind]
  rcases hc : exec x c with ⟨e | a, d⟩
  · -- the first step fails: nothing of the second one is read
    rw [hc] at hreads hmade
    refine ⟨made, hreads, hmade.front.trans (List.prefix_append l r), fun _ h => ?_,
      fun record fault h => ?_⟩
    · cases h
    · cases h
      exact hmade.last record fault rfl
  · rw [hc] at hreads hmade
    obtain ⟨later, hreads', hlater⟩ := hf a d
    have hall : made = l := hmade.all a rfl
    refine ⟨l ++ later, ?_, (List.prefix_append_right_inj l).2 hlater.front, fun b h => ?_,
      fun record fault h => ?_⟩
    · rw [hreads', hreads, hall, List.map_append, List.append_assoc]
    · rw [hlater.all b h]
    · rw [List.getLast?_append, hlater.last record fault h, Option.some_or]

/-- What is made of a result asks for nothing more. -/
lemma asks_bind_pure {x : Reading α} {f : α → β} (hx : Asks l x) :
    Asks l (x >>= fun a => pure (f a)) := by
  have h := asks_bind hx fun a => asks_pure (f a)
  rwa [List.append_nil] at h

lemma asks_value (ref : StoreRef) : Asks [⟨owner, ref⟩] (value store cancel owner use ref) := by
  intro c
  rw [exec_value]
  cases cancel.holds c.looks c.reads.length with
  | true =>
    exact ⟨[], by simp, List.nil_prefix, fun _ h => (by cases h), fun _ _ h => (by cases h)⟩
  | false =>
    refine ⟨[⟨owner, ref⟩], rfl, List.prefix_rfl, fun _ _ => rfl, fun record fault h => ?_⟩
    simp only [Bool.false_eq_true, if_false] at h
    generalize store ref = answer at h
    rcases answer with cause | _ | bytes <;> cases h <;> rfl

lemma asks_values (refs : List StoreRef) :
    Asks (refs.map (.mk owner)) (refs.mapM (value store cancel owner use)) := by
  induction refs with
  | nil => exact asks_pure []
  | cons ref rest ih =>
    rw [List.mapM_cons]
    exact asks_bind (asks_value ref) fun text => asks_bind_pure ih

lemma asks_content (source : Section.Source) :
    Asks (source.refs.map (.mk owner)) (content store cancel owner use source) := by
  cases source with
  | inline given => exact asks_pure given
  | stored refs => exact asks_bind_pure (asks_values refs)

end Reading

/-- The value that a variable refers to. -/
def Section.VariableValue.refs : Section.VariableValue → List StoreRef
  | .literal _ => []
  | .secret ref => [ref]

/-- The values that a task reads for its owner. -/
def Task.demands (t : Task) : List Demand :=
  t.owner?.toList.flatMap (fun owner => t.refs.map (.mk owner))

namespace Task

variable {owner : RecordRef} {use : FileUse} {path content : String}
  {source : Section.Source} {v : Section.Variable}

@[simp] lemma refs_checkpoint : checkpoint.refs = [] := rfl
@[simp] lemma refs_find : (find owner use path source).refs = source.refs := rfl
@[simp] lemma refs_put : (put path content).refs = [] := rfl
@[simp] lemma refs_certificate (c : Section.Certificate) :
    (SideFile.certificate owner c).refs = c.source.refs := rfl

@[simp] lemma refs_define : (define owner v).refs = v.value.refs := by
  rw [refs]
  cases v.value <;> rfl

@[simp] lemma refs_mapping (backends : List (Entry Section.Backend)) (m : Section.RegexMapping) :
    (SideFile.mapping owner backends m).refs = [] := by
  rw [SideFile.mapping]
  split <;> rfl

/-- What a task reads, it reads for its owner. -/
lemma demands_eq (owner : RecordRef) {t : Task} (h : ∀ r ∈ t.owner?, r = owner) :
    t.demands = t.refs.map (.mk owner) := by
  cases t with
  | checkpoint => rfl
  | put path content => rfl
  | find r use path source => simp [demands, owner?, h r rfl]
  | define r v => simp [demands, owner?, h r rfl]
  | refuse r backend => rfl

end Task

namespace Reading

variable {store : Store} {cancel : Cancellation}

lemma asks_variableValue (owner : RecordRef) (v : Section.VariableValue) :
    Asks (v.refs.map (.mk owner)) (variableValue store cancel owner v) := by
  cases v with
  | literal given => exact asks_pure given
  | secret ref => exact asks_value ref

/-- **A task asks for its values.** -/
lemma asks_task (p : Progress) (t : Task) : Asks t.demands (task store cancel p t) := by
  cases t with
  | checkpoint => exact asks_bind_pure asks_checkpoint
  | find owner use path source =>
    rw [Task.demands_eq owner (by simp [Task.owner?]), Task.refs_find]
    exact asks_bind_pure (asks_content source)
  | put path content => exact asks_pure _
  | define owner v =>
    rw [Task.demands_eq owner (by simp [Task.owner?]), Task.refs_define]
    exact asks_bind_pure (asks_variableValue owner v.value)
  | refuse owner backend => exact asks_nil (fun _ => rfl) fun _ _ _ h => by cases h

lemma asks_foldlM (l : List Task) (p : Progress) :
    Asks (l.flatMap Task.demands) (l.foldlM (task store cancel) p) := by
  induction l generalizing p with
  | nil => exact asks_pure p
  | cons t rest ih =>
    rw [List.foldlM_cons, List.flatMap_cons]
    exact asks_bind (asks_task p t) fun q => ih q

/-- **A row of tasks asks for the values of its tasks.** -/
lemma asks_tasks (l : List Task) : Asks (l.flatMap Task.demands) (tasks store cancel l) :=
  asks_foldlM l .none

end Reading

/-! ## Sections -/

namespace Section

/-- The values that an error page refers to. -/
def ErrorFile.refs (e : ErrorFile) : List StoreRef := e.source.toList.flatMap Source.refs

/-- The values that an address refers to: those of its certificates, and then those of its
certificate list, which further certificates complete. -/
def Bind.refs (extra : List CertificateElement) (b : Bind) : List StoreRef :=
  b.certificates.flatMap (·.source.refs) ++
    b.certificateList.toList.flatMap
      (fun list => (list.elements ++ extra).flatMap (·.certificate.source.refs))

/-- The values that the servers of a pool and then its templates refer to. -/
def Pool.refs (p : Pool) : List StoreRef :=
  p.params.flatMap (fun s => s.certificates.flatMap (·.source.refs))

/-- The values that shared settings refer to: those of error pages, and then those of headers. -/
def Base.refs (b : Base) : List StoreRef :=
  b.errorFiles.flatMap ErrorFile.refs ++ b.environment.flatMap (·.value.refs)

/-- The values that an instance refers to. -/
def Instance.refs (i : Instance) : List StoreRef :=
  i.global.additionalCertificates.flatMap (·.source.refs) ++
    i.defaults.errorFiles.flatMap ErrorFile.refs

/-- The values that a listen refers to. -/
def Listen.refs (l : Listen) : List StoreRef :=
  l.binds.flatMap (Bind.refs l.hostCertificate.toList) ++ l.pool.refs ++ l.base.refs

/-- The values that a frontend and the backends that it selects refer to. -/
def Frontend.refs (backends : List (Entry Backend)) (f : Frontend) : List StoreRef :=
  f.binds.flatMap (fun b => b.refs (SideFile.selectedCertificates backends b)) ++ f.base.refs

/-- The values that a backend refers to, but for its host certificate, which only those who select
it read. -/
def Backend.refs (b : Backend) : List StoreRef := b.pool.refs ++ b.base.refs

end Section

/-- **The values that an instance and its fleet refer to**, each with the record that it is read
for: those of the instance, and then those of the listens, frontends and backends in order. -/
def Fleet.demands (owner : RecordRef) (i : Section.Instance) (f : Fleet) : List Demand :=
  i.refs.map (.mk owner) ++
    f.listens.flatMap (fun e => e.content.refs.map (.mk e.ref)) ++
    f.frontends.flatMap (fun e => (e.content.refs f.backends).map (.mk e.ref)) ++
    f.backends.flatMap (fun e => e.content.refs.map (.mk e.ref))

namespace SideFile

variable {owner : RecordRef}

/-- The values that a row of tasks reads. -/
def refs (l : List Task) : List StoreRef := l.flatMap Task.refs

@[simp] lemma refs_nil : refs [] = [] := rfl

@[simp] lemma refs_cons (t : Task) (l : List Task) : refs (t :: l) = t.refs ++ refs l := rfl

@[simp] lemma refs_append (l r : List Task) : refs (l ++ r) = refs l ++ refs r :=
  List.flatMap_append

@[simp] lemma refs_flatMap {α : Type} (l : List α) (g : α → List Task) :
    refs (l.flatMap g) = l.flatMap (fun a => refs (g a)) := List.flatMap_assoc

@[simp] lemma refs_map {α : Type} (l : List α) (g : α → Task) :
    refs (l.map g) = l.flatMap (fun a => (g a).refs) := List.flatMap_map ..

@[simp] lemma refs_errorFiles (files : List Section.ErrorFile) :
    refs (errorFiles owner files) = files.flatMap Section.ErrorFile.refs := by
  induction files with
  | nil => rfl
  | cons e rest ih =>
    rw [errorFiles, List.filterMap_cons, List.flatMap_cons, ← ih, Section.ErrorFile.refs]
    cases e.source <;> simp [errorFiles]

@[simp] lemma refs_element (e : Section.CertificateElement) :
    refs (element owner e) = e.certificate.source.refs := by
  rw [element]
  cases e.ocsp <;> simp

@[simp] lemma refs_bind (extra : List Section.CertificateElement) (b : Section.Bind) :
    refs (bind owner extra b) = b.refs extra := by
  rw [bind, Section.Bind.refs]
  cases b.certificateList <;> simp

@[simp] lemma refs_servers (p : Section.Pool) : refs (servers owner p.params) = p.refs := by
  simp [servers, Section.Pool.refs, List.flatMap_assoc]

@[simp] lemma refs_base (b : Section.Base) : refs (base owner b) = b.refs := by
  simp [base, Section.Base.refs]

@[simp] lemma refs_listen (e : Entry Section.Listen) : refs (listen e) = e.content.refs := by
  simp [listen, Section.Listen.refs]

@[simp] lemma refs_frontend (backends : List (Entry Section.Backend)) (e : Entry Section.Frontend) :
    refs (frontend backends e) = e.content.refs backends := by
  simp [frontend, Section.Frontend.refs]

@[simp] lemma refs_backend (e : Entry Section.Backend) : refs (backend e) = e.content.refs := by
  simp [backend, Section.Backend.refs]

/-- What tasks with one owner read, they read for it. -/
lemma OwnedBy.demands_eq {l : List Task} (h : OwnedBy owner l) :
    l.flatMap Task.demands = (refs l).map (.mk owner) := by
  rw [refs, List.map_flatMap]
  exact List.flatMap_congr fun t ht => Task.demands_eq owner (h t ht)

lemma demands_syslog (log : Option Section.LogTarget) :
    (syslog log).flatMap Task.demands = [] := by
  cases log with
  | none => rfl
  | some t => cases h : Address.isAddress t.address <;> simp [syslog, h, Task.demands]

/-- **The tasks of a pass ask for the values that the instance and its fleet refer to.** -/
lemma demands_tasks (i : Section.Instance) (f : Fleet) :
    (tasks owner i f).flatMap Task.demands = f.demands owner i := by
  have hinstance : (i.global.additionalCertificates.map (certificate owner) ++
      errorFiles owner i.defaults.errorFiles).flatMap Task.demands = i.refs.map (.mk owner) := by
    have howned : OwnedBy owner (i.global.additionalCertificates.map (certificate owner) ++
      errorFiles owner i.defaults.errorFiles) := by simp
    rw [howned.demands_eq]
    simp [Section.Instance.refs]
  have hlisten : ∀ e : Entry Section.Listen,
      (listen e).flatMap Task.demands = e.content.refs.map (.mk e.ref) := fun e => by
    have howned : OwnedBy e.ref (listen e) := by simp [listen]
    rw [howned.demands_eq, refs_listen]
  have hfrontend : ∀ e : Entry Section.Frontend, (frontend f.backends e).flatMap Task.demands =
      (e.content.refs f.backends).map (.mk e.ref) := fun e => by
    have howned : OwnedBy e.ref (frontend f.backends e) := by
      simpa [frontend] using fun m _ => owner_of_mapping
    rw [howned.demands_eq, refs_frontend]
  have hbackend : ∀ e : Entry Section.Backend,
      (backend e).flatMap Task.demands = e.content.refs.map (.mk e.ref) := fun e => by
    have howned : OwnedBy e.ref (backend e) := by simp [backend]
    rw [howned.demands_eq, refs_backend]
  rw [tasks, List.flatMap_append, List.flatMap_append, List.flatMap_append, List.flatMap_append,
    hinstance, demands_syslog, List.append_nil, Fleet.demands]
  simp only [List.flatMap_assoc, hlisten, hfrontend, hbackend]

end SideFile

end ProxyFleet
