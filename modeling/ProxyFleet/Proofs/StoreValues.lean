import ProxyFleet.Proofs.Checks
import ProxyFleet.Proofs.Plain
import ProxyFleet.Proofs.Reading
import ProxyFleet.Proofs.RecordOrder

/-!
# Where stored values go

Secrets come out of a pass in the contents of side files and nowhere else.

**Stores.**  Two stores are alike when they answer every reference in the same way, up to the value
that they give and the reason why they fail (`Store.Alike`).

**Work in two stores.**  Work is alike in two stores when it comes equally far, fails on the same
record in the same way, and otherwise has results that are related (`Reading.Alike`).  One lemma for
each part of the work says so, up to a single task (`Reading.alike_task`) and a row of tasks
(`Reading.alike_tasks`), whose files have the same paths in both stores (`Progress.Alike`).

Main statement: `Pass.run_of_alike`.
-/

namespace ProxyFleet

variable {α β γ δ : Type}

/-! ## Stores -/

/-- Whether two answers are of the same kind: both are values, or both objects lack the key, or both
objects could not be read. -/
inductive StoreAnswer.Alike : StoreAnswer → StoreAnswer → Prop
  | value (x y : List UInt8) : Alike (.ok (some x)) (.ok (some y))
  | missing : Alike (.ok none) (.ok none)
  | failed (x y : String) : Alike (.error x) (.error y)

/-- Whether two stores answer every reference in the same way, up to the value. -/
def Store.Alike (s t : Store) : Prop := ∀ ref, StoreAnswer.Alike (s ref) (t ref)

/-! ## Faults -/

namespace PassFault

variable {e f : PassFault}

/-- A fault without the reason why a store could not read an object, which nobody is shown. -/
def withoutCause : PassFault → PassFault
  | .lookup record (.failed ref _) => .lookup record (.failed ref "")
  | e => e

@[simp] lemma record?_withoutCause (e : PassFault) : e.withoutCause.record? = e.record? := by
  unfold withoutCause
  split <;> rfl

@[simp] lemma statusMessage_withoutCause (e : PassFault) :
    e.withoutCause.statusMessage = e.statusMessage := by
  unfold withoutCause
  split <;> rfl

@[simp] lemma message_withoutCause (e : PassFault) : e.withoutCause.message = e.message := by
  unfold withoutCause
  split <;> rfl

@[simp] lemma withoutCause_eq_cancelled_iff : e.withoutCause = .cancelled ↔ e = .cancelled := by
  unfold withoutCause
  split <;> simp

/-- Whether two faults differ at most in the reason why a store could not read an object. -/
def Alike (e f : PassFault) : Prop := e.withoutCause = f.withoutCause

namespace Alike

variable (h : e.Alike f)
include h

lemma record?_eq : e.record? = f.record? := by
  rw [← record?_withoutCause e, h, record?_withoutCause]

lemma statusMessage_eq : e.statusMessage = f.statusMessage := by
  rw [← statusMessage_withoutCause e, h, statusMessage_withoutCause]

lemma message_eq : e.message = f.message := by
  rw [← message_withoutCause e, h, message_withoutCause]

lemma eq_cancelled_iff : e = .cancelled ↔ f = .cancelled := by
  rw [← withoutCause_eq_cancelled_iff, h, withoutCause_eq_cancelled_iff]

lemma failureStatuses_eq (owner : RecordRef) :
    Pass.failureStatuses owner e = Pass.failureStatuses owner f := by
  simp only [Pass.failureStatuses, h.eq_cancelled_iff, h.record?_eq, h.statusMessage_eq]

end Alike

end PassFault

/-- Whether two results are alike: both are values that are related, or both are faults that are
alike. -/
inductive ResultsAlike (R : α → β → Prop) : Except PassFault α → Except PassFault β → Prop
  | ok {a : α} {b : β} (h : R a b) : ResultsAlike R (.ok a) (.ok b)
  | error {e f : PassFault} (h : e.Alike f) : ResultsAlike R (.error e) (.error f)

/-! ## Work in two stores -/

/-- Whether two stages of the work have files with the same paths, and equally many variables. -/
structure Progress.Alike (p q : Progress) : Prop where
  paths : ∀ path, p.files.contains path = q.files.contains path
  environment : p.environment.length = q.environment.length

/-- The file of the environment is there in both or in neither. -/
lemma Progress.Alike.contains_allFiles {p q : Progress} (h : p.Alike q) (path : String) :
    p.allFiles.contains path = q.allFiles.contains path := by
  have hempty : p.environment.isEmpty = q.environment.isEmpty := by
    rw [Bool.eq_iff_iff, List.isEmpty_iff_length_eq_zero, List.isEmpty_iff_length_eq_zero,
      h.environment]
  rw [Progress.allFiles, Progress.allFiles, hempty]
  split
  · exact h.paths path
  · simp only [KeyMap.contains_insert, h.paths path]

namespace Reading

variable {s t : Store} {cancel : Cancellation} {owner : RecordRef} {use : FileUse}

/-- Whether two computations are alike: from wherever they start, they come equally far, make the
same reads, and have results that are alike. -/
def Alike (R : α → β → Prop) (x : Reading α) (y : Reading β) : Prop :=
  ∀ c, ResultsAlike R (exec x c).1 (exec y c).1 ∧ (exec x c).2 = (exec y c).2

lemma alike_pure {R : α → β → Prop} {a : α} {b : β} (h : R a b) :
    Alike R (pure a) (pure b) := fun _ => ⟨.ok h, rfl⟩

/-- A computation that does not use the store is alike to itself. -/
lemma alike_refl (x : Reading α) : Alike Eq x x := by
  intro c
  refine ⟨?_, rfl⟩
  cases (exec x c).1 with
  | error e => exact .error rfl
  | ok a => exact .ok rfl

/-- Two steps are alike when the first ones are, and the second ones for related values. -/
lemma alike_bind {R : α → β → Prop} {S : γ → δ → Prop} {x : Reading α} {y : Reading β}
    {f : α → Reading γ} {g : β → Reading δ} (hxy : Alike R x y)
    (hfg : ∀ a b, R a b → Alike S (f a) (g b)) : Alike S (x >>= f) (y >>= g) := by
  intro c
  obtain ⟨hresult, hcourse⟩ := hxy c
  rw [exec_bind, exec_bind]
  rcases hx : exec x c with ⟨_ | a, d⟩ <;> rcases hy : exec y c with ⟨_ | b, d'⟩ <;>
    rw [hx, hy] at hresult hcourse <;> cases hcourse <;> cases hresult
  · exact ⟨.error ‹_›, rfl⟩
  · exact hfg a b ‹_› d

/-! ### Values -/

/-- A value that is read is nothing to compare. -/
def anyValues (_ : α) (_ : β) : Prop := True

lemma alike_value (h : s.Alike t) (ref : StoreRef) :
    Alike anyValues (value s cancel owner use ref) (value t cancel owner use ref) := by
  intro c
  rw [exec_value, exec_value]
  cases cancel.holds c.looks c.reads.length with
  | true => exact ⟨.error rfl, rfl⟩
  | false =>
    refine ⟨?_, rfl⟩
    simp only [Bool.false_eq_true, if_false]
    have hanswer := h ref
    generalize s ref = x, t ref = y at hanswer ⊢
    cases hanswer with
    | value => exact .ok trivial
    | missing => exact .error rfl
    | failed => exact .error rfl

lemma alike_values (h : s.Alike t) (refs : List StoreRef) :
    Alike anyValues (refs.mapM (value s cancel owner use))
      (refs.mapM (value t cancel owner use)) := by
  induction refs with
  | nil => exact alike_pure trivial
  | cons ref rest ih =>
    rw [List.mapM_cons, List.mapM_cons]
    exact alike_bind (alike_value h ref) fun _ _ _ =>
      alike_bind ih fun _ _ _ => alike_pure trivial

lemma alike_content (h : s.Alike t) (source : Section.Source) :
    Alike anyValues (content s cancel owner use source) (content t cancel owner use source) := by
  cases source with
  | inline given => exact alike_pure trivial
  | stored refs => exact alike_bind (alike_values h refs) fun _ _ _ => alike_pure trivial

lemma alike_variableValue (h : s.Alike t) (v : Section.VariableValue) :
    Alike anyValues (variableValue s cancel owner v) (variableValue t cancel owner v) := by
  cases v with
  | literal given => exact alike_pure trivial
  | secret ref => exact alike_value h ref

/-! ### Tasks -/

/-- **A task is alike in stores that are alike**: where it makes a file, it makes one at the same
path, and where it adds a variable, it adds one. -/
lemma alike_task (h : s.Alike t) {p q : Progress} (hpq : p.Alike q) (task : Task) :
    Alike Progress.Alike (Reading.task s cancel p task) (Reading.task t cancel q task) := by
  -- the paths stay the same whatever the contents are
  have hinsert : ∀ (path a b : String),
      Progress.Alike { p with files := p.files.insert path a }
        { q with files := q.files.insert path b } := by
    refine fun path a b => ⟨fun k => ?_, hpq.environment⟩
    rw [KeyMap.contains_insert, KeyMap.contains_insert, hpq.paths]
  cases task with
  | checkpoint => exact alike_bind (alike_refl _) fun _ _ _ => alike_pure hpq
  | find owner use path source =>
    exact alike_bind (alike_content h source) fun a b _ => alike_pure (hinsert path a b)
  | put path content => exact alike_pure (hinsert path content content)
  | define owner v =>
    refine alike_bind (alike_variableValue h v.value) fun a b _ => alike_pure ⟨hpq.paths, ?_⟩
    simp [hpq.environment]
  | refuse owner backend => exact fun _ => ⟨.error rfl, rfl⟩

/-- A row of tasks is alike in stores that are alike, from stages that are. -/
lemma alike_foldlM (h : s.Alike t) {p q : Progress} (hpq : p.Alike q) (l : List Task) :
    Alike Progress.Alike (l.foldlM (task s cancel) p) (l.foldlM (task t cancel) q) := by
  induction l generalizing p q with
  | nil => exact alike_pure hpq
  | cons first rest ih =>
    rw [List.foldlM_cons, List.foldlM_cons]
    exact alike_bind (alike_task h hpq first) fun _ _ hlater => ih hlater

/-- All work on side files is alike in stores that are alike. -/
lemma alike_tasks (h : s.Alike t) (cancel : Cancellation) (l : List Task) :
    Alike Progress.Alike (tasks s cancel l) (tasks t cancel l) :=
  alike_foldlM h ⟨fun _ => rfl, rfl⟩ l

end Reading

namespace Pass

/-- **Stored values go into the contents of side files and nowhere else.**  In two stores that
answer every reference in the same way, up to the value, a pass makes the same reads and reports the
same statuses.  Either it succeeds in both with the same document and files at the same paths, or it
fails in both with the same kind of fault on the same record, and with the same messages. -/
theorem run_of_alike {s t : Store} (h : s.Alike t) (cancel : Cancellation) (i : InstanceRecord)
    (records : Records) :
    (run s cancel i records).reads = (run t cancel i records).reads ∧
      (run s cancel i records).statuses = (run t cancel i records).statuses ∧
      ((∃ a b, (run s cancel i records).result = .ok a ∧ (run t cancel i records).result = .ok b ∧
        a.document = b.document ∧ ∀ path, a.files.contains path = b.files.contains path) ∨
      ∃ e f, (run s cancel i records).result = .error e ∧
        (run t cancel i records).result = .error f ∧ e.withoutCause = f.withoutCause ∧
        e.record? = f.record? ∧ e.message = f.message ∧ e.statusMessage = f.statusMessage) := by
  rw [run, run]
  cases hprepare : prepare cancel i records with
  | error e => exact ⟨rfl, rfl, .inr ⟨e, e, rfl, rfl, rfl, rfl, rfl, rfl⟩⟩
  | ok prepared =>
    obtain ⟨content, fleet⟩ := prepared
    simp only
    obtain ⟨hresult, hcourse⟩ := Reading.alike_tasks h cancel
      (SideFile.tasks (instanceRef i) content fleet) (Course.afterFleet fleet)
    simp only [Reading.exec] at hresult hcourse
    rcases hs : (Reading.tasks s cancel (SideFile.tasks (instanceRef i) content fleet)).run.run
      (Course.afterFleet fleet) with ⟨resultₛ, c⟩
    rcases ht : (Reading.tasks t cancel (SideFile.tasks (instanceRef i) content fleet)).run.run
      (Course.afterFleet fleet) with ⟨resultₜ, d⟩
    rw [hs, ht] at hresult hcourse
    cases hcourse
    cases hresult with
    | @ok p q hpq => exact ⟨rfl, rfl, .inl ⟨_, _, rfl, rfl, rfl, hpq.contains_allFiles⟩⟩
    | @error e f hef =>
      exact ⟨rfl, hef.failureStatuses_eq _, .inr ⟨e, f, rfl, rfl, hef, hef.record?_eq,
        hef.message_eq, hef.statusMessage_eq⟩⟩

/-- Two stores with other certificates under the same keys. -/
theorem run_of_alike_certificates :
    let s : Store := fun r => .ok (some (Text.utf8 r.name))
    let t : Store := fun r => .ok (some (Text.utf8 r.key))
    let i : InstanceRecord := .plain (some "edge") "fleet" .none
    let records : Records := ⟨[], [storedFrontend (some "edge") "web"], [], []⟩
    s.Alike t ∧ ∃ a b, (run s .never i records).result = .ok a ∧
      (run t .never i records).result = .ok b ∧ a.document = b.document ∧
      a.files.get? (inConfigDir "web.crt") = some "tls-web" ∧
      b.files.get? (inConfigDir "web.crt") = some "pem" := by
  intro s t i records
  have halike : s.Alike t := fun _ => .value _ _
  have hs : (run s .never i records).result.map (·.files.get? (inConfigDir "web.crt")) =
      .ok (some "tls-web") := by cbv
  have ht : (run t .never i records).result.map (·.files.get? (inConfigDir "web.crt")) =
      .ok (some "pem") := by cbv
  obtain ⟨a, ha, hfile⟩ := Check.map_eq_ok_iff.1 hs
  obtain ⟨b, hb, hfile'⟩ := Check.map_eq_ok_iff.1 ht
  obtain ⟨-, -, hresult⟩ := run_of_alike halike .never i records
  rcases hresult with ⟨a', b', ha', hb', hdocument, -⟩ | ⟨e, f, he, -⟩
  · rw [ha] at ha'
    rw [hb] at hb'
    cases ha'
    cases hb'
    exact ⟨halike, a, b, ha, hb, hdocument, hfile, hfile'⟩
  · rw [ha] at he
    cases he

end Pass

end ProxyFleet
