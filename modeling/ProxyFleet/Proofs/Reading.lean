import Mathlib
import ProxyFleet.Pass
import ProxyFleet.Proofs.Latest

/-!
# Work on side files that succeeds

**Running.**  `Reading.exec` runs a computation from a point in the course of a pass, and one lemma
for each of its parts says what comes out.

**Declarations.**  A task that makes a file declares what the file is to hold: its path, and the
source of its content.  When a row of tasks succeeds, every declared source has a content, and a
path holds that of the last declaration with that path (`Reading.files_of_tasks`).
-/

namespace ProxyFleet

/-- A stored value as text, if there is one. -/
def Store.text? (store : Store) (ref : StoreRef) : Option String :=
  match store ref with
  | .ok (some bytes) => some (Text.ofBytes bytes)
  | _ => none

/-- The content that a source stands for in a store: a text as it is, or the stored values trimmed
and with line feeds between them. -/
def Section.Source.resolve (store : Store) : Section.Source → Option String
  | .inline content => some content
  | .stored refs =>
    (refs.mapM store.text?).map (fun values => String.intercalate "\n" (values.map Text.trim))

/-- A file that is to be made: its path, and where its content comes from. -/
structure Declaration where
  path : String
  source : Section.Source
  deriving DecidableEq

/-- The file that a task is to make. -/
def Task.declaration? : Task → Option Declaration
  | .find _ _ path source => some ⟨path, source⟩
  | .put path content => some ⟨path, .inline content⟩
  | _ => none

/-- The files that a row of tasks is to make, in the order of the tasks. -/
def SideFile.made (l : List Task) : List Declaration := l.filterMap Task.declaration?

/-- The source of the last declaration with a path. -/
def lastSource (path : String) (l : List Declaration) : Option Section.Source :=
  latest path (l.map (fun d => (d.path, d.source)))

lemma lastSource_cons (path : String) (d : Declaration) (rest : List Declaration) :
    lastSource path (d :: rest) =
      (lastSource path rest).or (if d.path = path then some d.source else none) :=
  latest_cons path _ _

/-- The last declaration with a path is one of them. -/
lemma mem_of_lastSource {path : String} {source : Section.Source} {l : List Declaration}
    (h : lastSource path l = some source) : ⟨path, source⟩ ∈ l := by
  obtain ⟨d, hd, heq⟩ := List.mem_map.1 (mem_of_latest h)
  cases heq
  exact hd

/-- A declared path has a last declaration. -/
lemma exists_lastSource_of_mem {d : Declaration} {l : List Declaration} (h : d ∈ l) :
    ∃ source, lastSource d.path l = some source :=
  exists_latest_of_mem (List.mem_map_of_mem (f := fun d : Declaration => (d.path, d.source)) h)

namespace Reading

variable {α β : Type} {store : Store} {cancel : Cancellation} {c d : Course}

/-! ## Running -/

/-- Runs a computation from a point in the course of a pass. -/
def exec (x : Reading α) (c : Course) : Except PassFault α × Course := x.run.run c

lemma exec_pure (a : α) (c : Course) : exec (pure a) c = (.ok a, c) := rfl
lemma exec_bind (x : Reading α) (f : α → Reading β) (c : Course) :
    exec (x >>= f) c = match exec x c with
      | (.ok a, d) => exec (f a) d
      | (.error e, d) => (.error e, d) := by
  have h : exec (x >>= f) c =
      (ExceptT.bindCont f (exec x c).1 : StateM Course (Except PassFault β)) (exec x c).2 := rfl
  rw [h]
  rcases exec x c with ⟨_ | a, d⟩ <;> rfl

lemma exec_checkpoint (cancel : Cancellation) (c : Course) : exec (checkpoint cancel) c =
    (if cancel.holds c.looks c.reads.length then .error .cancelled else .ok (),
      ⟨c.looks + 1, c.reads⟩) := by
  have h : exec (checkpoint cancel) c =
      exec (if cancel.holds c.looks c.reads.length then throw PassFault.cancelled else pure ())
        ⟨c.looks + 1, c.reads⟩ := rfl
  rw [h]
  cases cancel.holds c.looks c.reads.length <;> rfl

lemma exec_value (owner : RecordRef) (use : FileUse) (ref : StoreRef) (c : Course) :
   exec (value store cancel owner use ref) c =
    if cancel.holds c.looks c.reads.length then (.error .cancelled, ⟨c.looks + 1, c.reads⟩)
    else (match store ref with
      | .error cause => .error (.lookup owner (.failed ref cause))
      | .ok none => .error (.lookup owner (.missing use ref))
      | .ok (some bytes) => .ok (Text.ofBytes bytes), ⟨c.looks + 1, c.reads ++ [ref]⟩) := by
  rw [value, exec_bind, exec_checkpoint]
  cases cancel.holds c.looks c.reads.length
  · simp only [Bool.false_eq_true, if_false]
    rcases store ref with _ | _ | _ <;> rfl
  · rfl

/-- What comes out of two steps comes out of the second one. -/
lemma exec_bind_eq_ok {x : Reading α} {f : α → Reading β} {b : β}
    (h : exec (x >>= f) c = (.ok b, d)) :
    ∃ a e, exec x c = (.ok a, e) ∧ exec (f a) e = (.ok b, d) := by
  rw [exec_bind] at h
  rcases hx : exec x c with ⟨_ | a, e⟩
  · rw [hx] at h
    cases h
  · rw [hx] at h
    exact ⟨a, e, rfl, h⟩

/-! ## Values that were read -/

variable {owner : RecordRef} {use : FileUse}

/-- A value that was read is the text of a stored one. -/
lemma text?_of_value {ref : StoreRef} {text : String}
    (h : exec (value store cancel owner use ref) c = (.ok text, d)) :
    store.text? ref = some text := by
  rw [exec_value] at h
  split at h
  · cases h
  · rw [Store.text?]
    rcases hs : store ref with _ | _ | bytes
    · simp [hs] at h
    · simp [hs] at h
    · simp only [hs, Prod.mk.injEq, Except.ok.injEq] at h
      simp [h.1]

lemma texts_of_values {refs : List StoreRef} {texts : List String}
    (h : exec (refs.mapM (value store cancel owner use)) c = (.ok texts, d)) :
    refs.mapM store.text? = some texts := by
  induction refs generalizing c texts with
  | nil =>
    rw [List.mapM_nil, exec_pure] at h
    cases h
    rfl
  | cons ref rest ih =>
    rw [List.mapM_cons] at h
    obtain ⟨text, e, hvalue, h⟩ := exec_bind_eq_ok h
    obtain ⟨later, e', hrest, h⟩ := exec_bind_eq_ok h
    rw [exec_pure] at h
    cases h
    simp [text?_of_value hvalue, ih hrest]

/-- A content that was found is what its source stands for. -/
lemma resolve_of_content {source : Section.Source} {text : String}
    (h : exec (content store cancel owner use source) c = (.ok text, d)) :
    source.resolve store = some text := by
  cases source with
  | inline given =>
    rw [content, exec_pure] at h
    cases h
    rfl
  | stored refs =>
    rw [content] at h
    obtain ⟨values, e, hvalues, h⟩ := exec_bind_eq_ok h
    rw [exec_pure] at h
    cases h
    simp [Section.Source.resolve, texts_of_values hvalues]

/-! ## Files that were made -/

/-- A task that succeeds makes the file that it declares, and no other one. -/
lemma files_of_task {p q : Progress} {t : Task}
    (h : exec (task store cancel p t) c = (.ok q, d)) :
    (t.declaration? = none ∧ q.files = p.files) ∨
      ∃ decl text, t.declaration? = some decl ∧ decl.source.resolve store = some text ∧
        q.files = p.files.insert decl.path text := by
  cases t with
  | checkpoint =>
    obtain ⟨_, e, -, h⟩ := exec_bind_eq_ok h
    cases h
    exact .inl ⟨rfl, rfl⟩
  | find owner use path source =>
    obtain ⟨text, e, hcontent, h⟩ := exec_bind_eq_ok h
    cases h
    exact .inr ⟨_, text, rfl, resolve_of_content hcontent, rfl⟩
  | put path content =>
    cases h
    exact .inr ⟨_, content, rfl, rfl, rfl⟩
  | define owner v =>
    obtain ⟨text, e, -, h⟩ := exec_bind_eq_ok h
    cases h
    exact .inl ⟨rfl, rfl⟩
  | refuse owner backend => cases h

/-- **What a row of tasks that succeeds has made.**  Every declared source has a content, and a path
holds what the last declaration with that path stands for. -/
lemma files_of_foldlM {l : List Task} {p q : Progress}
    (h : exec (l.foldlM (task store cancel) p) c = (.ok q, d)) :
    (∀ decl ∈ SideFile.made l, ∃ text, decl.source.resolve store = some text) ∧
      ∀ path, q.files.get? path =
        (lastSource path (SideFile.made l)).elim (p.files.get? path) (·.resolve store) := by
  induction l generalizing p c with
  | nil =>
    rw [List.foldlM_nil, exec_pure] at h
    cases h
    simp [SideFile.made, lastSource]
  | cons t rest ih =>
    rw [List.foldlM_cons] at h
    obtain ⟨p', e, ht, h⟩ := exec_bind_eq_ok h
    obtain ⟨hresolve, hfiles⟩ := ih h
    rcases files_of_task ht with ⟨hnone, hsame⟩ | ⟨decl, text, hsome, htext, hput⟩
    · rw [SideFile.made, List.filterMap_cons_none hnone]
      rw [hsame] at hfiles
      exact ⟨hresolve, hfiles⟩
    · rw [SideFile.made, List.filterMap_cons_some hsome, ← SideFile.made]
      refine ⟨?_, fun path => ?_⟩
      · intro e he
        rcases List.mem_cons.1 he with rfl | he
        · exact ⟨text, htext⟩
        · exact hresolve e he
      · rw [hfiles path, hput, lastSource_cons]
        cases lastSource path (SideFile.made rest) with
        | some source => simp
        | none =>
          by_cases hpath : path = decl.path
          · simp [hpath, htext]
          · simp [hpath, Ne.symm hpath]

/-- What all tasks of a pass have made. -/
lemma files_of_tasks {l : List Task} {p : Progress}
    (h : exec (tasks store cancel l) c = (.ok p, d)) :
    (∀ decl ∈ SideFile.made l, ∃ text, decl.source.resolve store = some text) ∧
      ∀ path, p.files.get? path = (lastSource path (SideFile.made l)).bind (·.resolve store) := by
  obtain ⟨hresolve, hfiles⟩ := files_of_foldlM h
  refine ⟨hresolve, fun path => ?_⟩
  rw [hfiles path]
  cases lastSource path (SideFile.made l) <;> rfl

/-- A row of tasks that succeeds refuses nothing. -/
lemma not_refuse_of_foldlM {l : List Task} {p q : Progress}
    (h : exec (l.foldlM (task store cancel) p) c = (.ok q, d)) (owner backend : RecordRef) :
    .refuse owner backend ∉ l := by
  induction l generalizing p c with
  | nil => exact List.not_mem_nil
  | cons t rest ih =>
    rw [List.foldlM_cons] at h
    obtain ⟨p', e, ht, h⟩ := exec_bind_eq_ok h
    intro hmem
    rcases List.mem_cons.1 hmem with rfl | hmem
    · cases ht
    · exact ih h hmem

end Reading

/-! ## Passes -/

/-! ## Outcomes -/

/-- The outcome of a pass whose work on side files has come to a result. -/
def Outcome.ofWork (owner : RecordRef) (content : Section.Instance) (fleet : Fleet) :
    Except PassFault Progress × Course → Outcome
  | (.error e, course) => ⟨.error e, course.reads, Pass.failureStatuses owner e⟩
  | (.ok p, course) =>
    ⟨.ok ⟨Fragment.render (fleet.fragments content), p.allFiles⟩, course.reads,
      Pass.successStatuses owner fleet.refs⟩

@[simp] lemma Outcome.reads_ofWork (owner : RecordRef) (content : Section.Instance) (fleet : Fleet)
    (w : Except PassFault Progress × Course) :
    (ofWork owner content fleet w).reads = w.2.reads := by
  rcases w with ⟨e | p, course⟩
  · rfl
  · rfl

namespace Pass

/-- A pass that cannot be prepared reads nothing. -/
lemma run_of_prepare_error {store : Store} {cancel : Cancellation} {i : InstanceRecord}
    {records : Records} {e : PassFault} (h : prepare cancel i records = .error e) :
    run store cancel i records = ⟨.error e, [], failureStatuses (instanceRef i) e⟩ := by
  rw [run, h]

/-- A pass that is prepared turns to its side files. -/
lemma run_of_prepare {store : Store} {cancel : Cancellation} {i : InstanceRecord}
    {records : Records} {content : Section.Instance} {fleet : Fleet}
    (h : prepare cancel i records = .ok (content, fleet)) :
    run store cancel i records = .ofWork (instanceRef i) content fleet (Reading.exec
      (Reading.tasks store cancel (SideFile.tasks (instanceRef i) content fleet))
      (Course.afterFleet fleet)) := by
  rw [run, Reading.exec]
  simp only [h]
  rcases (Reading.tasks store cancel
    (SideFile.tasks (instanceRef i) content fleet)).run.run (Course.afterFleet fleet) with
    ⟨e | p, course⟩
  · rfl
  · rfl

/-- What a pass that succeeds has gone through. -/
lemma run_eq_ok {store : Store} {cancel : Cancellation} {i : InstanceRecord} {records : Records}
    {set : ArtifactSet} (h : (run store cancel i records).result = .ok set) :
    ∃ content fleet p course, prepare cancel i records = .ok (content, fleet) ∧
      Reading.exec (Reading.tasks store cancel (SideFile.tasks (instanceRef i) content fleet))
        (Course.afterFleet fleet) = (.ok p, course) ∧
      set = ⟨Fragment.render (fleet.fragments content), p.allFiles⟩ := by
  rw [run] at h
  cases hprepare : prepare cancel i records with
  | error e =>
    rw [hprepare] at h
    cases h
  | ok prepared =>
    obtain ⟨content, fleet⟩ := prepared
    simp only [hprepare] at h
    rcases hwork : (Reading.tasks store cancel
      (SideFile.tasks (instanceRef i) content fleet)).run.run (Course.afterFleet fleet) with
      ⟨_ | p, course⟩
    · simp only [hwork] at h
      cases h
    · simp only [hwork, Except.ok.injEq] at h
      exact ⟨content, fleet, p, course, rfl, hwork, h.symm⟩

end Pass

end ProxyFleet
