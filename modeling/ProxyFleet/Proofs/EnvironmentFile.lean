import ProxyFleet.Proofs.CalledFiles
import ProxyFleet.Proofs.KeptValues
import ProxyFleet.Proofs.OneLine
import ProxyFleet.Proofs.SectionOrder

/-!
# The file of the environment

Headers may take their values from the environment of the proxy.  A file lists the variables.

**Lines.**  A line gives a name and a value with an equals sign between them, and is read back as
what stands before its first equals sign and after it (`SideFile.assignment?`).

**Files.**  Nothing in a name or a value is marked as belonging to it.  So the file is read back as
the variables that it was made from exactly if no name has an equals sign and no name or value has a
line feed (`SideFile.readEnvironment_iff`).

**Records.**  The variables are those that the headers of the records declare, in the order in which
the document shows the records (`Fleet.usedVariables_eq`).

Main statement: `Pass.environment_read_back_iff`.
-/

namespace ProxyFleet

namespace SideFile

/-! ## Lines -/

/-- What a line of the environment is read as: what stands before the first equals sign, and what
stands after it. -/
def assignment? (line : String) : Option (String × String) :=
  match line.toList.dropWhile (· != '=') with
  | [] => none
  | _ :: value =>
    some (String.ofList (line.toList.takeWhile (· != '=')), String.ofList value)

/-- A line is read as a name without an equals sign and a value. -/
lemma assignment?_eq_some_iff {line : String} {a : String × String} :
    assignment? line = some a ↔ line = assignment a ∧ '=' ∉ a.1.toList := by
  have hcut : assignment? line = (Text.cut '=' line).2.map ((Text.cut '=' line).1, ·) := by
    rw [assignment?, Text.cut]
    cases line.toList.dropWhile (· != '=') <;> rfl
  rw [hcut, Option.map_eq_some_iff]
  constructor
  · rintro ⟨value, hvalue, rfl⟩
    have hparts : Text.cut '=' line = ((Text.cut '=' line).1, some value) := Prod.ext rfl hvalue
    obtain ⟨hname, hline⟩ := Text.cut_eq_iff.1 hparts
    exact ⟨hline, hname⟩
  · rintro ⟨hline, hname⟩
    have hparts : Text.cut '=' line = (a.1, some a.2) := Text.cut_eq_iff.2 ⟨hname, hline⟩
    exact ⟨a.2, by rw [hparts], by rw [hparts]⟩

/-! ## Files -/

/-- What a text is read as, line by line.  A line without an equals sign gives no variable. -/
def readEnvironment (text : String) : List (Option (String × String)) :=
  (Text.lines text).map assignment?

/-- Lines that are read as given pairs are the lines of these. -/
lemma lines_of_assignments {lines : List String} {pairs : List (String × String)}
    (h : lines.map assignment? = pairs.map some) :
    lines = pairs.map assignment ∧ ∀ a ∈ pairs, '=' ∉ a.1.toList := by
  induction pairs generalizing lines with
  | nil => simpa using h
  | cons a rest ih =>
    obtain ⟨line, later, rfl, hline, hlater⟩ := List.map_eq_cons_iff.1 h
    obtain ⟨rfl, hname⟩ := assignment?_eq_some_iff.1 hline
    obtain ⟨rfl, hnames⟩ := ih hlater
    exact ⟨rfl, List.forall_mem_cons.2 ⟨hname, hnames⟩⟩

lemma oneLine_assignment {a : String × String} :
    OneLine (assignment a) ↔ OneLine a.1 ∧ OneLine a.2 := by
  rw [assignment, oneLine_append, oneLine_append]
  exact and_congr_left fun _ => and_iff_left (by decide)

/-- **When the environment is read back**: exactly if no name has an equals sign, and no name or
value has a line feed. -/
lemma readEnvironment_iff {pairs : List (String × String)} (hne : pairs ≠ []) :
    readEnvironment (String.intercalate "\n" (pairs.map assignment)) = pairs.map some ↔
      ∀ a ∈ pairs, '=' ∉ a.1.toList ∧ OneLine a.1 ∧ OneLine a.2 := by
  constructor
  · intro h
    obtain ⟨hlines, hnames⟩ := lines_of_assignments h
    have hone := Text.oneLines_lines (String.intercalate "\n" (pairs.map assignment))
    rw [hlines, oneLines_map] at hone
    exact fun a ha => ⟨hnames a ha, oneLine_assignment.1 (hone a ha)⟩
  · intro h
    have hone : OneLines (pairs.map assignment) :=
      oneLines_map.2 fun a ha => oneLine_assignment.2 (h a ha).2
    rw [readEnvironment, (Text.lines_intercalate_iff (by simpa using hne)).2 hone, List.map_map]
    exact List.map_congr_left fun a ha => assignment?_eq_some_iff.2 ⟨rfl, (h a ha).1⟩

end SideFile

/-! ## Records -/

/-- The value of a declared variable in a store: that of the secret as it is, if there is one, and
otherwise its text. -/
def Spec.Variable.resolve (store : Store) (space : String) (v : Spec.Variable) : Option String :=
  match v.source.bind (·.secretKey) with
  | some r => store.text? ⟨.secret, space, r.name, r.key⟩
  | none => some (v.value.getD "")

lemma Section.Variable.resolve_ofDeclared (store : Store) (space : String) (v : Spec.Variable) :
    (ofDeclared space v).resolve store = v.resolve store space := by
  rw [ofDeclared, Spec.Variable.resolve, resolve]
  cases v.source.bind (·.secretKey) <;> rfl

/-- The variables that headers of the records use: those of the listens, the frontends and the
backends, in the given order. -/
def Records.variables (r : Records) : List Spec.Variable :=
  r.listens.flatMap (·.spec.base.variables) ++ r.frontends.flatMap (·.spec.base.variables) ++
    r.backends.flatMap (·.spec.base.variables)

/-- Sections use the variables of their records. -/
lemma Record.Contributes.variables_eq {σ τ α : Type} {space : String}
    {check : String → σ → Except Fault α} {records order : List (Record σ τ)} {sections : List α}
    (declared : σ → Spec.Base) (base : α → Section.Base)
    (h : Record.Contributes check records order sections)
    (hbase : ∀ name spec s, check name spec = .ok s →
      Section.Base.Agrees space (declared spec) (base s)) :
    sections.flatMap (fun s => (base s).environment) =
      (order.flatMap (fun r => (declared r.spec).variables)).map
        (Section.Variable.ofDeclared space) := by
  rw [List.map_flatMap]
  exact Check.flatMap_eq h.checked fun r s hs =>
    Section.Base.environment_of_agrees (hbase _ _ _ hs)

/-- **A fleet uses the variables that its records declare**, in the order of the document. -/
lemma Fleet.usedVariables_eq {content : Section.Instance} {fleet : Fleet} {i : InstanceRecord}
    {records order : Records} (h : (Sections.ofFleet content fleet).Shows i records order) :
    SideFile.usedVariables fleet =
      order.variables.map (Section.Variable.ofDeclared (Pass.instanceRef i).space) := by
  have hl := h.listens.variables_eq Spec.Listen.base Section.Listen.base fun _ _ _ hs =>
    (Section.Listen.ofSpec_eq_ok_iff.1 hs).1.2
  have hf := h.frontends.variables_eq Spec.Frontend.base Section.Frontend.base fun _ _ _ hs =>
    (Section.Base.ofSpec_eq_ok_iff.1 (Section.Frontend.ofSpec_eq_ok_iff.1 hs).1).2
  have hb := h.backends.variables_eq Spec.Backend.base Section.Backend.base fun _ _ _ hs =>
    (Section.Backend.ofSpec_eq_ok_iff.1 hs).1.2
  simp only [Sections.ofFleet, List.flatMap_map] at hl hf hb
  rw [SideFile.usedVariables, Records.variables, List.map_append, List.map_append, hl, hf, hb]

namespace Pass

variable {store : Store} {cancel : Cancellation} {i : InstanceRecord} {records : Records}
  {set : ArtifactSet}

/-- The file of the environment lists the variables of a fleet. -/
lemma environment_of_tasks {content : Section.Instance} {fleet : Fleet} {p : Progress}
    {c d : Course} (h : Reading.exec (Reading.tasks store cancel
      (SideFile.tasks (instanceRef i) content fleet)) c = (.ok p, d)) :
    ∃ pairs, SideFile.Assigns store (SideFile.usedVariables fleet) pairs ∧
      (pairs = [] → p.allFiles.get? SideFile.envPath = none) ∧
      (pairs ≠ [] → p.allFiles.get? SideFile.envPath =
        some (String.intercalate "\n" (pairs.map SideFile.assignment))) := by
  obtain ⟨pairs, hpairs, henvironment⟩ := Reading.environment_of_foldlM h
  rw [SideFile.defined_tasks] at hpairs
  have hlines : p.environment = pairs.map SideFile.assignment := henvironment
  refine ⟨pairs, hpairs, ?_, ?_⟩
  · rintro rfl
    have hempty : p.environment.isEmpty = true := by
      rw [hlines]
      rfl
    have hfiles := (Reading.files_of_tasks h).2
    rw [Progress.allFiles, if_pos hempty, hfiles, Option.bind_eq_none_iff]
    intro source hlast
    exact absurd rfl (SideFile.mem_declarations.1 (mem_of_lastSource hlast)).path_ne_envPath
  · intro hne
    have hfilled : ¬p.environment.isEmpty = true := by
      rw [hlines, List.isEmpty_iff, List.map_eq_nil_iff]
      exact hne
    rw [Progress.allFiles, if_neg hfilled, KeyMap.get?_insert, if_pos rfl, hlines]

/-- **What the file of the environment says.**  In a pass that succeeds the file gives a name and a
value for each header that takes its value from a variable, in the order of the document, with the
value as it is declared or stored; without such headers there is no file.  It is read back as these
names and values exactly if no name has an equals sign and no name or value has a line feed. -/
theorem environment_read_back_iff (h : (run store cancel i records).result = .ok set) :
    ∃ (order : Records) (s : Sections) (pairs : List (String × String)),
      s.Shows i records order ∧ set.document = Fragment.render s.all ∧
      List.Forall₂
        (fun v a => a.1 = v.name ∧ v.resolve store (instanceRef i).space = some a.2)
        order.variables pairs ∧
      (pairs = [] → set.files.get? SideFile.envPath = none) ∧
      (pairs ≠ [] → ∃ text, set.files.get? SideFile.envPath = some text ∧
        text = String.intercalate "\n" (pairs.map SideFile.assignment) ∧
        (SideFile.readEnvironment text = pairs.map some ↔
          ∀ a ∈ pairs, '=' ∉ a.1.toList ∧ OneLine a.1 ∧ OneLine a.2)) := by
  obtain ⟨content, fleet, p, course, hprepare, hwork, rfl⟩ := run_eq_ok h
  have hshows := shows_of_prepare hprepare
  obtain ⟨pairs, hpairs, hnone, hsome⟩ := environment_of_tasks hwork
  rw [SideFile.Assigns, Fleet.usedVariables_eq hshows, List.forall₂_map_left_iff] at hpairs
  refine ⟨records.sorted, Sections.ofFleet content fleet, pairs, hshows, ?_, ?_, hnone, ?_⟩
  · rw [Sections.all_ofFleet]
  · refine hpairs.imp ?_
    rintro v a ⟨hname, hvalue⟩
    rw [Section.Variable.resolve_ofDeclared] at hvalue
    exact ⟨hname, hvalue⟩
  · intro hne
    exact ⟨_, hsome hne, rfl, SideFile.readEnvironment_iff hne⟩

/-- A backend with a header that takes its value from a stored variable. -/
def tokenBackend : BackendRecord :=
  .plain (some "edge") "pool"
    { Spec.Backend.none with
      base := { Spec.Base.none with
        httpRequest := some
          ⟨[⟨⟨none, none⟩, "Authorization",
            ⟨some ⟨"TOKEN", none, some ⟨some ⟨"auth", "token"⟩⟩⟩, none, some "Bearer %s"⟩⟩],
            [], [], [], [], .none, .none, .none⟩ } }

/-- A stored value with an equals sign is read back. -/
theorem environment_read_back_iff_equals_sign :
    let store : Store := fun _ => .ok (some (Text.utf8 "s3cr3t=="))
    let i : InstanceRecord := .plain (some "edge") "fleet" .none
    let records : Records := ⟨[], [], [tokenBackend], []⟩
    ∃ set text, (run store .never i records).result = .ok set ∧
      set.files.get? SideFile.envPath = some text ∧
      SideFile.readEnvironment text = [some ("TOKEN", "s3cr3t==")] := by
  intro store i records
  have hok : (run store .never i records).result.map (fun _ => ()) = .ok () := by decide +kernel
  obtain ⟨set, hset, -⟩ := Check.map_eq_ok_iff.1 hok
  obtain ⟨order, s, pairs, hshows, -, hpairs, -, hsome⟩ := environment_read_back_iff hset
  have hlistens := List.perm_nil.1 hshows.listens.perm
  have hfrontends := List.perm_nil.1 hshows.frontends.perm
  have hbackends := List.perm_singleton.1 hshows.backends.perm
  have hvariables : order.variables = [⟨"TOKEN", none, some ⟨some ⟨"auth", "token"⟩⟩⟩] := by
    rw [Records.variables, hlistens, hfrontends, hbackends]
    rfl
  have hone : pairs = [("TOKEN", "s3cr3t==")] := by
    rw [hvariables] at hpairs
    cases hpairs with
    | @cons _ a _ _ ha hrest =>
      cases hrest
      have hvalue : some a.2 = some "s3cr3t==" := ha.2.symm.trans (by decide)
      rw [List.singleton_inj]
      exact Prod.ext ha.1 (Option.some.inj hvalue)
  rw [hone] at hsome
  obtain ⟨text, hfile, -, hread⟩ := hsome (by simp)
  exact ⟨set, text, hset, hfile, hread.2 (by decide)⟩

/-- **A line feed at the end of a stored value is read as a line of its own**, which gives no
variable, and the value is read without it. -/
theorem stored_line_feed_ends_line :
    let store : Store := fun _ => .ok (some (Text.utf8 "s3cr3t\n"))
    let i : InstanceRecord := .plain (some "edge") "fleet" .none
    let records : Records := ⟨[], [], [tokenBackend], []⟩
    ∃ set, (run store .never i records).result = .ok set ∧
      set.files.get? SideFile.envPath = some "TOKEN=s3cr3t\n" ∧
      SideFile.readEnvironment "TOKEN=s3cr3t\n" = [some ("TOKEN", "s3cr3t"), none] ∧
      SideFile.readEnvironment "TOKEN=s3cr3t\n" ≠ [some ("TOKEN", "s3cr3t\n")] := by
  intro store i records
  have hfile : (run store .never i records).result.map
      (fun set => set.files.get? SideFile.envPath) = .ok (some "TOKEN=s3cr3t\n") := by
    decide +kernel
  obtain ⟨set, hset, henv⟩ := Check.map_eq_ok_iff.1 hfile
  exact ⟨set, hset, henv, by decide, by decide⟩

end Pass

end ProxyFleet
