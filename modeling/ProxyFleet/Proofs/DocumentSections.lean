import ProxyFleet.Proofs.OneLine

/-!
# Sections of a document

What can be told from the text of a document about the fragments that it is made of.

**Lines.**  The first line of a section is cut at its first blank, so that a section without a name
differs from one with an empty name (`Fragment.readHeader?_eq_some_iff`).  Every other line is a
statement behind two blanks, whatever the statement looks like
(`Fragment.ofLines?_eq_some_iff`).

**Documents.**  A document may be written section by section (`Fragment.render_eq_foldl`).  No line
of a section is empty, so that blank lines tell the sections apart (`Fragment.splitOn_eq_iff`).

**Reading.**  What is read is what was written, if every line was written on one line, and nothing
else is read (`Fragment.read?_eq_some_iff`).

Main statement: `Fragment.read_render`.
-/

namespace ProxyFleet

/-! ## Rows -/

/-- A row is read as what was written if each of its members is. -/
lemma mapM_eq_some_iff {α β : Type} {read : α → Option β} {write : β → α}
    (h : ∀ a b, read a = some b ↔ write b = a) {l : List α} {r : List β} :
    l.mapM read = some r ↔ r.map write = l := by
  induction l generalizing r with
  | nil => simp [eq_comm]
  | cons a rest ih =>
    simp only [List.mapM_cons, Option.bind_eq_bind, Option.pure_def, Option.bind_eq_some_iff,
      Option.some.injEq, h, ih]
    constructor
    · rintro ⟨b, rfl, later, rfl, rfl⟩
      rfl
    · intro hr
      obtain ⟨b, later, rfl, hb, hlater⟩ := List.map_eq_cons_iff.1 hr
      exact ⟨b, hb, later, hlater, rfl⟩

namespace Fragment

variable {s : String} {f : Fragment} {fragments : List Fragment}

/-! ## Lines -/

/-- The kind that a word stands for. -/
def kind? (word : String) : Option FragmentKind :=
  [.global, .defaults, .resolvers, .frontend, .backend].find? (·.keyword = word)

lemma kind?_eq_some_iff {word : String} {kind : FragmentKind} :
    kind? word = some kind ↔ kind.keyword = word := by
  constructor
  · intro h
    simpa using List.find?_some h
  · rintro rfl
    cases kind <;> decide

/-- Reads the first line of a section. -/
def readHeader? (s : String) : Option (FragmentKind × Option String) :=
  (kind? (Text.cut ' ' s).1).map (·, (Text.cut ' ' s).2)

lemma readHeader?_eq_some_iff : readHeader? s = some (f.kind, f.name) ↔ f.header = s := by
  have hkeyword : ' ' ∉ f.kind.keyword.toList := by cases f.kind <;> decide
  have hheader : f.header = f.name.elim f.kind.keyword
      (fun name => f.kind.keyword ++ String.singleton ' ' ++ name) := by
    rw [header]
    cases f.name <;> rfl
  have hcut : Text.cut ' ' s = (f.kind.keyword, f.name) ↔ f.header = s := by
    rw [Text.cut_eq_iff, ← hheader, and_iff_right hkeyword, eq_comm]
  rw [← hcut, readHeader?, Option.map_eq_some_iff]
  constructor
  · rintro ⟨kind, hkind, heq⟩
    obtain ⟨rfl, hname⟩ := Prod.mk.inj heq
    exact Prod.ext (kind?_eq_some_iff.1 hkind).symm hname
  · intro h
    rw [h]
    exact ⟨f.kind, kind?_eq_some_iff.2 rfl, rfl⟩

lemma clean_iff : f.Clean ↔ OneLines f.name.toList ∧ OneLines f.statements := by
  have hkeyword : OneLine f.kind.keyword := by cases f.kind <;> decide
  have hblank : OneLine " " := by decide
  rw [Clean, header]
  cases f.name <;> simp [hkeyword, hblank]

/-- Reads the lines of a section. -/
def ofLines? : List String → Option Fragment
  | [] => none
  | first :: rest => do
    let (kind, name) ← readHeader? first
    let statements ← rest.mapM (Text.withoutStart "  ")
    return ⟨kind, name, statements⟩

lemma ofLines?_eq_some_iff {l : List String} : ofLines? l = some f ↔ f.lines = l := by
  cases l with
  | nil => simp [ofLines?, lines]
  | cons first rest =>
    have hstatements : rest.mapM (Text.withoutStart "  ") = some f.statements ↔
        f.statements.map ("  " ++ ·) = rest :=
      mapM_eq_some_iff fun a b => Text.withoutStart_eq_some_iff.trans eq_comm
    rw [lines, List.cons.injEq, ← readHeader?_eq_some_iff, ← hstatements]
    simp only [ofLines?, Option.bind_eq_bind, Option.pure_def, Option.bind_eq_some_iff,
      Option.some.injEq]
    constructor
    · rintro ⟨⟨kind, name⟩, hheader, statements, hrest, rfl⟩
      exact ⟨hheader, hrest⟩
    · rintro ⟨hheader, hrest⟩
      exact ⟨_, hheader, _, hrest, rfl⟩

/-! ## Documents -/

/-- No line of a section is empty. -/
lemma ne_empty_of_mem_lines {line : String} (h : line ∈ f.lines) : line ≠ "" := by
  have hkeyword : f.kind.keyword ≠ "" := by cases f.kind <;> decide
  rw [lines, List.mem_cons, List.mem_map] at h
  rcases h with rfl | ⟨statement, -, rfl⟩
  · rw [header]
    cases f.name <;> simp [hkeyword]
  · simp

/-- The lines of a document as groups, the last of which is that after the last section. -/
lemma intercalate_lines_append (hne : fragments ≠ []) :
    [""].intercalate (fragments.map lines ++ [[]]) = documentLines fragments ++ [""] := by
  induction fragments with
  | nil => exact absurd rfl hne
  | cons f rest ih =>
    cases rest with
    | nil => simp [documentLines, List.intercalate_cons_cons]
    | cons g rest =>
      rw [documentLines_cons_cons, List.append_assoc, List.cons_append, ← ih (by simp)]
      simp [List.intercalate_cons_cons]

/-- **Blank lines stand between the sections** of a document, and nowhere else. -/
lemma splitOn_eq_iff (hne : fragments ≠ []) {l : List String} :
    l.splitOn "" = fragments.map lines ++ [[]] ↔ l = documentLines fragments ++ [""] := by
  rw [← intercalate_lines_append hne]
  constructor
  · intro h
    rw [← h, List.intercalate_splitOn]
  · rintro rfl
    refine List.splitOn_intercalate "" (fun group hgroup hmem => ?_) (by simp)
    rcases List.mem_append.1 hgroup with hgroup | hgroup
    · obtain ⟨f, -, rfl⟩ := List.mem_map.1 hgroup
      exact ne_empty_of_mem_lines hmem rfl
    · rw [List.mem_singleton.1 hgroup] at hmem
      cases hmem

/-- A document ends with the last section. -/
lemma exists_documentLines_eq (hne : fragments ≠ []) :
    ∃ f ∈ fragments, ∃ front, documentLines fragments = front ++ f.lines := by
  induction fragments with
  | nil => exact absurd rfl hne
  | cons f rest ih =>
    cases rest with
    | nil => exact ⟨f, List.mem_cons_self, [], by simp [documentLines]⟩
    | cons g rest =>
      obtain ⟨last, hlast, front, heq⟩ := ih (by simp)
      refine ⟨last, List.mem_cons_of_mem _ hlast, f.lines ++ "" :: front, ?_⟩
      rw [documentLines_cons_cons, heq, List.append_assoc, List.cons_append]

/-- The text of a document is its lines, and a line feed. -/
lemma render_eq_append (hne : fragments ≠ []) :
    render fragments = String.intercalate "\n" (documentLines fragments) ++ "\n" := by
  obtain ⟨f, -, front, heq⟩ := exists_documentLines_eq hne
  have hlines : documentLines fragments ≠ [] := by
    rw [heq]
    simp [lines]
  rw [render_eq hne, String.intercalate_append_of_ne_nil hlines (by simp),
    String.intercalate_singleton, String.append_empty]

lemma render_eq_empty_iff : render fragments = "" ↔ fragments = [] := by
  constructor
  · intro h
    by_contra hne
    rw [render_eq_append hne] at h
    simp at h
  · rintro rfl
    rfl

/-- The text of a document with one more section behind it. -/
def written (document : String) (f : Fragment) : String :=
  (if document.isEmpty then document else document ++ "\n") ++ f.text ++ "\n"

/-- Sections are written behind a text that stands already with a blank line before them. -/
lemma foldl_written {document : String} (h : document ≠ "") (hne : fragments ≠ []) :
    fragments.foldl written document = document ++ "\n" ++ render fragments := by
  have hstands : document.isEmpty = false := by simpa using h
  induction fragments generalizing document with
  | nil => exact absurd rfl hne
  | cons f rest ih =>
    have hwritten : written document f = document ++ "\n" ++ f.text ++ "\n" := by
      simp [written, hstands]
    rw [List.foldl_cons, hwritten]
    cases rest with
    | nil => simp [render, String.append_assoc]
    | cons g rest =>
      rw [ih (by simp) (by simp) (by simp), render_cons_cons]
      simp only [String.append_assoc]

/-- **A document grows section by section**, with a blank line where something stands already. -/
lemma render_eq_foldl (fragments : List Fragment) :
    render fragments = fragments.foldl written "" := by
  cases fragments with
  | nil => rfl
  | cons f rest =>
    have hfirst : written "" f = f.text ++ "\n" := by simp [written]
    rw [List.foldl_cons, hfirst]
    cases rest with
    | nil => simp [render]
    | cons g rest => rw [foldl_written (by simp) (by simp), render_cons_cons]

/-- A document that is not empty ends with one line feed, and not with two. -/
lemma exists_render_eq (hne : fragments ≠ []) (h : ∀ f ∈ fragments, f.Clean) :
    ∃ body, render fragments = body ++ "\n" ∧ body ≠ "" ∧
      body.toList.getLast? ≠ some '\n' := by
  obtain ⟨f, hf, front, heq⟩ := exists_documentLines_eq hne
  have hlines : f.lines ≠ [] := by simp [lines]
  have hmem := List.getLast_mem hlines
  have hsplit := List.dropLast_append_getLast hlines
  generalize f.lines.getLast hlines = last at hmem hsplit
  have hlast : last.toList ≠ [] := by simpa using ne_empty_of_mem_lines hmem
  obtain ⟨start, hbody⟩ : ∃ start,
      String.intercalate "\n" (documentLines fragments) = start ++ last := by
    rw [heq, ← hsplit, ← List.append_assoc]
    by_cases hbefore : front ++ f.lines.dropLast = []
    · exact ⟨"", by rw [hbefore]; simp⟩
    · exact ⟨_, by rw [String.intercalate_append_of_ne_nil hbefore (by simp),
        String.intercalate_singleton]⟩
  refine ⟨_, render_eq_append hne, ?_, ?_⟩
  · rw [hbody]
    intro hempty
    exact hlast (String.toList_eq_nil_iff.2 (String.append_eq_empty_iff.1 hempty).2)
  · rw [hbody, String.toList_append, List.getLast?_append_of_ne_nil _ hlast]
    exact fun hfeed => oneLines_lines.2 (h f hf) last hmem (List.mem_of_getLast? hfeed)

/-! ## Reading -/

/-- Reads a document. -/
def read? (s : String) : Option (List Fragment) :=
  if s = "" then some [] else
    let groups := (Text.lines s).splitOn ""
    if groups.getLast? = some [] then groups.dropLast.mapM ofLines? else none

/-- The groups of lines that are read as fragments. -/
lemma read?_eq_some_iff_splitOn (hs : s ≠ "") :
    read? s = some fragments ↔ (Text.lines s).splitOn "" = fragments.map lines ++ [[]] := by
  have hsections := mapM_eq_some_iff (l := ((Text.lines s).splitOn "").dropLast) (r := fragments)
    fun a b => ofLines?_eq_some_iff (l := a) (f := b)
  simp only [read?, if_neg hs]
  constructor
  · intro h
    split at h
    · rename_i hlast
      rw [hsections.1 h, List.dropLast_append_getLast? _ hlast]
    · cases h
  · intro h
    rw [h] at hsections ⊢
    simpa using hsections

/-- **What is read is what was written**, and nothing else is read. -/
lemma read?_eq_some_iff :
    read? s = some fragments ↔ (∀ f ∈ fragments, f.Clean) ∧ render fragments = s := by
  by_cases hs : s = ""
  · subst hs
    rw [read?, if_pos rfl, render_eq_empty_iff, Option.some.injEq, eq_comm]
    refine ⟨fun h => ⟨?_, h⟩, And.right⟩
    rw [h]
    exact List.forall_mem_nil _
  · rw [read?_eq_some_iff_splitOn hs]
    by_cases hne : fragments = []
    · subst hne
      refine ⟨fun h => absurd ?_ (List.splitOn_ne_nil '\n' s.toList), fun h => absurd h.2.symm hs⟩
      have hlines : [""].intercalate ((Text.lines s).splitOn "") = Text.lines s :=
        List.intercalate_splitOn ""
      rw [h] at hlines
      exact List.map_eq_nil_iff.1 hlines.symm
    · rw [splitOn_eq_iff hne]
      constructor
      · intro h
        have hrender : render fragments = s := by
          rw [render_eq hne, ← h, Text.intercalate_lines]
        rw [← hrender] at h
        exact ⟨(lines_render_iff hne).1 h, hrender⟩
      · rintro ⟨hclean, rfl⟩
        exact (lines_render_iff hne).2 hclean

/-- **A document tells its sections.**  If no name and no statement of several fragments has a line
feed, the fragments are read back from the text of their document, and no other ones have the same
text.  The text is empty exactly if there are none, and otherwise ends with one line feed, and not
with two. -/
theorem read_render (fragments : List Fragment)
    (h : ∀ f ∈ fragments, OneLines f.name.toList ∧ OneLines f.statements) :
    read? (render fragments) = some fragments ∧
      (∀ others : List Fragment,
        (∀ f ∈ others, OneLines f.name.toList ∧ OneLines f.statements) →
          render others = render fragments → others = fragments) ∧
      (render fragments = "" ↔ fragments = []) ∧
      (render fragments ≠ "" → ∃ body, render fragments = body ++ "\n" ∧ body ≠ "" ∧
        body.toList.getLast? ≠ some '\n') := by
  have hclean : ∀ f ∈ fragments, f.Clean := fun f hf => clean_iff.2 (h f hf)
  have hread := read?_eq_some_iff.2 ⟨hclean, rfl⟩
  refine ⟨hread, fun others hothers heq => ?_, render_eq_empty_iff, fun hne => ?_⟩
  · have hothers' := read?_eq_some_iff.2 ⟨fun f hf => clean_iff.2 (hothers f hf), heq⟩
    exact Option.some.inj (hothers'.symm.trans hread)
  · exact exists_render_eq (fun hnil => hne (render_eq_empty_iff.2 hnil)) hclean

/-- An empty section, a section with an empty name and with statements that look like a header or
like nothing, and a name with blanks. -/
theorem read_render_lookalikes :
    let fragments : List Fragment := [⟨.global, none, []⟩,
      ⟨.frontend, some "", ["", "backend web", "  "]⟩, ⟨.backend, some "web  x", [""]⟩]
    render fragments =
        "global\n\nfrontend \n  \n  backend web\n    \n\nbackend web  x\n  \n" ∧
      read? "global\n\nfrontend \n  \n  backend web\n    \n\nbackend web  x\n  \n" =
        some fragments ∧
      ∀ others : List Fragment,
        (∀ f ∈ others, OneLines f.name.toList ∧ OneLines f.statements) →
          render others = render fragments → others = fragments := by
  intro fragments
  have hlines : ∀ f ∈ fragments, OneLines f.name.toList ∧ OneLines f.statements := by decide
  have hrender : render fragments =
      "global\n\nfrontend \n  \n  backend web\n    \n\nbackend web  x\n  \n" := by decide
  obtain ⟨hread, hinj, -⟩ := read_render fragments hlines
  rw [hrender] at hread
  exact ⟨hrender, hread, hinj⟩

end Fragment

end ProxyFleet
