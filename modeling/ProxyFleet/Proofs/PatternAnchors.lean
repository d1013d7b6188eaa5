import ProxyFleet.Proofs.HostPatterns

/-!
# Anchors of host patterns

A file of patterns holds each host pattern between `^` and `$`.  Whether these two anchors hold for
all of the pattern depends on what stands between them.

**Reading.**  `Regex.Place` follows a pattern from its start: which groups are open, whether the
reader is inside brackets, and whether a backslash takes the next character literally.  A bar at the
top level ends an alternative (`Regex.alternatives`), since alternation binds weaker than all else.

**Anchors.**  An anchor belongs to the alternative that it stands in.  `Regex.Finds` is what this
means for hosts, whatever an alternative matches by itself: one that starts with `^` matches from the
start of a host, one that ends with the anchor `$` up to its end, and any other may match a part.

**Written patterns.**  Between the two anchors the first alternative is tied to the start and the
last one to the end (`Regex.alternatives_written`), so that both anchors hold for the whole exactly
if there is one alternative and no backslash takes the `$` (`Regex.anchorsWhole_written_iff`).

Main statement: `Pass.written_patterns_anchor_iff`.
-/

namespace ProxyFleet

namespace Regex

/-! ## Reading -/

/-- Where a reader stands with regard to brackets, which list the characters of a class. -/
inductive Brackets
  | outside
  /-- After the opening bracket, where a closing one stands for itself. -/
  | opened
  /-- After the opening bracket and the sign that turns the class around. -/
  | negated
  | listing
  /-- After a further opening bracket. -/
  | nested
  /-- In a name such as `[:alpha:]`. -/
  | naming
  /-- After a colon in a name. -/
  | named
  deriving DecidableEq

/-- One more character that no backslash takes literally. -/
def Brackets.step (c : Char) : Brackets → Brackets
  | .outside => if c = '[' then .opened else .outside
  | .opened => if c = '^' then .negated else if c = '[' then .nested else .listing
  | .negated => if c = '[' then .nested else .listing
  | .listing => if c = ']' then .outside else if c = '[' then .nested else .listing
  | .nested =>
    if c = ':' then .naming else if c = ']' then .outside else if c = '[' then .nested else .listing
  | .naming => if c = ':' then .named else .naming
  | .named => if c = ']' then .listing else if c = ':' then .named else .naming

/-- Where a reader of a pattern stands. -/
structure Place where
  /-- How many groups are open. -/
  groups : Nat
  brackets : Brackets
  /-- Whether a backslash takes the next character literally. -/
  escaped : Bool
  deriving DecidableEq

namespace Place

/-- The start of a pattern. -/
def start : Place := ⟨0, .outside, false⟩

/-- One more character.  Parentheses count outside of brackets only. -/
def step (p : Place) (c : Char) : Place :=
  if p.escaped then
    ⟨p.groups, if p.brackets = .outside then .outside else .listing, false⟩
  else if c = '\\' then ⟨p.groups, p.brackets, true⟩
  else if p.brackets = .outside ∧ c = '(' then ⟨p.groups + 1, .outside, false⟩
  else if p.brackets = .outside ∧ c = ')' then ⟨p.groups - 1, .outside, false⟩
  else ⟨p.groups, p.brackets.step c, false⟩

/-- Whether the next character is in no group, in no brackets, and not taken literally. -/
def AtTop (p : Place) : Prop := p = start

instance (p : Place) : Decidable p.AtTop := inferInstanceAs (Decidable (p = start))

/-- Where a reader stands after a text. -/
def after (l : List Char) : Place := l.foldl step start

/-- An anchor at the start leaves a reader where he is. -/
@[simp] lemma step_caret : start.step '^' = start := by decide

lemma after_caret (l : List Char) : after ('^' :: l) = after l := by
  rw [after, List.foldl_cons, step_caret, after]

end Place

/-- Whether a pattern has a bar at the top level, which parts two alternatives. -/
def HasOpenBar (l : List Char) : Prop :=
  ∃ front back, l = front ++ '|' :: back ∧ (Place.after front).AtTop

/-- The alternatives of a pattern that is read from some place on. -/
def alternativesFrom (p : Place) : List Char → List (List Char)
  | [] => [[]]
  | c :: rest =>
    if p.AtTop ∧ c = '|' then [] :: alternativesFrom (p.step c) rest
    else (alternativesFrom (p.step c) rest).modifyHead (c :: ·)

/-- The alternatives of a pattern: what stands between its bars at the top level. -/
def alternatives (l : List Char) : List (List Char) := alternativesFrom .start l

lemma alternativesFrom_ne_nil (p : Place) (l : List Char) : alternativesFrom p l ≠ [] := by
  induction l generalizing p with
  | nil => simp [alternativesFrom]
  | cons c rest ih =>
    rw [alternativesFrom]
    split
    · simp
    · simpa using ih (p.step c)

/-- A pattern with no bar at the top level is its one alternative, and no other one is. -/
lemma alternativesFrom_eq_singleton_iff (p : Place) (l : List Char) :
    alternativesFrom p l = [l] ↔
      ¬∃ front back, l = front ++ '|' :: back ∧ (front.foldl Place.step p).AtTop := by
  induction l generalizing p with
  | nil => simp [alternativesFrom]
  | cons c rest ih =>
    -- a bar in the row is the first character or stands in the rest
    have hcons : (∃ front back, c :: rest = front ++ '|' :: back ∧
        (front.foldl Place.step p).AtTop) ↔ (p.AtTop ∧ c = '|') ∨
        ∃ front back, rest = front ++ '|' :: back ∧
          (front.foldl Place.step (p.step c)).AtTop := by
      constructor
      · rintro ⟨front, back, heq, htop⟩
        cases front with
        | nil =>
          rw [List.nil_append, List.cons.injEq] at heq
          exact .inl ⟨htop, heq.1⟩
        | cons d front =>
          rw [List.cons_append, List.cons.injEq] at heq
          obtain ⟨rfl, heq⟩ := heq
          exact .inr ⟨front, back, heq, htop⟩
      · rintro (⟨htop, rfl⟩ | ⟨front, back, rfl, htop⟩)
        · exact ⟨[], rest, rfl, htop⟩
        · exact ⟨c :: front, back, rfl, htop⟩
    rw [hcons, alternativesFrom]
    split
    · rename_i hbar
      simp [hbar]
    · rename_i hbar
      rw [not_or, ← ih (p.step c)]
      obtain ⟨a, others, halternatives⟩ :=
        List.exists_cons_of_ne_nil (alternativesFrom_ne_nil (p.step c) rest)
      simp [halternatives, hbar]

lemma alternatives_eq_singleton_iff {l : List Char} :
    alternatives l = [l] ↔ ¬HasOpenBar l := alternativesFrom_eq_singleton_iff .start l

/-- A character at the end that is no bar belongs to the last alternative. -/
lemma alternativesFrom_append_singleton {p : Place} {l last : List Char}
    {others : List (List Char)} {c : Char} (hc : c ≠ '|')
    (h : alternativesFrom p l = others ++ [last]) :
    alternativesFrom p (l ++ [c]) = others ++ [last ++ [c]] := by
  induction l generalizing p others last with
  | nil =>
    rw [alternativesFrom, eq_comm, List.append_eq_singleton_iff] at h
    rcases h with ⟨rfl, hlast⟩ | ⟨-, hlast⟩
    · rw [← List.singleton_inj.1 hlast.symm]
      simp [alternativesFrom, hc]
    · cases hlast
  | cons d rest ih =>
    obtain ⟨init, final, hrest⟩ := (List.eq_nil_or_concat' _).resolve_left
      (alternativesFrom_ne_nil (p.step d) rest)
    have ih := ih hrest
    rw [alternativesFrom] at h
    rw [List.cons_append, alternativesFrom, ih]
    split
    · rename_i hbar
      rw [if_pos hbar, hrest, ← List.cons_append, List.append_singleton_inj] at h
      rw [← h.1, ← h.2]
      rfl
    · rename_i hbar
      rw [if_neg hbar, hrest] at h
      cases init with
      | nil =>
        rw [List.nil_append, List.modifyHead_cons, eq_comm, List.append_eq_singleton_iff] at h
        rcases h with ⟨rfl, hlast⟩ | ⟨-, hlast⟩
        · rw [List.singleton_inj.1 hlast]
          rfl
        · cases hlast
      | cons first init =>
        rw [List.cons_append, List.modifyHead_cons, ← List.cons_append,
          List.append_singleton_inj] at h
        rw [← h.1, ← h.2]
        rfl

/-! ## Anchors -/

/-- How many backslashes stand at the end of a text. -/
def backslashes (l : List Char) : Nat := (l.reverse.takeWhile (· = '\\')).length

/-- Whether a text starts with an anchor. -/
def StartsAnchored (l : List Char) : Prop := l.head? = some '^'

/-- Whether a text ends with an anchor: a `$` that no backslash takes literally. -/
def EndsAnchored (l : List Char) : Prop := ∃ front, l = front ++ ['$'] ∧ Even (backslashes front)

/-- **Whether anchors hold for a whole pattern**: it starts with one and ends with one, and there is
no bar at the top level between them. -/
structure AnchorsWhole (l : List Char) : Prop where
  starts : StartsAnchored l
  ends : EndsAnchored l
  closed : ¬HasOpenBar l

/-- **Whether a pattern is found in a host**, where `part` says what an alternative matches by
itself.  An anchor counts for the alternative that it stands in. -/
def Finds (part : List Char → List Char → Prop) (pattern host : List Char) : Prop :=
  ∃ a ∈ alternatives pattern, ∃ before middle after, host = before ++ middle ++ after ∧
    part a middle ∧ (StartsAnchored a → before = []) ∧ (EndsAnchored a → after = [])

variable {part : List Char → List Char → Prop} {pattern host : List Char}

/-- Where the anchors hold for all of it, a pattern is found in no more than what it matches. -/
lemma AnchorsWhole.part_of_finds (h : AnchorsWhole pattern) (hfinds : Finds part pattern host) :
    part pattern host := by
  obtain ⟨a, ha, before, middle, after, rfl, hpart, hstart, hend⟩ := hfinds
  rw [alternatives_eq_singleton_iff.2 h.closed, List.mem_singleton] at ha
  subst ha
  rw [hstart h.starts, hend h.ends]
  simpa using hpart

/-- An alternative that does not end with an anchor is found in front of anything. -/
lemma finds_append {a : List Char} (ha : a ∈ alternatives pattern) (hend : ¬EndsAnchored a)
    (hpart : part a host) (after : List Char) : Finds part pattern (host ++ after) :=
  ⟨a, ha, [], host, after, by simp, hpart, fun _ => rfl, fun h => absurd h hend⟩

/-- An alternative that does not start with an anchor is found behind anything. -/
lemma finds_prepend {a : List Char} (ha : a ∈ alternatives pattern) (hstart : ¬StartsAnchored a)
    (hpart : part a host) (before : List Char) : Finds part pattern (before ++ host) :=
  ⟨a, ha, before, host, [], by simp, hpart, fun h => absurd h hstart, fun _ => rfl⟩

/-! ## Written patterns -/

/-- A pattern between the two anchors. -/
def written (bare : String) : String := "^" ++ bare ++ "$"

lemma toList_written (bare : String) : (written bare).toList = '^' :: (bare.toList ++ ['$']) := by
  simp [written]

/-- The anchors add no bar at the top level and hide none. -/
lemma hasOpenBar_written {bare : String} :
    HasOpenBar (written bare).toList ↔ HasOpenBar bare.toList := by
  rw [toList_written]
  constructor
  · rintro ⟨front, back, heq, htop⟩
    cases front with
    | nil => simp at heq
    | cons c front =>
      rw [List.cons_append, List.cons.injEq] at heq
      obtain ⟨rfl, heq⟩ := heq
      rw [Place.after_caret] at htop
      -- the last character is the anchor and not the bar
      obtain ⟨rest, d, hback⟩ := (List.eq_nil_or_concat' ('|' :: back)).resolve_left (by simp)
      rw [hback, ← List.append_assoc, List.append_singleton_inj] at heq
      obtain ⟨hbare, rfl⟩ := heq
      cases rest with
      | nil => simp at hback
      | cons b rest =>
        rw [List.cons_append, List.cons.injEq] at hback
        obtain ⟨rfl, -⟩ := hback
        exact ⟨front, rest, hbare, htop⟩
  · rintro ⟨front, back, heq, htop⟩
    refine ⟨'^' :: front, back ++ ['$'], by simp [heq], ?_⟩
    rwa [Place.after_caret]

lemma EndsAnchored.getLast?_eq {l : List Char} (h : EndsAnchored l) : l.getLast? = some '$' := by
  obtain ⟨front, rfl, -⟩ := h
  simp

lemma endsAnchored_append {l : List Char} : EndsAnchored (l ++ ['$']) ↔ Even (backslashes l) := by
  constructor
  · rintro ⟨front, heq, heven⟩
    rw [List.append_singleton_inj] at heq
    rwa [heq.1]
  · intro heven
    exact ⟨l, rfl, heven⟩

/-- An anchor at the start is no backslash at the end. -/
lemma backslashes_caret (l : List Char) : backslashes ('^' :: l) = backslashes l := by
  rw [backslashes, backslashes, List.reverse_cons, List.takeWhile_append]
  split
  · rename_i hall
    simpa using hall.symm
  · rfl

/-- **When the two anchors hold for all of a pattern**: if it has no bar at the top level, and no
backslash at its end takes the second anchor literally. -/
lemma anchorsWhole_written_iff {bare : String} :
    AnchorsWhole (written bare).toList ↔
      ¬HasOpenBar bare.toList ∧ Even (backslashes bare.toList) := by
  have hends : EndsAnchored (written bare).toList ↔ Even (backslashes bare.toList) := by
    rw [toList_written, ← List.cons_append, endsAnchored_append, backslashes_caret]
  have hstarts : StartsAnchored (written bare).toList := by
    rw [toList_written]
    rfl
  rw [← hends, ← hasOpenBar_written]
  constructor
  · intro h
    exact ⟨h.closed, h.ends⟩
  · rintro ⟨hclosed, hends⟩
    exact ⟨hstarts, hends, hclosed⟩

/-- **The anchors go to the first and to the last alternative.** -/
lemma alternatives_written {bare : String} {first last : List Char} {others : List (List Char)}
    (h : alternatives bare.toList = first :: (others ++ [last])) :
    alternatives (written bare).toList =
      ('^' :: first) :: (others ++ [last ++ ['$']]) := by
  rw [alternatives, ← List.cons_append] at h
  have hend := alternativesFrom_append_singleton (c := '$') (by decide) h
  have hcaret : ¬(Place.start.AtTop ∧ '^' = '|') := by decide
  rw [toList_written, alternatives, alternativesFrom, if_neg hcaret, Place.step_caret, hend]
  rfl

end Regex

/-- **Any text may be declared as a host pattern.**  No check of a backend looks at it. -/
lemma Section.Backend.ofSpec_hostRegex {space name : String} {spec : Spec.Backend} {b : Backend}
    (h : ofSpec space name spec = .ok b) (regex : String) :
    ofSpec space name { spec with hostRegex := regex } =
      .ok { b with hostRegex := nonEmpty regex } := by
  obtain ⟨hbase, hpool, hhost, hname, -⟩ := ofSpec_eq_ok_iff.1 h
  exact ofSpec_eq_ok_iff.2 ⟨hbase, hpool, hhost, hname, rfl⟩

namespace Pass

variable {store : Store} {cancel : Cancellation} {i : InstanceRecord} {records : Records}
  {set : ArtifactSet}

/-- The file of a mapping has a line for every backend that the mapping selects. -/
lemma exists_line_of_ok {content : Section.Instance} {fleet : Fleet}
    (h : prepare cancel i records = .ok (content, fleet))
    (hset : (run store cancel i records).result = .ok set) {e : Entry Section.Frontend}
    (he : e ∈ fleet.frontends) {m : Section.RegexMapping} (hm : m ∈ e.content.mappings) :
    ∃ lines : List String,
      SideFile.Declares content fleet ⟨m.path, .inline (String.intercalate "\n" lines)⟩ ∧
      ∀ b ∈ fleet.selectedBy m, ∃ regex bare, b.content.hostRegex = some regex ∧
        SideFile.Bare regex bare ∧ Regex.written bare ++ " " ++ b.content.name ∈ lines := by
  have hregex := regex_ne_none_of_ok h hset he hm
  refine ⟨_, .mapping he hm (SideFile.regexLines_eq_ok hregex), ?_⟩
  intro b hb
  have hhost : SideFile.host b ∈ (fleet.selectedBy m).map SideFile.host := List.mem_map_of_mem hb
  obtain ⟨regex, bare, hpattern, hbare, hline⟩ := SideFile.Host.isLine_line (hregex _ hhost)
  refine ⟨regex, bare, hpattern, hbare, List.mem_mergeSort.2 ?_⟩
  have htext : Regex.written bare ++ " " ++ b.content.name = (SideFile.host b).line := by
    have hanchor : "$ " = "$" ++ " " := rfl
    rw [hline, Regex.written, hanchor, ← String.append_assoc]
    rfl
  rw [htext]
  exact List.mem_map_of_mem hhost

/-- **When a written pattern is anchored as a whole.**  Any text may be declared as a host pattern.
In a pass that succeeds the file of every mapping has a line for each backend that it selects, with
the bare pattern between two anchors and the name of the backend.  The anchors hold for all of the
pattern exactly if it has no bar at the top level and does not end with an odd number of
backslashes, and then it is found in no host of which it matches only a part.  Otherwise the first
alternative has the one anchor and the last one the other, and an alternative without an anchor at
its end is found in front of anything, one without an anchor at its start behind anything. -/
theorem written_patterns_anchor_iff (h : (run store cancel i records).result = .ok set) :
    (∀ space name spec b, Section.Backend.ofSpec space name spec = .ok b → ∀ regex,
      Section.Backend.ofSpec space name { spec with hostRegex := regex } =
        .ok { b with hostRegex := Section.nonEmpty regex }) ∧
    (∃ content fleet, prepare cancel i records = .ok (content, fleet) ∧
      ∀ e ∈ fleet.frontends, ∀ m ∈ e.content.mappings, ∃ lines : List String,
        SideFile.Declares content fleet ⟨m.path, .inline (String.intercalate "\n" lines)⟩ ∧
        ∀ b ∈ fleet.selectedBy m, ∃ regex bare, b.content.hostRegex = some regex ∧
          SideFile.Bare regex bare ∧ Regex.written bare ++ " " ++ b.content.name ∈ lines) ∧
    ∀ bare : String,
      (Regex.AnchorsWhole (Regex.written bare).toList ↔
        ¬Regex.HasOpenBar bare.toList ∧ Even (Regex.backslashes bare.toList)) ∧
      (Regex.AnchorsWhole (Regex.written bare).toList → ∀ part host,
        Regex.Finds part (Regex.written bare).toList host → part (Regex.written bare).toList host) ∧
      (∀ first others last, Regex.alternatives bare.toList = first :: (others ++ [last]) →
        Regex.alternatives (Regex.written bare).toList =
          ('^' :: first) :: (others ++ [last ++ ['$']])) ∧
      ∀ a ∈ Regex.alternatives (Regex.written bare).toList, ∀ part host, part a host →
        (¬Regex.EndsAnchored a → ∀ after,
          Regex.Finds part (Regex.written bare).toList (host ++ after)) ∧
        (¬Regex.StartsAnchored a → ∀ before,
          Regex.Finds part (Regex.written bare).toList (before ++ host)) := by
  refine ⟨fun _ _ _ _ hspec => Section.Backend.ofSpec_hostRegex hspec, ?_, fun bare => ⟨
    Regex.anchorsWhole_written_iff, fun hwhole _ _ => hwhole.part_of_finds,
    fun _ _ _ => Regex.alternatives_written, fun a ha part host hpart => ⟨
      fun hend => Regex.finds_append ha hend hpart,
      fun hstart => Regex.finds_prepend ha hstart hpart⟩⟩⟩
  obtain ⟨content, fleet, p, course, hprepare, -⟩ := run_eq_ok h
  exact ⟨content, fleet, hprepare, fun e he m hm => exists_line_of_ok hprepare h he hm⟩

/-- Alternatives in a group are anchored with it. -/
theorem written_patterns_anchor_iff_group :
    let store : Store := fun _ => .ok none
    let i : InstanceRecord := .plain (some "edge") "fleet" .none
    let records : Records := ⟨[], [SideFile.mappingFrontend],
      [SideFile.patternBackend "pool" "(shop|blog)[.]test"], []⟩
    ∃ set, (run store .never i records).result = .ok set ∧
      set.files.get? (inConfigDir "hosts.map") = some "^(shop|blog)[.]test$ pool" ∧
      ∀ part host, Regex.Finds part "^(shop|blog)[.]test$".toList host →
        part "^(shop|blog)[.]test$".toList host := by
  intro store i records
  have hfile : (run store .never i records).result.map
      (fun set => set.files.get? (inConfigDir "hosts.map")) =
        .ok (some "^(shop|blog)[.]test$ pool") := by decide +kernel
  obtain ⟨set, hset, hmap⟩ := Check.map_eq_ok_iff.1 hfile
  obtain ⟨-, -, hanchors⟩ := written_patterns_anchor_iff hset
  obtain ⟨hiff, hwhole, -, -⟩ := hanchors "(shop|blog)[.]test"
  have hwritten : Regex.written "(shop|blog)[.]test" = "^(shop|blog)[.]test$" := by decide
  rw [hwritten] at hiff hwhole
  have hsingle : Regex.alternatives "(shop|blog)[.]test".toList = ["(shop|blog)[.]test".toList] := by
    decide
  have hanchored := hiff.2 ⟨Regex.alternatives_eq_singleton_iff.1 hsingle, by decide⟩
  exact ⟨set, hset, hmap, hwhole hanchored⟩

/-- **Alternatives that are in no group share the anchors.**  The pattern of a backend that serves
two hosts is found in every host that starts with the first one. -/
theorem alternatives_share_anchors :
    let store : Store := fun _ => .ok none
    let i : InstanceRecord := .plain (some "edge") "fleet" .none
    let records : Records := ⟨[], [SideFile.mappingFrontend],
      [SideFile.patternBackend "pool" "shop[.]test|blog[.]test"], []⟩
    let pattern := "^shop[.]test|blog[.]test$"
    ∃ set, (run store .never i records).result = .ok set ∧
      set.files.get? (inConfigDir "hosts.map") = some (pattern ++ " pool") ∧
      Regex.StartsAnchored pattern.toList ∧ Regex.EndsAnchored pattern.toList ∧
      ¬Regex.AnchorsWhole pattern.toList ∧
      ∀ part host, part "^shop[.]test".toList host → ∀ after,
        Regex.Finds part pattern.toList (host ++ after) := by
  intro store i records pattern
  have hfile : (run store .never i records).result.map
      (fun set => set.files.get? (inConfigDir "hosts.map")) = .ok (some (pattern ++ " pool")) := by
    decide +kernel
  obtain ⟨set, hset, hmap⟩ := Check.map_eq_ok_iff.1 hfile
  have hbar : Regex.HasOpenBar pattern.toList :=
    ⟨"^shop[.]test".toList, "blog[.]test$".toList, by decide, by decide⟩
  have hends : Regex.EndsAnchored pattern.toList :=
    ⟨"^shop[.]test|blog[.]test".toList, by decide, by decide⟩
  have hfirst : "^shop[.]test".toList ∈ Regex.alternatives pattern.toList := by decide
  have hfree : ¬Regex.EndsAnchored "^shop[.]test".toList :=
    fun h => absurd h.getLast?_eq (by decide)
  have hstarts : Regex.StartsAnchored pattern.toList := by
    rw [Regex.StartsAnchored]
    decide
  exact ⟨set, hset, hmap, hstarts, hends, fun h => h.closed hbar,
    fun _ _ hpart => Regex.finds_append hfirst hfree hpart⟩

end Pass

end ProxyFleet
