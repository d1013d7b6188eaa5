import Mathlib
import ProxyFleet.Synthesizer

/-!
# Counting passes

A synthesizer takes nothing from one pass into the next but its counters, and every pass is counted
once, whatever way it ends.

**Runs.**  `Synthesizer.run_eq` : a row of passes comes to what each of them comes to on its own,
and the counters have recorded the results in order.

**One result.**  `Counters.count_record` and `Counters.total_record` say what one more result adds to
a counter and to all of them.

**Results in a row.**  `Counters.count_foldl` and `Counters.total_foldl` count them, and
`Counters.sideFiles_foldl` says that the last one that succeeded has left its number of files.

Main statement: `Synthesizer.run_counts_passes`.
-/

namespace ProxyFleet

/-! ## Sums -/

namespace KeyMap

/-- The sum of the values of a map. -/
def total (m : KeyMap Nat) : Nat := (m.entries.map (·.2)).sum

lemma sum_insertEntry {key : String} {value : Nat} {l : List (String × Nat)}
    (h : l.Pairwise (fun a b => a.1 < b.1)) :
    ((insertEntry key value l).map (·.2)).sum + (l.lookup key).getD 0 =
      (l.map (·.2)).sum + value := by
  induction l with
  | nil => simp [insertEntry]
  | cons d rest ih =>
    obtain ⟨hd, hrest⟩ := List.pairwise_cons.1 h
    rw [insertEntry, lookup_cons_eq_ite]
    split
    · rename_i hlt
      -- the key comes before all that are there
      have hnone : rest.lookup key = none := by
        rw [List.lookup_eq_none_iff]
        intro e he
        have hne : key ≠ e.1 := fun heq => String.lt_irrefl _ (heq ▸ String.lt_trans hlt (hd e he))
        simpa using hne
      have hne : key ≠ d.1 := fun heq => String.lt_irrefl _ (heq ▸ hlt)
      simp [hne, hnone]
      omega
    · split
      · rename_i hlt
        have hne : key ≠ d.1 := fun heq => String.lt_irrefl _ (heq ▸ hlt)
        have hih := ih hrest
        simp only [if_neg hne, List.map_cons, List.sum_cons]
        omega
      · rename_i h₁ h₂
        have heq : key = d.1 := key_eq_of_not_lt h₁ h₂
        simp [heq]
        omega

/-- What an insertion changes in the sum. -/
lemma total_insert (m : KeyMap Nat) (key : String) (value : Nat) :
    (m.insert key value).total + (m.get? key).getD 0 = m.total + value :=
  sum_insertEntry m.ascending

end KeyMap

/-! ## Results -/

namespace Counters

/-- How many passes have ended with a label. -/
def count (c : Counters) (label : String) : Nat := (c.passes.get? label).getD 0

lemma passes_record (c : Counters) (r : Except PassFault ArtifactSet) :
    (c.record r).passes = c.passes.insert (resultLabel r) (c.count (resultLabel r) + 1) := rfl

/-- One more result is counted under its label alone. -/
lemma count_record (c : Counters) (r : Except PassFault ArtifactSet) (label : String) :
    (c.record r).count label = c.count label + if resultLabel r = label then 1 else 0 := by
  rw [count, passes_record, KeyMap.get?_insert]
  by_cases h : resultLabel r = label
  · simp [h]
  · simp [h, Ne.symm h, count]

lemma total_record (c : Counters) (r : Except PassFault ArtifactSet) :
    (c.record r).passes.total = c.passes.total + 1 := by
  have hinsert := c.passes.total_insert (resultLabel r) (c.count (resultLabel r) + 1)
  rw [← count] at hinsert
  rw [passes_record]
  omega

lemma count_foldl (results : List (Except PassFault ArtifactSet)) (c : Counters)
    (label : String) :
    (results.foldl record c).count label =
      c.count label + results.countP (fun r => resultLabel r = label) := by
  induction results generalizing c with
  | nil => rfl
  | cons r rest ih =>
    rw [List.foldl_cons, ih, count_record, List.countP_cons]
    simp only [decide_eq_true_eq]
    omega

lemma total_foldl (results : List (Except PassFault ArtifactSet)) (c : Counters) :
    (results.foldl record c).passes.total = c.passes.total + results.length := by
  induction results generalizing c with
  | nil => rfl
  | cons r rest ih =>
    rw [List.foldl_cons, ih, total_record, List.length_cons]
    omega

/-- **The last artifact set leaves its number of files**, and what fails after it leaves that be. -/
lemma sideFiles_foldl (results : List (Except PassFault ArtifactSet)) (c : Counters) :
    (results.foldl record c).sideFiles =
      ((results.filterMap Except.toOption).getLast?.map (·.files.size)).getD c.sideFiles := by
  induction results generalizing c with
  | nil => rfl
  | cons r rest ih =>
    rw [List.foldl_cons, ih]
    cases r with
    | error e => rfl
    | ok set =>
      rw [List.filterMap_cons_some (by rfl), List.getLast?_cons]
      cases (rest.filterMap Except.toOption).getLast? <;> rfl

end Counters

/-! ## Runs -/

namespace Synthesizer

lemma run_eq (t : Synthesizer) (passes : List PassInput) :
    t.run passes = (passes.map (fun p => ⟨p.outcome, p.outcome.statuses.map p.sink⟩),
      ⟨t.counters.map (fun c => (passes.map (·.outcome.result)).foldl Counters.record c)⟩) := by
  induction passes generalizing t with
  | nil => cases t with | mk counters => cases counters <;> rfl
  | cons p rest ih =>
    have hfirst : t.run (p :: rest) =
        ((t.synthesize p).1 :: ((t.synthesize p).2.run rest).1, ((t.synthesize p).2.run rest).2) :=
      rfl
    rw [hfirst, ih]
    cases t with | mk counters => cases counters <;> rfl

/-- **Every pass counts once, and counts for nothing else.**  After a row of passes each of them has
come to what it comes to in a synthesizer that has run no other, each counter is the number of
passes that ended in its way, all counters make up the number of passes, and the number of side
files is that of the last pass that succeeded. -/
theorem run_counts_passes (passes : List PassInput) :
    let results := passes.map (·.outcome.result)
    (fresh.run passes).1 = passes.map (fun p => (fresh.synthesize p).1) ∧
    ∃ c, (fresh.run passes).2.counters = some c ∧
      c.count "ok" = results.countP (· matches .ok _) ∧
      c.count "validation" =
        results.countP (· matches .error (.mapping _ _) | .error (.sideFile _ _)) ∧
      c.count "collision" = results.countP (· matches .error (.collision _ _)) ∧
      c.count "lookup" = results.countP (· matches .error (.lookup _ _)) ∧
      c.count "cancelled" = results.countP (· matches .error .cancelled) ∧
      c.passes.total = passes.length ∧
      c.sideFiles =
        ((results.filterMap Except.toOption).getLast?.map (·.files.size)).getD 0 := by
  intro results
  have hcount : ∀ (label : String) (ends : Except PassFault ArtifactSet → Bool),
      (∀ r, decide (resultLabel r = label) = ends r) →
      (results.foldl Counters.record .zero).count label = results.countP ends := by
    intro label ends hends
    rw [Counters.count_foldl, ← funext hends]
    exact Nat.zero_add _
  rw [run_eq]
  refine ⟨rfl, results.foldl Counters.record .zero, rfl, hcount _ _ ?_, hcount _ _ ?_,
    hcount _ _ ?_, hcount _ _ ?_, hcount _ _ ?_, ?_, Counters.sideFiles_foldl results .zero⟩
  case refine_6 =>
    rw [Counters.total_foldl, List.length_map]
    exact Nat.zero_add _
  all_goals
    rintro (fault | set)
    · cases fault <;> rfl
    · rfl

end Synthesizer

end ProxyFleet
