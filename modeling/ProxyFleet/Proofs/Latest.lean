import Mathlib
import ProxyFleet.KeyMap

/-!
# The latest of several values

Values are put under keys one after another, and a later value takes the place of an earlier one.
`latest` says which value is left under a key.
-/

namespace ProxyFleet

variable {α : Type} {key : String} {a : α} {l r : List (String × α)}

/-- The last value that was put under a key. -/
def latest (key : String) (l : List (String × α)) : Option α := l.reverse.lookup key

@[simp] lemma latest_nil (key : String) : latest key ([] : List (String × α)) = none := rfl

lemma latest_append (key : String) (l r : List (String × α)) :
    latest key (l ++ r) = (latest key r).or (latest key l) := by
  rw [latest, List.reverse_append, List.lookup_append]
  rfl

/-- Later values come first. -/
lemma latest_cons (key : String) (e : String × α) (l : List (String × α)) :
    latest key (e :: l) = (latest key l).or (if e.1 = key then some e.2 else none) := by
  have hsingle : latest key [e] = if e.1 = key then some e.2 else none := by
    rw [latest, List.reverse_singleton, KeyMap.lookup_cons_eq_ite]
    simp [eq_comm]
  rw [← List.singleton_append, latest_append, hsingle]

/-- The last value under a key was put under it. -/
lemma mem_of_latest (h : latest key l = some a) : (key, a) ∈ l := by
  induction l with
  | nil => cases h
  | cons e rest ih =>
    rw [latest_cons, Option.or_eq_some_iff] at h
    rcases h with h | ⟨-, h⟩
    · exact List.mem_cons_of_mem _ (ih h)
    · split at h
      · rename_i hkey
        cases h
        subst hkey
        exact List.mem_cons_self
      · cases h

/-- A key that something was put under has a last value. -/
lemma exists_latest_of_mem (h : (key, a) ∈ l) : ∃ b, latest key l = some b := by
  induction l with
  | nil => cases h
  | cons e rest ih =>
    rw [latest_cons]
    rcases List.mem_cons.1 h with rfl | h
    · cases latest key rest with
      | none => exact ⟨a, by simp⟩
      | some b => exact ⟨b, by simp⟩
    · obtain ⟨b, hb⟩ := ih h
      exact ⟨b, by simp [hb]⟩

/-- Where no key is used twice, every value stays. -/
lemma latest_eq_some_of_mem (hl : (l.map (·.1)).Nodup) (h : (key, a) ∈ l) :
    latest key l = some a := by
  induction l with
  | nil => cases h
  | cons e rest ih =>
    obtain ⟨hnot, hrest⟩ := List.nodup_cons.1 hl
    rw [latest_cons]
    rcases List.mem_cons.1 h with rfl | h
    · have hnone : latest key rest = none := by
        rw [Option.eq_none_iff_forall_ne_some]
        intro b hb
        exact hnot (List.mem_map.2 ⟨_, mem_of_latest hb, rfl⟩)
      simp [hnone]
    · simp [ih hrest h]

end ProxyFleet
