/-!
# Maps kept in key order

A `KeyMap α` holds values under text keys.  Its entries are always in strictly ascending key
order, so a map has one representation: two maps with the same entries are equal whatever the
order they were filled in.  Text keys compare by code point, which is also the order of their
UTF-8 bytes.

* `KeyMap.get?_insert` says what a look-up finds after an insertion.
* `KeyMap.ofList_entries` says that filling a map with its own entries gives it back.
* `KeyMap.ext_get?` says that the look-ups determine the map.
-/

namespace ProxyFleet

/-- A map from text keys, kept as a list of entries in strictly ascending key order. -/
structure KeyMap (α : Type) where
  /-- The entries, in key order. -/
  entries : List (String × α)
  /-- No key stands twice, and smaller keys come first. -/
  ascending : entries.Pairwise (fun a b => a.1 < b.1)
  deriving DecidableEq

namespace KeyMap

variable {α β : Type}

/-- Puts an entry into a list in key order, in place of an entry with the same key. -/
def insertEntry (key : String) (value : α) : List (String × α) → List (String × α)
  | [] => [(key, value)]
  | e :: rest =>
    if key < e.1 then (key, value) :: e :: rest
    else if e.1 < key then e :: insertEntry key value rest
    else (key, value) :: rest

/-- Two keys of which neither is smaller are the same. -/
theorem key_eq_of_not_lt {a b : String} (h₁ : ¬a < b) (h₂ : ¬b < a) : a = b :=
  String.le_antisymm (String.not_lt.1 h₂) (String.not_lt.1 h₁)

/-- An entry of the list after an insertion is the new one or an old one. -/
theorem mem_insertEntry {key : String} {value : α} {e : String × α} {l : List (String × α)}
    (h : e ∈ insertEntry key value l) : e = (key, value) ∨ e ∈ l := by
  induction l with
  | nil => simpa [insertEntry] using h
  | cons d rest ih =>
    rw [insertEntry] at h
    split at h
    · simpa using h
    · split at h
      · rcases List.mem_cons.1 h with rfl | h
        · simp
        · rcases ih h with h | h <;> simp [h]
      · rcases List.mem_cons.1 h with h | h <;> simp [h]

/-- Insertion keeps a list in key order. -/
theorem pairwise_insertEntry {key : String} {value : α} {l : List (String × α)}
    (h : l.Pairwise (fun a b => a.1 < b.1)) :
    (insertEntry key value l).Pairwise (fun a b => a.1 < b.1) := by
  induction l with
  | nil => simp [insertEntry]
  | cons d rest ih =>
    obtain ⟨hd, hrest⟩ := List.pairwise_cons.1 h
    rw [insertEntry]
    split
    · rename_i hlt
      refine List.pairwise_cons.2 ⟨fun e he => ?_, h⟩
      rcases List.mem_cons.1 he with rfl | he
      · exact hlt
      · exact String.lt_trans hlt (hd e he)
    · split
      · rename_i hlt
        refine List.pairwise_cons.2 ⟨fun e he => ?_, ih hrest⟩
        rcases mem_insertEntry he with rfl | he
        · exact hlt
        · exact hd e he
      · rename_i h₁ h₂
        refine List.pairwise_cons.2 ⟨fun e he => ?_, hrest⟩
        simpa [key_eq_of_not_lt h₁ h₂] using hd e he

/-- The map without entries. -/
def empty : KeyMap α := ⟨[], .nil⟩

instance : Inhabited (KeyMap α) := ⟨empty⟩

/-- The value under a key. -/
def get? (m : KeyMap α) (key : String) : Option α := m.entries.lookup key

/-- Whether the map holds a key. -/
def contains (m : KeyMap α) (key : String) : Bool := (m.get? key).isSome

/-- Puts a value under a key, in place of the one that was there. -/
def insert (m : KeyMap α) (key : String) (value : α) : KeyMap α :=
  ⟨insertEntry key value m.entries, pairwise_insertEntry m.ascending⟩

/-- Fills a map from a list of entries; of two entries with one key the later one stays. -/
def ofList (l : List (String × α)) : KeyMap α :=
  l.foldl (fun m e => m.insert e.1 e.2) empty

/-- The keys in ascending order. -/
def keys (m : KeyMap α) : List String := m.entries.map (·.1)

/-- The number of entries. -/
def size (m : KeyMap α) : Nat := m.entries.length

/-- Whether the map has no entries. -/
def isEmpty (m : KeyMap α) : Bool := m.entries.isEmpty

/-- The map without the entries whose key a test refuses. -/
def filterKeys (p : String → Bool) (m : KeyMap α) : KeyMap α :=
  ⟨m.entries.filter (fun e => p e.1), m.ascending.filter _⟩

/-- Takes a key out of the map. -/
def erase (m : KeyMap α) (key : String) : KeyMap α := m.filterKeys (fun k => k != key)

/-- Maps are equal when their entries are. -/
theorem ext_entries {m n : KeyMap α} (h : m.entries = n.entries) : m = n := by
  cases m; cases n; cases h; rfl

/-! ## What look-ups find -/

/-- A look-up in a list tries its first entry. -/
theorem lookup_cons_eq_ite (k : String) (e : String × α) (l : List (String × α)) :
    (e :: l).lookup k = if k = e.1 then some e.2 else l.lookup k := by
  obtain ⟨key, value⟩ := e
  by_cases h : k = key
  · simp [h]
  · have h' : (k == key) = false := by simpa using h
    simp [List.lookup_cons, h, h']

/-- A look-up after an insertion into a list. -/
theorem lookup_insertEntry (key k : String) (value : α) (l : List (String × α)) :
    (insertEntry key value l).lookup k = if k = key then some value else l.lookup k := by
  induction l with
  | nil => simp [insertEntry, lookup_cons_eq_ite]
  | cons d rest ih =>
    rw [insertEntry]
    split
    · rw [lookup_cons_eq_ite]
    · split
      · rename_i hlt
        rw [lookup_cons_eq_ite, lookup_cons_eq_ite, ih]
        by_cases h : k = d.1
        · have : d.1 ≠ key := fun e => String.lt_irrefl _ (e ▸ hlt)
          simp [h, this]
        · simp [h]
      · rename_i h₁ h₂
        rw [lookup_cons_eq_ite, lookup_cons_eq_ite, key_eq_of_not_lt h₁ h₂]
        by_cases h : k = d.1 <;> simp [h]

/-- A look-up after an insertion finds the new value under its key and else what was there. -/
@[simp] theorem get?_insert (m : KeyMap α) (key k : String) (value : α) :
    (m.insert key value).get? k = if k = key then some value else m.get? k :=
  lookup_insertEntry key k value m.entries

/-- The empty map holds nothing. -/
@[simp] theorem get?_empty (k : String) : (empty : KeyMap α).get? k = none := rfl

/-- An entry is found under its key. -/
theorem get?_eq_some_iff {m : KeyMap α} {k : String} {v : α} :
    m.get? k = some v ↔ (k, v) ∈ m.entries := by
  obtain ⟨l, h⟩ := m
  simp only [get?]
  induction l with
  | nil => simp
  | cons d rest ih =>
    obtain ⟨key, value⟩ := d
    obtain ⟨hd, hrest⟩ := List.pairwise_cons.1 h
    rw [lookup_cons_eq_ite]
    by_cases hk : k = key
    · have : (key, v) ∉ rest := fun hm => String.lt_irrefl _ (hd (key, v) hm)
      simp [hk, this, eq_comm]
    · simp [hk, ih hrest]

/-- Insertion at the end of a list whose keys are all smaller. -/
theorem insertEntry_append {key : String} {value : α} {l : List (String × α)}
    (h : ∀ e ∈ l, e.1 < key) : insertEntry key value l = l ++ [(key, value)] := by
  induction l with
  | nil => rfl
  | cons d rest ih =>
    have hd := h d (by simp)
    rw [insertEntry, if_neg (String.lt_asymm hd), if_pos hd, ih (fun e he => h e (by simp [he]))]
    rfl

/-- Filling a map with further entries in key order appends them. -/
theorem entries_foldl_insert (l : List (String × α)) (m : KeyMap α)
    (h : (m.entries ++ l).Pairwise (fun a b => a.1 < b.1)) :
    (l.foldl (fun m e => m.insert e.1 e.2) m).entries = m.entries ++ l := by
  induction l generalizing m with
  | nil => simp
  | cons d rest ih =>
    have hlt : ∀ e ∈ m.entries, e.1 < d.1 := fun e he =>
      (List.pairwise_append.1 h).2.2 e he d (by simp)
    have hins : (m.insert d.1 d.2).entries = m.entries ++ [d] := insertEntry_append hlt
    rw [List.foldl_cons, ih _ (by simpa [hins] using h), hins]
    simp

/-- Filling a map with its own entries gives it back. -/
@[simp] theorem ofList_entries (m : KeyMap α) : ofList m.entries = m :=
  ext_entries (by
    rw [ofList, entries_foldl_insert m.entries empty m.ascending]
    rfl)

/-- The look-ups determine a map. -/
theorem ext_get? {m n : KeyMap α} (h : ∀ k, m.get? k = n.get? k) : m = n := by
  obtain ⟨l, hl⟩ := m
  obtain ⟨r, hr⟩ := n
  have hmem : ∀ e, e ∈ l ↔ e ∈ r := fun e => by
    have h₁ := get?_eq_some_iff (m := ⟨l, hl⟩) (k := e.1) (v := e.2)
    have h₂ := get?_eq_some_iff (m := ⟨r, hr⟩) (k := e.1) (v := e.2)
    rw [h e.1] at h₁
    exact h₁.symm.trans h₂
  apply ext_entries
  show l = r
  clear h
  induction l generalizing r with
  | nil =>
    cases r with
    | nil => rfl
    | cons e r => exact absurd ((hmem e).2 (by simp)) (by simp)
  | cons d l ih =>
    cases r with
    | nil => exact absurd ((hmem d).1 (by simp)) (by simp)
    | cons e r =>
      obtain ⟨hd, hl'⟩ := List.pairwise_cons.1 hl
      obtain ⟨he, hr'⟩ := List.pairwise_cons.1 hr
      have hde : d = e := by
        rcases List.mem_cons.1 ((hmem d).1 (by simp)) with h | h
        · exact h
        · rcases List.mem_cons.1 ((hmem e).2 (by simp)) with h' | h'
          · exact h'.symm
          · exact absurd (String.lt_trans (he d h) (hd e h')) (String.lt_irrefl _)
      subst hde
      rw [ih hl' r hr' (fun x => ?_)]
      constructor
      · intro hx
        rcases List.mem_cons.1 ((hmem x).1 (by simp [hx])) with rfl | h
        · exact absurd (hd x hx) (String.lt_irrefl _)
        · exact h
      · intro hx
        rcases List.mem_cons.1 ((hmem x).2 (by simp [hx])) with rfl | h
        · exact absurd (he x hx) (String.lt_irrefl _)
        · exact h

end KeyMap

/-- A set of texts in ascending order. -/
abbrev TextSet := KeyMap Unit

namespace TextSet

/-- The set of the members of a list. -/
def ofList (l : List String) : TextSet := KeyMap.ofList (l.map (fun s => (s, ())))

/-- The members in ascending order. -/
def toList (s : TextSet) : List String := KeyMap.keys s

end TextSet

end ProxyFleet
