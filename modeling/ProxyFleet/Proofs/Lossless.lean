import ProxyFleet.Proofs.DurationText

/-!
# Reading what was written

A schema describes each member of a record once, for both directions.  This is what makes reading
undo writing: each kind of member is read back from what is written for it, and so is a record that
is put together from members with different keys.

**Formats.**  A format is lossless on the values that it reads back from what it writes for them
(`Format.Lossless`).  What is written is never null, or else a member that may be null would be
read as one that is.

**Members.**  A schema reads nothing but its own members, so that others may stand beside them
(`Schema.Lossless`).  Members are combined along `<$>` and `<*>`; the instances follow how schemas
are put together, and collect the condition under which each part is lossless.

**Records.**  A schema that gives back the record that was written, and in which no key stands
twice, makes a lossless format (`Schema.Complete`).
-/

namespace ProxyFleet

/-- **A format that reads back the values with a property**, `Keeps`, from what it writes. -/
class Format.Lossless {α : Type} (format : Format α) (Keeps : outParam (α → Prop)) : Prop where
  read_write : ∀ {a}, Keeps a → format.read (format.write a) = some a
  write_ne_null : ∀ a, format.write a ≠ .null

/-- **A schema that reads back what it writes** for the records with a property, as `get` takes it
from them.  Members under other keys do not matter. -/
class Schema.Lossless {σ α : Type} (schema : Schema σ α) (get : outParam (σ → α))
    (Keeps : outParam (σ → Prop)) : Prop where
  mem_keys : ∀ {s m}, m ∈ schema.write s → m.1 ∈ schema.keys
  read_eq : ∀ {s members}, Keeps s → schema.keys.Nodup →
    (∀ key ∈ schema.keys, members.lookup key = (schema.write s).lookup key) →
      schema.read members = some (get s)

/-- A schema of whole records: it gives back what was written, and no key stands twice. -/
class Schema.Complete {σ : Type} (schema : Schema σ σ) (Keeps : outParam (σ → Prop)) : Prop where
  lossless : schema.Lossless id Keeps
  nodup : schema.keys.Nodup

/-! ## Combining members -/

namespace Schema

variable {σ τ α β : Type} {get : σ → α} {Keeps : σ → Prop}

lemma lookup_write_eq_none (schema : Schema σ α) [schema.Lossless get Keeps] {key : String}
    (h : key ∉ schema.keys) (s : σ) : (schema.write s).lookup key = none :=
  List.lookup_eq_none_iff.2 fun m hm => by
    have hmem : m.1 ∈ schema.keys := Lossless.mem_keys hm
    simpa using (ne_of_mem_of_not_mem hmem h).symm

instance lossless_map {f : α → β} {x : Schema σ α} [hx : x.Lossless get Keeps] :
    (f <$> x).Lossless (fun s => f (get s)) Keeps where
  mem_keys hm := hx.mem_keys hm
  read_eq {s members} hs hkeys hmembers := by
    have hread : (f <$> x).read members = (x.read members).bind (fun a => some (f a)) := rfl
    rw [hread, hx.read_eq hs hkeys hmembers, Option.bind_some]

/-- The members of both parts are read apart from each other, since their keys differ. -/
instance lossless_seq {f : Schema σ (α → β)} {x : Schema σ α} {map : σ → α → β}
    {KeepsMap : σ → Prop} [hf : f.Lossless map KeepsMap] [hx : x.Lossless get Keeps] :
    (f <*> x).Lossless (fun s => map s (get s)) (fun s => KeepsMap s ∧ Keeps s) where
  mem_keys {s m} hm := by
    rcases List.mem_append.1 hm with hm | hm
    · exact List.mem_append_left _ (hf.mem_keys hm)
    · exact List.mem_append_right _ (hx.mem_keys hm)
  read_eq {s members} hs hkeys hmembers := by
    obtain ⟨hnodup, hnodup', hdisjoint⟩ := List.nodup_append'.1 hkeys
    have hlookup : ∀ key ∈ f.keys ++ x.keys, members.lookup key =
        ((f.write s).lookup key).or ((x.write s).lookup key) := fun key hkey =>
      (hmembers key hkey).trans List.lookup_append
    have hread : (f <*> x).read members =
        (f.read members).bind (fun g => (x.read members).bind (fun a => some (g a))) := rfl
    rw [hread, hf.read_eq hs.1 hnodup fun key hkey => ?_,
      hx.read_eq hs.2 hnodup' fun key hkey => ?_]
    · rfl
    · rw [hlookup key (List.mem_append_right _ hkey),
        lookup_write_eq_none f (fun hmem => hdisjoint hmem hkey), Option.none_or]
    · rw [hlookup key (List.mem_append_left _ hkey),
        lookup_write_eq_none x (fun hmem => hdisjoint hkey hmem), Option.or_none]

lemma write_map {f : α → β} {x : Schema σ α} {s : σ} : (f <$> x).write s = x.write s := rfl

lemma write_seq {f : Schema σ (α → β)} {x : Schema σ α} {s : σ} :
    (f <*> x).write s = f.write s ++ x.write s := rfl

/-! ## Kinds of members -/

section Members

variable {key : String} {format : Format α} {Keeps : α → Prop}

lemma write_omitted {get : σ → Option α} {s : σ} : (omitted key format get).write s =
    ((get s).map format.write).toList.map (fun json => (key, json)) := by
  cases hget : get s <;> simp [omitted, hget]

instance lossless_required {get : σ → α} [hformat : format.Lossless Keeps] :
    (required key format get).Lossless get (fun s => Keeps (get s)) where
  mem_keys hm := by simp_all [required]
  read_eq {s members} hs _ hmembers := by
    have hlookup : members.lookup key = some (format.write (get s)) := by
      simpa [required] using hmembers key
    simp [required, hlookup, hformat.read_write hs]

/-- A member that may be null is read back if what stands under its key is its value, or null, or
nothing at all where there is none. -/
lemma readOptional_eq [hformat : format.Lossless Keeps] {value : Option α}
    {members : List (String × Json)} (hvalue : ∀ a ∈ value, Keeps a)
    (h : members.lookup key = value.map format.write ∨
      value = none ∧ members.lookup key = some .null) :
    readOptional key format members = some value := by
  cases value with
  | none =>
    rcases h with h | ⟨-, h⟩ <;> simp [readOptional, h]
  | some a =>
    have hlookup : members.lookup key = some (format.write a) := by simpa using h
    have hread := hformat.read_write (hvalue a rfl)
    rw [readOptional, hlookup]
    split
    · cases ‹some (format.write a) = none›
    · rename_i hnull
      exact absurd (Option.some.inj hnull) (hformat.write_ne_null a)
    · rename_i json _ hjson
      cases hjson
      rw [hread, Option.map_some]

instance lossless_optional {get : σ → Option α} [hformat : format.Lossless Keeps] :
    (optional key format get).Lossless get (fun s => ∀ a ∈ get s, Keeps a) where
  mem_keys hm := by simp_all [optional]
  read_eq {s members} hs _ hmembers := by
    have hlookup : members.lookup key = some (((get s).map format.write).getD .null) := by
      simpa [optional] using hmembers key
    refine readOptional_eq hs ?_
    cases hvalue : get s with
    | none => exact .inr ⟨rfl, by rw [hlookup, hvalue]; rfl⟩
    | some a => exact .inl (by rw [hlookup, hvalue]; rfl)

instance lossless_omitted {get : σ → Option α} [hformat : format.Lossless Keeps] :
    (omitted key format get).Lossless get (fun s => ∀ a ∈ get s, Keeps a) where
  mem_keys hm := by
    obtain ⟨a, -, rfl⟩ := List.mem_map.1 hm
    exact List.mem_singleton_self key
  read_eq {s members} hs _ hmembers := by
    have hwrite : (omitted key format get).write s =
        (get s).toList.map (fun a => (key, format.write a)) := rfl
    refine readOptional_eq hs (.inl ?_)
    rw [hmembers key (List.mem_singleton_self key), hwrite]
    cases get s with
    | none => rfl
    | some a => simp

lemma readDefaulted_eq [hformat : format.Lossless Keeps] {default a : α}
    {members : List (String × Json)} (ha : Keeps a)
    (h : members.lookup key = some (format.write a) ∨ members.lookup key = none ∧ a = default) :
    readDefaulted key format default members = some a := by
  rcases h with h | ⟨h, rfl⟩
  · rw [readDefaulted, h]
    exact hformat.read_write ha
  · rw [readDefaulted, h]

instance lossless_defaulted {default : α} {get : σ → α} [hformat : format.Lossless Keeps] :
    (defaulted key format default get).Lossless get (fun s => Keeps (get s)) where
  mem_keys hm := by simp_all [defaulted]
  read_eq {s members} hs _ hmembers := by
    refine readDefaulted_eq hs (.inl ?_)
    simpa [defaulted] using hmembers key

instance lossless_lenient {default : α} {get : σ → α} [hformat : format.Lossless Keeps] :
    (lenient key format default get).Lossless get (fun s => Keeps (get s)) where
  mem_keys hm := by simp_all [lenient]
  read_eq {s members} hs _ hmembers := by
    have hlookup : members.lookup key = some (format.write (get s)) := by
      simpa [lenient] using hmembers key
    have hread : readOptional key format members = some (some (get s)) :=
      readOptional_eq (by rintro _ ⟨⟩; exact hs) (.inl hlookup)
    simp only [lenient, hread, Option.map_some, Option.getD_some]

/-- A member that is left out when it is empty, where the default is the only empty value. -/
lemma lossless_sparse {default : α} {isEmpty : α → Bool} {get : σ → α}
    [hformat : format.Lossless Keeps] (hempty : ∀ a, isEmpty a = true → a = default) :
    (sparse key format default isEmpty get).Lossless get (fun s => Keeps (get s)) := by
  have hwrite : ∀ s, (sparse key format default isEmpty get).write s =
      if isEmpty (get s) then [] else [(key, format.write (get s))] := fun _ => rfl
  refine ⟨fun {s m} hm => ?_, fun {s members} hs _ hmembers => readDefaulted_eq hs ?_⟩
  · rw [hwrite] at hm
    split at hm
    · cases hm
    · rw [List.mem_singleton.1 hm]
      exact List.mem_singleton_self key
  · rw [hmembers key (List.mem_singleton_self key), hwrite]
    cases hvalue : isEmpty (get s) with
    | true => exact .inr ⟨rfl, hempty _ hvalue⟩
    | false => exact .inl (by simp)

instance lossless_sparse_list {format : Format (List α)} {Keeps : List α → Prop} {get : σ → List α}
    [format.Lossless Keeps] :
    (sparse key format [] List.isEmpty get).Lossless get (fun s => Keeps (get s)) :=
  lossless_sparse fun _ => List.isEmpty_iff.1

instance lossless_sparse_map {format : Format (KeyMap α)} {Keeps : KeyMap α → Prop}
    {get : σ → KeyMap α} [format.Lossless Keeps] :
    (sparse key format .empty KeyMap.isEmpty get).Lossless get (fun s => Keeps (get s)) :=
  lossless_sparse fun _ h => KeyMap.ext_entries (List.isEmpty_iff.1 h)

instance lossless_sparse_text {format : Format String} {Keeps : String → Prop} {get : σ → String}
    [format.Lossless Keeps] :
    (sparse key format "" String.isEmpty get).Lossless get (fun s => Keeps (get s)) :=
  lossless_sparse fun _ => String.isEmpty_iff.1

end Members

/-! ## Whole records -/

/-- The record of a schema, and a condition that is enough for all of its members. -/
lemma Complete.of_members {schema : Schema σ σ} {get : σ → σ} {Keeps Enough : σ → Prop}
    [h : schema.Lossless get Keeps] (hnodup : schema.keys.Nodup) (hget : get = id)
    (henough : ∀ s, Enough s → Keeps s) : schema.Complete Enough := by
  subst hget
  exact ⟨⟨h.mem_keys, fun hs => h.read_eq (henough _ hs)⟩, hnodup⟩

instance lossless_inlined {schema : Schema τ τ} {Keeps : τ → Prop} {get : σ → τ}
    [h : schema.Complete Keeps] : (inlined schema get).Lossless get (fun s => Keeps (get s)) where
  mem_keys hm := h.lossless.mem_keys hm
  read_eq hs hkeys hmembers := h.lossless.read_eq hs hkeys hmembers

/-- An object with one member that may be null. -/
instance complete_optional {key : String} {format : Format α} {Keeps : α → Prop}
    [format.Lossless Keeps] :
    (optional key format id).Complete (fun value => ∀ a ∈ value, Keeps a) :=
  ⟨lossless_optional, List.nodup_singleton key⟩

end Schema

/-! ## Formats -/

namespace Format

variable {α : Type} {Keeps : α → Prop}

instance lossless_object {σ : Type} {schema : Schema σ σ} {Keeps : σ → Prop}
    [h : schema.Complete Keeps] : schema.format.Lossless Keeps where
  read_write hs := h.lossless.read_eq hs h.nodup fun _ _ => rfl
  write_ne_null _ := nofun

instance lossless_text : text.Lossless (fun _ => True) := ⟨fun _ => rfl, nofun⟩

instance lossless_bool : bool.Lossless (fun _ => True) := ⟨fun _ => rfl, nofun⟩

instance lossless_int64 : int64.Lossless (fun _ => True) where
  read_write {n} _ := by
    have hrange : Int64.minValue.toInt ≤ n.toInt ∧ n.toInt ≤ Int64.maxValue.toInt :=
      ⟨n.minValue_le_toInt, n.toInt_le⟩
    simp only [int64, if_pos hrange, Int64.ofInt_toInt]
  write_ne_null := nofun

instance lossless_given : given.Lossless (fun _ => True) where
  read_write {json} _ := by
    obtain ⟨json, hjson⟩ := json
    cases json with
    | null => exact absurd rfl hjson
    | _ => rfl
  write_ne_null json := json.2

/-- A traversal that undoes what each member of a list was mapped to gives the list back. -/
lemma mapM_map_eq_some {α β : Type} {f : α → β} {g : β → Option α} {l : List α}
    (h : ∀ a ∈ l, g (f a) = some a) : (l.map f).mapM g = some l := by
  induction l with
  | nil => rfl
  | cons a rest ih =>
    obtain ⟨ha, hrest⟩ := List.forall_mem_cons.1 h
    simp [ha, ih hrest]

instance lossless_list {format : Format α} [hformat : format.Lossless Keeps] :
    format.list.Lossless (fun l => ∀ a ∈ l, Keeps a) where
  read_write hl := mapM_map_eq_some fun a ha => hformat.read_write (hl a ha)
  write_ne_null := nofun

instance lossless_keyMap {format : Format α} [hformat : format.Lossless Keeps] :
    format.map.Lossless (fun m => ∀ e ∈ m.entries, Keeps e.2) where
  read_write {m} hm := by
    have hentries : (m.entries.map (fun e => (e.1, format.write e.2))).mapM
        (fun e => (format.read e.2).map (fun a => (e.1, a))) = some m.entries :=
      mapM_map_eq_some fun e he => by rw [hformat.read_write (hm e he), Option.map_some]
    simp [map, hentries]
  write_ne_null := nofun

instance lossless_textSet : textSet.Lossless (fun _ => True) where
  read_write {s} _ := by
    have hitems : text.list.read (text.list.write s.toList) = some s.toList :=
      lossless_list.read_write fun _ _ => trivial
    have hset : TextSet.ofList s.toList = s := by
      have hentries : s.toList.map (fun t => (t, ())) = s.entries := by
        simp [TextSet.toList, KeyMap.keys, Function.comp_def]
      rw [TextSet.ofList, hentries, KeyMap.ofList_entries]
    simp [textSet, hitems, hset]
  write_ne_null := nofun

/-- A format of names is lossless when the name of each value stands for that value. -/
lemma lossless_tag [DecidableEq α] {names : List (String × α)}
    (h : ∀ a, names.lookup (nameOf names a) = some a) : (tag names).Lossless (fun _ => True) :=
  ⟨fun _ => h _, nofun⟩

end Format

/-- A duration whose nanoseconds fit into fifty-three places. -/
def Duration.Precise (d : Duration) : Prop := d.nanos < 2 ^ 53

instance : Format.duration.Lossless Duration.Precise where
  read_write h := by
    simp [Format.duration, Json.text?, Duration.text, Duration.parse_magnitudeText _ h,
      Except.toOption]
  write_ne_null := nofun

end ProxyFleet
