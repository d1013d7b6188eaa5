import ProxyFleet.Directory.PathText
import ProxyFleet.Proofs.OneLine

/-!
# Paths that are joined to a folder

Where a path leads that goes on from a folder, whatever the text of the folder's path looks like.

**Pieces.**  Pieces without slashes can be put together and taken apart again
(`PathText.pieces_intercalate`, `PathText.intercalate_pieces`).  A text at the end of a path changes
the last piece only (`PathText.exists_pieces_append`).

**Joining.**  The names along a joined path are those on the way to the folder and then those of the
other path, however the path of the folder ends (`PathText.names_join`), and its parent has all of
them but the last one (`PathText.names_parent`).

**Names.**  A path that leads on has names only, up to blank pieces (`PathText.LeadsOn`).  Joined to
a folder it adds its names to the parts of the folder's path (`PathText.LeadsOn.parts_join`) and
leads along them from there (`PathText.LeadsOn.location_join`).

**Ways.**  A path leads through all locations that its first names lead to
(`PathText.LeadsThrough`).  The way to the parent of a joined path is the way to the folder, and
from there on the way along the names but the last one
(`PathText.LeadsOn.leadsThrough_parent_iff`).
-/

namespace ProxyFleet.PathText

variable {path name : String}

/-! ## Pieces -/

lemma pieces_ne_nil (path : String) : pieces path ≠ [] := by
  simp [pieces, List.splitOn_ne_nil]

lemma exists_pieces_eq_cons (path : String) : ∃ first rest, pieces path = first :: rest :=
  List.exists_cons_of_ne_nil (pieces_ne_nil path)

/-- No piece holds a slash. -/
lemma plain_of_mem_pieces {piece : String} (h : piece ∈ pieces path) : '/' ∉ piece.toList := by
  obtain ⟨cs, hcs, rfl⟩ := List.mem_map.1 h
  rw [String.toList_ofList]
  exact Text.not_mem_of_mem_splitOn hcs

/-- The pieces of a path, put together again, are the path. -/
lemma intercalate_pieces (path : String) : String.intercalate "/" (pieces path) = path :=
  Text.intercalate_splitOn '/' path

/-- Texts without slashes are the pieces of what they are put together to. -/
lemma pieces_intercalate {ps : List String} (hne : ps ≠ []) (h : ∀ p ∈ ps, '/' ∉ p.toList) :
    pieces (String.intercalate "/" ps) = ps :=
  Text.splitOn_intercalate hne h

lemma eq_empty_of_pieces (h : pieces path = [""]) : path = "" := by
  rw [← intercalate_pieces path, h, String.intercalate_singleton]

/-- Of texts without slashes those that are not blank are names. -/
lemma names_intercalate {ps : List String} (h : ∀ p ∈ ps, '/' ∉ p.toList) :
    names (String.intercalate "/" ps) = ps.filter (fun p => !isBlank p) := by
  by_cases hne : ps = []
  · rw [hne]
    decide
  · rw [names, pieces_intercalate hne h]

/-- A text without slashes at the end of a path belongs to its last piece. -/
lemma exists_pieces_append {ending : String} (h : '/' ∉ ending.toList) (path : String) :
    ∃ front last, pieces path = front ++ [last] ∧
      pieces (path ++ ending) = front ++ [last ++ ending] := by
  obtain ⟨front, last, hpieces⟩ := List.eq_nil_or_concat' (pieces path) |>.resolve_left
    (pieces_ne_nil path)
  have happend : path ++ ending = String.intercalate "/" (front ++ [last ++ ending]) := by
    conv_lhs => rw [← intercalate_pieces path, hpieces]
    by_cases hfront : front = []
    · simp [hfront]
    · rw [String.intercalate_append_of_ne_nil hfront (by simp),
        String.intercalate_append_of_ne_nil hfront (by simp)]
      simp [String.append_assoc]
  refine ⟨front, last, hpieces, ?_⟩
  rw [happend]
  apply pieces_intercalate (by simp)
  intro p hp
  rcases List.mem_append.1 hp with hp | hp
  · exact plain_of_mem_pieces (by rw [hpieces]; exact List.mem_append_left _ hp)
  · have hlast : '/' ∉ last.toList := plain_of_mem_pieces (by rw [hpieces]; simp)
    rw [List.mem_singleton.1 hp, String.toList_append, List.mem_append, not_or]
    exact ⟨hlast, h⟩

/-! ## Joining -/

/-- How a path is joined to a folder: a slash is put between them, unless the path of the folder is
empty or has one at its end. -/
lemma join_cases (folder path : String) :
    folder = "" ∧ join folder path = path ∨
      (∃ start, folder = start ++ "/" ∧ join folder path = start ++ "/" ++ path) ∨
      folder ≠ "" ∧ join folder path = folder ++ "/" ++ path := by
  rw [join]
  split
  · rename_i hend
    simp only [Bool.or_eq_true, decide_eq_true_eq, String.isEmpty_iff] at hend
    rcases hend with rfl | hslash
    · exact .inl ⟨rfl, String.empty_append⟩
    · obtain ⟨start, hstart⟩ := List.getLast?_eq_some_iff.1 hslash
      have hfolder : folder = String.ofList start ++ "/" := by
        apply String.toList_inj.1
        simp [hstart]
      exact .inr (.inl ⟨_, hfolder, by rw [hfolder]⟩)
  · rename_i hend
    refine .inr (.inr ⟨?_, rfl⟩)
    rintro rfl
    simp at hend

/-- **A joined path** has the names on the way to the folder before those of the other path. -/
lemma names_join (folder path : String) :
    names (join folder path) = names folder ++ names path := by
  have hblank : names "" = [] := by decide
  rcases join_cases folder path with ⟨rfl, hjoin⟩ | ⟨start, rfl, hjoin⟩ | ⟨-, hjoin⟩
  · rw [hjoin, hblank, List.nil_append]
  · have hslash := names_append_slash start ""
    rw [String.append_empty, hblank, List.append_nil] at hslash
    rw [hjoin, names_append_slash, hslash]
  · rw [hjoin, names_append_slash]

/-- Blank pieces are no names. -/
lemma filter_dropWhile (ps : List String) :
    (ps.dropWhile isBlank).filter (fun p => !isBlank p) = ps.filter (fun p => !isBlank p) := by
  induction ps with
  | nil => rfl
  | cons p rest ih =>
    cases hblank : isBlank p with
    | true => simp [hblank, ih]
    | false => simp [hblank]

/-- **The parent of a path** has all of its names but the last one. -/
lemma names_parent (path : String) : names (parent path) = (names path).dropLast := by
  have hplain : ∀ p ∈ ((((pieces path).reverse.dropWhile isBlank).drop 1).dropWhile
      isBlank).reverse, '/' ∉ p.toList := by
    intro p hp
    have hdrop := (List.dropWhile_suffix _).subset (List.mem_reverse.1 hp)
    have hrest := (List.dropWhile_suffix _).subset (List.mem_of_mem_drop hdrop)
    exact plain_of_mem_pieces (List.mem_reverse.1 hrest)
  have hnames := filter_dropWhile (pieces path).reverse
  rw [List.filter_reverse, ← names] at hnames
  rw [parent, names_intercalate hplain, List.filter_reverse, filter_dropWhile]
  cases hrest : (pieces path).reverse.dropWhile isBlank with
  | nil =>
    rw [hrest, List.filter_nil, eq_comm, List.reverse_eq_nil_iff] at hnames
    rw [hnames]
    rfl
  | cons last before =>
    have hlast : isBlank last = false := by
      have hhead := List.head_dropWhile_not isBlank (l := (pieces path).reverse) (by simp [hrest])
      simpa [hrest] using hhead
    rw [hrest, List.filter_cons, hlast] at hnames
    rw [← List.reverse_reverse (names path), ← hnames]
    simp

/-! ## Parts of a joined path -/

/-- The part that the first piece of a path stands for. -/
def firstPart (piece : String) : Option PathPart :=
  if piece = "" then some .root else if piece = "." then some .current else partOf piece

lemma parts_of_pieces {first : String} {rest : List String}
    (h : pieces path = first :: rest) (hne : first :: rest ≠ [""]) :
    parts path = (firstPart first).toList ++ rest.filterMap partOf := by
  rw [parts, h, firstPart]
  split
  · rename_i heq
    exact absurd heq hne
  · rename_i heq
    cases heq
    simp
  · rename_i heq
    cases heq
    simp
  · rename_i hroot hdot
    have hroot : first ≠ "" := fun heq => hroot rest (by rw [heq])
    have hdot : first ≠ "." := fun heq => hdot rest (by rw [heq])
    cases hp : partOf first <;> simp [hroot, hdot, hp]

/-- The pieces after a slash add the parts that they stand for. -/
lemma parts_append_slash (folder path : String) :
    parts (folder ++ "/" ++ path) = parts (folder ++ "/") ++ (pieces path).filterMap partOf := by
  obtain ⟨first, rest, hfolder⟩ := exists_pieces_eq_cons folder
  have hparts : ∀ path, parts (folder ++ "/" ++ path) =
      (firstPart first).toList ++ rest.filterMap partOf ++ (pieces path).filterMap partOf := by
    intro path
    have hpieces : pieces (folder ++ "/" ++ path) = first :: (rest ++ pieces path) := by
      rw [pieces_append_slash, hfolder, List.cons_append]
    rw [parts_of_pieces hpieces (by simp [pieces_ne_nil]), List.filterMap_append,
      List.append_assoc]
  have hslash := hparts ""
  have hblank : (pieces "").filterMap partOf = [] := by decide
  rw [String.append_empty, hblank, List.append_nil] at hslash
  rw [hparts path, hslash]

/-- A slash at the end of a path leads nowhere. -/
lemma parts_slash {folder : String} (h : folder ≠ "") : parts (folder ++ "/") = parts folder := by
  obtain ⟨first, rest, hfolder⟩ := exists_pieces_eq_cons folder
  have hne : first :: rest ≠ [""] := fun heq => h (eq_empty_of_pieces (hfolder.trans heq))
  have hpieces : pieces (folder ++ "/") = first :: (rest ++ [""]) := by
    have hsplit := pieces_append_slash folder ""
    rwa [String.append_empty, hfolder] at hsplit
  have hblank : partOf "" = none := by decide
  rw [parts_of_pieces hfolder hne, parts_of_pieces hpieces (by simp), List.filterMap_append]
  simp [hblank]

/-! ## Names -/

/-- Whether a piece of a path is the name of a file or folder. -/
structure IsPieceName (name : String) : Prop where
  plain : '/' ∉ name.toList
  not_blank : isBlank name = false
  not_parent : name ≠ ".."

/-- Whether a path leads on from any folder: its parts are names, and there is one. -/
def LeadsOn (path : String) : Prop := parts path ≠ [] ∧ ∀ part ∈ parts path, isName part = true

/-- A path that leads on starts with a name, and never leads back. -/
lemma LeadsOn.exists_pieces (h : LeadsOn path) :
    ∃ first rest, pieces path = first :: rest ∧ IsPieceName first ∧ ".." ∉ rest := by
  obtain ⟨first, rest, hpath⟩ := exists_pieces_eq_cons path
  have hne : first :: rest ≠ [""] := by
    intro heq
    obtain rfl := eq_empty_of_pieces (hpath.trans heq)
    exact h.1 rfl
  have hplain : '/' ∉ first.toList := plain_of_mem_pieces (by rw [hpath]; exact List.mem_cons_self)
  have hparts := h.2
  simp only [parts_of_pieces hpath hne, List.mem_append, Option.mem_toList] at hparts
  have hroot : first ≠ "" := by
    rintro rfl
    exact absurd (hparts .root (.inl rfl)) (by decide)
  have hdot : first ≠ "." := by
    rintro rfl
    exact absurd (hparts .current (.inl rfl)) (by decide)
  have hback : first ≠ ".." := by
    rintro rfl
    exact absurd (hparts .parent (.inl rfl)) (by decide)
  refine ⟨first, rest, hpath, ⟨hplain, by simp [isBlank, hroot, hdot], hback⟩, fun hmem => ?_⟩
  have hparent : PathPart.parent ∈ rest.filterMap partOf := List.mem_filterMap.2 ⟨_, hmem, rfl⟩
  exact absurd (hparts .parent (.inr hparent)) (by decide)

lemma LeadsOn.not_mem_pieces (h : LeadsOn path) : ".." ∉ pieces path := by
  obtain ⟨first, rest, hpath, hfirst, hrest⟩ := h.exists_pieces
  rw [hpath, List.mem_cons, not_or]
  exact ⟨hfirst.not_parent.symm, hrest⟩

lemma LeadsOn.names_ne_nil (h : LeadsOn path) : names path ≠ [] := by
  obtain ⟨first, rest, hpath, hfirst, -⟩ := h.exists_pieces
  simp [names, hpath, hfirst.not_blank]

lemma LeadsOn.not_mem_names (h : LeadsOn path) : ".." ∉ names path :=
  fun hmem => h.not_mem_pieces (List.mem_of_mem_filter hmem)

/-- Pieces that do not lead back stand for names. -/
lemma filterMap_partOf {ps : List String} (h : ".." ∉ ps) :
    ps.filterMap partOf = (ps.filter (fun p => !isBlank p)).map .name := by
  induction ps with
  | nil => rfl
  | cons p rest ih =>
    obtain ⟨hp, hrest⟩ := not_or.1 (List.mem_cons.not.1 h)
    cases hblank : isBlank p with
    | true => simpa [partOf, hblank] using ih hrest
    | false => simpa [partOf, hblank, Ne.symm hp] using ih hrest

/-- The parts of a path that leads on are its names. -/
lemma LeadsOn.parts_eq (h : LeadsOn path) : parts path = (names path).map .name := by
  obtain ⟨first, rest, hpath, hfirst, -⟩ := h.exists_pieces
  have hne : first :: rest ≠ [""] := by
    intro heq
    have hempty : isBlank first = true := by rw [(List.cons_eq_cons.1 heq).1]; rfl
    rw [hfirst.not_blank] at hempty
    cases hempty
  have hroot : first ≠ "" ∧ first ≠ "." := by simpa [isBlank] using hfirst.not_blank
  have hpart : firstPart first = partOf first := by rw [firstPart, if_neg hroot.1, if_neg hroot.2]
  rw [names, ← filterMap_partOf h.not_mem_pieces, parts_of_pieces hpath hne, hpart, hpath]
  cases hfirst : partOf first <;> simp [hfirst]

/-- **A path that leads on adds its parts** to those of the folder that it is joined to, however the
path of the folder ends. -/
lemma LeadsOn.parts_join (h : LeadsOn path) (folder : String) :
    parts (join folder path) = parts folder ++ parts path := by
  have hparts : (pieces path).filterMap partOf = parts path := by
    rw [h.parts_eq, names, filterMap_partOf h.not_mem_pieces]
  rcases join_cases folder path with ⟨rfl, hjoin⟩ | ⟨start, rfl, hjoin⟩ | ⟨hne, hjoin⟩
  · rw [hjoin]
    rfl
  · rw [hjoin, parts_append_slash, hparts]
  · rw [hjoin, parts_append_slash, parts_slash hne, hparts]

/-- Names that do not lead back lead on. -/
lemma foldl_follow {ps : List String} (h : ".." ∉ ps) (l : Location) :
    ps.foldl follow l = l ++ ps := by
  induction ps generalizing l with
  | nil => rw [List.foldl_nil, List.append_nil]
  | cons p rest ih =>
    obtain ⟨hp, hrest⟩ := not_or.1 (List.mem_cons.not.1 h)
    rw [List.foldl_cons, ih hrest, follow, if_neg (Ne.symm hp), List.append_assoc,
      List.singleton_append]

/-- **It leads along its names**, from the folder that it is joined to. -/
lemma LeadsOn.location_join (h : LeadsOn path) (folder : String) :
    location (join folder path) = location folder ++ names path := by
  rw [location, names_join, List.foldl_append, ← location, foldl_follow h.not_mem_names]

/-- A name leads on. -/
lemma IsPieceName.names_eq (h : IsPieceName name) : names name = [name] := by
  simp [names, pieces_eq_singleton h.plain, h.not_blank]

lemma IsPieceName.parts (h : IsPieceName name) : parts name = [.name name] := by
  have hne : name ≠ "" ∧ name ≠ "." := by simpa [isBlank] using h.not_blank
  rw [parts_of_pieces (pieces_eq_singleton h.plain) (by simpa using hne.1)]
  simp [firstPart, partOf, hne, h.not_blank, h.not_parent]

lemma IsPieceName.leadsOn (h : IsPieceName name) : LeadsOn name := by
  rw [LeadsOn, h.parts]
  exact ⟨by simp, by simp [isName]⟩

/-- **A name is found in the folder that it is joined to**, however the path of the folder ends. -/
lemma IsPieceName.location_join (h : IsPieceName name) (folder : String) :
    location (join folder name) = location folder ++ [name] := by
  rw [h.leadsOn.location_join, h.names_eq]

lemma IsPieceName.parts_join (h : IsPieceName name) (folder : String) :
    PathText.parts (join folder name) = PathText.parts folder ++ [.name name] := by
  rw [h.leadsOn.parts_join, h.parts]

/-! ## Neighbours -/

/-- Where a path leads whose last piece is made longer. -/
lemma LeadsOn.exists_location_append (h : LeadsOn path) (ending : String)
    (hplain : '/' ∉ ending.toList) (hlong : 2 < ending.toList.length) :
    ∃ front last, names path = front ++ (if isBlank last then [] else [last]) ∧
      ∀ folder, location (join folder (path ++ ending)) =
        location folder ++ front ++ [last ++ ending] := by
  obtain ⟨front, last, hpath, happend⟩ := exists_pieces_append hplain path
  have hname : ∀ other : String, other.toList.length ≤ 2 → last ++ ending ≠ other := by
    rintro other hother rfl
    rw [String.toList_append, List.length_append] at hother
    omega
  have hblank : isBlank (last ++ ending) = false := by
    simp only [isBlank, Bool.or_eq_false_iff, decide_eq_false_iff_not]
    exact ⟨hname "" (by decide), hname "." (by decide)⟩
  have hfront : ".." ∉ front.filter (fun p => !isBlank p) := fun hmem =>
    h.not_mem_pieces (by rw [hpath]; exact List.mem_append_left _ (List.mem_of_mem_filter hmem))
  refine ⟨front.filter (fun p => !isBlank p), last, ?_, fun folder => ?_⟩
  · rw [names, hpath, List.filter_append]
    cases hlast : isBlank last <;> simp [hlast]
  · have hnames : names (path ++ ending) =
        front.filter (fun p => !isBlank p) ++ [last ++ ending] := by
      rw [names, happend, List.filter_append, List.filter_singleton, hblank]
      rfl
    rw [location, names_join, hnames, List.foldl_append, List.foldl_append, ← location,
      foldl_follow hfront]
    exact if_neg (hname ".." (by decide))

/-! ## Ways -/

/-- Whether a path leads through a location: its first names lead there. -/
def LeadsThrough (path : String) (k : Location) : Prop :=
  ∃ front, front <+: names path ∧ k = front.foldl follow []

/-- A path that does not lead back leads through the folders that its end lies in. -/
lemma leadsThrough_iff_of_not_mem {k : Location} (h : ".." ∉ names path) :
    LeadsThrough path k ↔ k <+: location path := by
  rw [location, foldl_follow h, List.nil_append]
  constructor
  · rintro ⟨front, hfront, rfl⟩
    rwa [foldl_follow fun hmem => h (hfront.subset hmem)]
  · intro hk
    refine ⟨k, hk, ?_⟩
    rw [foldl_follow fun hmem => h (hk.subset hmem), List.nil_append]

/-- **The way to the parent of a joined path** is the way to the folder, and goes on from there. -/
lemma LeadsOn.leadsThrough_parent_iff (h : LeadsOn path) {folder : String} {k : Location} :
    LeadsThrough (parent (join folder path)) k ↔ LeadsThrough folder k ∨
      ∃ rest, rest <+: (names path).dropLast ∧ k = location folder ++ rest := by
  have hnames : names (parent (join folder path)) = names folder ++ (names path).dropLast := by
    rw [names_parent, names_join, List.dropLast_append_of_ne_nil h.names_ne_nil]
  have hrest : ∀ rest, rest <+: (names path).dropLast →
      (names folder ++ rest).foldl follow [] = location folder ++ rest := by
    intro rest hon
    rw [List.foldl_append, ← location, foldl_follow]
    exact fun hmem => h.not_mem_names (List.mem_of_mem_dropLast (hon.subset hmem))
  rw [LeadsThrough, hnames]
  constructor
  · rintro ⟨front, hfront, rfl⟩
    rcases List.prefix_or_prefix_of_prefix hfront (List.prefix_append _ _) with hup | ⟨rest, rfl⟩
    · exact .inl ⟨front, hup, rfl⟩
    · have hon := (List.prefix_append_right_inj _).1 hfront
      exact .inr ⟨rest, hon, hrest rest hon⟩
  · rintro (⟨front, hup, rfl⟩ | ⟨rest, hon, rfl⟩)
    · exact ⟨front, hup.trans (List.prefix_append _ _), rfl⟩
    · exact ⟨names folder ++ rest, (List.prefix_append_right_inj _).2 hon, (hrest rest hon).symm⟩

end ProxyFleet.PathText
