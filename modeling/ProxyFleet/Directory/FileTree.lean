import ProxyFleet.Directory.PathText
import ProxyFleet.Text.Utf8

/-!
# Trees of files

Files and folders by location, and the changes that a file system makes to them.  A tree has no
symbolic and no hard links: each file stands at one location, and each folder is reached by the
names of its location alone.  A change either happens as a whole or does not happen; only the making
of several folders can stop half-way.

* `get?_insert`, `get?_erase` : what is found after a change to one location.
* `get?_writeFile`, `get?_rename` : what is found after a file was written or renamed.
-/

namespace ProxyFleet

open PathText (Location)

/-- What stands at a location. -/
inductive Node
  | file (content : String)
  | folder
  deriving DecidableEq

/-- Files and folders by location, without links. -/
structure FileTree where
  nodes : List (Location × Node)
  /-- No location stands twice. -/
  distinct : (nodes.map (·.1)).Nodup
  deriving DecidableEq

namespace FileTree

/-- No files, and no folders but the base. -/
def empty : FileTree := ⟨[], .nil⟩

instance : Inhabited FileTree := ⟨empty⟩

/-- What stands at a location.  The base of the tree is always a folder. -/
def get? (t : FileTree) (l : Location) : Option Node :=
  if l = [] then some .folder else t.nodes.lookup l

/-- Whether a folder stands at a location. -/
def isFolder (t : FileTree) (l : Location) : Bool := t.get? l = some .folder

/-- Takes away whatever stands at a location. -/
def erase (t : FileTree) (l : Location) : FileTree :=
  ⟨t.nodes.filter (fun e => e.1 ≠ l), (List.filter_sublist.map _).nodup t.distinct⟩

/-- Puts a node in place of whatever stands at a location. -/
def insert (t : FileTree) (l : Location) (n : Node) : FileTree :=
  ⟨(l, n) :: (t.erase l).nodes, by
    refine List.nodup_cons.2 ⟨fun h => ?_, (t.erase l).distinct⟩
    obtain ⟨e, he, rfl⟩ := List.mem_map.1 h
    simp [erase] at he⟩

/-- The base is a folder in every tree. -/
@[simp] theorem get?_base (t : FileTree) : t.get? [] = some .folder := rfl

/-- What is found after a removal. -/
theorem get?_erase (t : FileTree) {l : Location} (h : l ≠ []) (k : Location) :
    (t.erase l).get? k = if k = l then none else t.get? k := by
  have key : (t.nodes.filter (fun e => e.1 ≠ l)).lookup k =
      if k = l then none else t.nodes.lookup k := by
    induction t.nodes with
    | nil => simp
    | cons e rest ih =>
      obtain ⟨m, n⟩ := e
      by_cases hm : m = l
      · subst hm
        by_cases hk : k = m
        · simpa [List.filter_cons, hk] using ih
        · have : (k == m) = false := by simpa using hk
          simpa [List.filter_cons, List.lookup_cons, this, hk] using ih
      · by_cases hk : k = m
        · subst hk
          simp [hm]
        · have : (k == m) = false := by simpa using hk
          simpa [List.filter_cons, hm, List.lookup_cons, this] using ih
  by_cases hk : k = []
  · subst hk
    simp [get?, Ne.symm h]
  · simp only [get?, erase, if_neg hk]
    exact key

/-- What is found after an insertion. -/
theorem get?_insert (t : FileTree) {l : Location} (h : l ≠ []) (n : Node) (k : Location) :
    (t.insert l n).get? k = if k = l then some n else t.get? k := by
  by_cases hk : k = l
  · subst hk
    simp [get?, insert, h]
  · have hb : (k == l) = false := by simpa using hk
    have he := get?_erase t h k
    simp only [get?, insert, List.lookup_cons, hb, if_neg hk] at he ⊢
    exact he

/-! ## Changes -/

/-- The most bytes that a name may have. -/
def maxNameBytes : Nat := 255

/-- Whether something new can be put at a location: it has a name, the name is not too long, and
the folder that it is put into is there. -/
def hasRoomAt (t : FileTree) (l : Location) : Bool :=
  match l.getLast? with
  | none => false
  | some name => (Text.utf8 name).length ≤ maxNameBytes && t.isFolder l.dropLast

/-- Makes a folder unless it is there. -/
def makeFolder (t : FileTree) (l : Location) : Option FileTree :=
  match t.get? l with
  | some .folder => some t
  | some (.file _) => none
  | none => if t.hasRoomAt l then some (t.insert l .folder) else none

/-- Makes the folders along the names of a path, those that it leads back from as well, and tells
whether all of them are there then.  Those made before a failure stay. -/
def makeFolders (t : FileTree) (l : Location) : List String → FileTree × Bool
  | [] => (t, true)
  | name :: rest =>
    match t.makeFolder (PathText.follow l name) with
    | none => (t, false)
    | some t => t.makeFolders (PathText.follow l name) rest

/-- Writes a file, in place of one that is there. -/
def writeFile (t : FileTree) (l : Location) (content : String) : Option FileTree :=
  if t.hasRoomAt l && !t.isFolder l then some (t.insert l (.file content)) else none

/-- Gives a file another location, in place of a file that is there. -/
def rename (t : FileTree) (source target : Location) : Option FileTree :=
  match t.get? source with
  | some (.file content) =>
    if t.hasRoomAt target && !t.isFolder target then
      some ((t.erase source).insert target (.file content))
    else none
  | _ => none

/-- The base of a tree has no room. -/
theorem ne_nil_of_hasRoomAt {t : FileTree} {l : Location} (h : t.hasRoomAt l = true) : l ≠ [] := by
  rintro rfl
  simp [hasRoomAt] at h

/-- What is found after a file was written. -/
theorem get?_writeFile {t u : FileTree} {l : Location} {content : String}
    (h : t.writeFile l content = some u) (k : Location) :
    u.get? k = if k = l then some (.file content) else t.get? k := by
  rw [writeFile] at h
  split at h
  · rename_i hc
    obtain ⟨hr, -⟩ := Bool.and_eq_true_iff.1 hc
    cases h
    exact get?_insert t (ne_nil_of_hasRoomAt hr) _ k
  · exact absurd h (by simp)

/-- What is found after a file was renamed. -/
theorem get?_rename {t u : FileTree} {source target : Location} {content : String}
    (hs : t.get? source = some (.file content)) (h : t.rename source target = some u)
    (k : Location) :
    u.get? k = if k = target then some (.file content)
      else if k = source then none else t.get? k := by
  have hne : source ≠ [] := by
    rintro rfl
    simp at hs
  simp only [rename, hs] at h
  split at h
  · rename_i hc
    obtain ⟨hr, -⟩ := Bool.and_eq_true_iff.1 hc
    cases h
    rw [get?_insert _ (ne_nil_of_hasRoomAt hr), get?_erase _ hne]
  · exact absurd h (by simp)

/-! ## Listings -/

/-- The locations of all nodes. -/
def locations (t : FileTree) : List Location := t.nodes.map (·.1)

/-- Whether a location lies below another. -/
def isBelow (folder l : Location) : Bool := folder.isPrefixOf l && l ≠ folder

/-- What a folder holds, by path from there: the content of every file, and every folder that
holds nothing, with a slash at its end. -/
def listing (t : FileTree) (folder : Location) : List (String × Option String) :=
  let below := t.locations.filter (isBelow folder)
  below.filterMap (fun l =>
    let path := String.intercalate "/" (l.drop folder.length)
    match t.get? l with
    | some (.file content) => some (path, some content)
    | some .folder => if t.locations.any (isBelow l) then none else some (path ++ "/", none)
    | none => none)

end FileTree

end ProxyFleet
