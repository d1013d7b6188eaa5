/-!
# Path texts

How a text is read as a path.  A path is cut at its slashes; empty pieces and pieces that are a
single dot lead nowhere.

* `pieces_append_slash`, `names_append_slash` : the pieces of two texts with a slash between them,
  and the names among these.
-/

namespace ProxyFleet

/-- One part of a path. -/
inductive PathPart
  /-- A slash at the beginning. -/
  | root
  /-- A dot at the beginning: the folder that paths are looked up from. -/
  | current
  /-- Two dots: one folder back. -/
  | parent
  | name (text : String)
  deriving DecidableEq

namespace PathText

/-- The pieces of a path between its slashes. -/
def pieces (path : String) : List String := (path.toList.splitOn '/').map String.ofList

/-- Whether a piece leads nowhere. -/
def isBlank (piece : String) : Bool := piece = "" || piece = "."

/-- The part that a piece stands for. -/
def partOf (piece : String) : Option PathPart :=
  if isBlank piece then none else if piece = ".." then some .parent else some (.name piece)

/-- The parts of a path. -/
def parts (path : String) : List PathPart :=
  match pieces path with
  | [""] => []
  | "" :: rest => .root :: rest.filterMap partOf
  | "." :: rest => .current :: rest.filterMap partOf
  | all => all.filterMap partOf

/-- Whether a part is a name. -/
def isName : PathPart → Bool
  | .name _ => true
  | _ => false

/-- The path that leads to a folder and from there along a second path. -/
def join (folder path : String) : String :=
  if folder.isEmpty || folder.toList.getLast? = some '/' then folder ++ path
  else folder ++ "/" ++ path

/-- The path of the folder that a path leads through last. -/
def parent (path : String) : String :=
  String.intercalate "/"
    ((((pieces path).reverse.dropWhile isBlank).drop 1).dropWhile isBlank).reverse

/-- The pieces of a path that lead somewhere: names and two dots. -/
def names (path : String) : List String := (pieces path).filter (fun piece => !isBlank piece)

/-- The names that lead to a file or folder from the base of a tree. -/
abbrev Location := List String

/-- One step along a path.  Two dots lead back, from the base to itself. -/
def follow (l : Location) (name : String) : Location :=
  if name = ".." then l.dropLast else l ++ [name]

/-- Where a path leads if there is a folder wherever it leads through.  The base of the tree stands
for the root as well as for the folder that paths are looked up from, and no name is an alias of a
folder elsewhere. -/
def location (path : String) : Location := (names path).foldl follow []

/-- The pieces of two texts with a slash between them. -/
theorem pieces_append_slash (a b : String) : pieces (a ++ "/" ++ b) = pieces a ++ pieces b := by
  simp [pieces, List.splitOn_append_cons_self]

/-- A text without a slash is one piece. -/
theorem pieces_eq_singleton {name : String} (h : '/' ∉ name.toList) : pieces name = [name] := by
  simp [pieces, List.splitOn_eq_singleton h]

/-- The names along two texts with a slash between them. -/
theorem names_append_slash (a b : String) : names (a ++ "/" ++ b) = names a ++ names b := by
  simp [names, pieces_append_slash]

end PathText

end ProxyFleet
