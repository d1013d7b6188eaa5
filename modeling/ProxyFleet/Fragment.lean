/-!
# Fragments and documents

A fragment is one section of the configuration document: its kind, its name and its statements.
A document is a row of fragments with blank lines between them.
-/

namespace ProxyFleet

/-- The kinds of sections of a document. -/
inductive FragmentKind
  | global
  | defaults
  | resolvers
  | frontend
  | backend
  deriving DecidableEq

/-- The word that a section of a kind starts with. -/
def FragmentKind.keyword : FragmentKind → String
  | .global => "global"
  | .defaults => "defaults"
  | .resolvers => "resolvers"
  | .frontend => "frontend"
  | .backend => "backend"

/-- One section of a document. -/
structure Fragment where
  kind : FragmentKind
  name : Option String
  statements : List String
  deriving DecidableEq

namespace Fragment

/-- The first line of a section. -/
def header (f : Fragment) : String :=
  match f.name with
  | some name => f.kind.keyword ++ " " ++ name
  | none => f.kind.keyword

/-- The lines of a section: its header, and its statements two columns to the right. -/
def lines (f : Fragment) : List String := f.header :: f.statements.map ("  " ++ ·)

/-- The text of a section. -/
def text (f : Fragment) : String := String.intercalate "\n" f.lines

/-- The text of a document: each section ends with a line feed, and a blank line separates it
from the one before. -/
def render (fragments : List Fragment) : String :=
  String.intercalate "\n" (fragments.map (fun f => f.text ++ "\n"))

end Fragment

end ProxyFleet
