import ProxyFleet.Artifact
import ProxyFleet.Digest.Md5
import ProxyFleet.Section.Value
import ProxyFleet.Spec.Rule

/-!
# Access lists

Named tests of requests against values.  A line holds a limited number of words, so a test with
many values reads them from a file.  The name of that file carries a digest of its content.
-/

namespace ProxyFleet.Section

/-- The number of words that a line may hold. -/
def maxLineWords : Nat := 64

/-- A named test against values. -/
structure Acl where
  name : String
  criterion : String
  values : List String
  deriving DecidableEq

namespace Acl

/-- Whether the values are read from a file, as they are too many for one line. -/
def isExternalized (a : Acl) : Bool := decide (maxLineWords - 3 < a.values.length)

/-- The content of the file of values. -/
def fileContent (a : Acl) : String := String.intercalate "\n" a.values

/-- The path of the file of values. -/
def filePath (a : Acl) : String :=
  inConfigDir ("acl-" ++ a.name ++ "-" ++ Digest.md5Hex a.fileContent ++ ".txt")

/-- The statement that declares the test. -/
def statement (a : Acl) : String :=
  Section.statement (["acl", a.name, a.criterion] ++
    if a.isExternalized then ["-f", a.filePath] else a.values)

/-- Checks a declared test. -/
def ofSpec (a : Spec.Acl) : Except Fault Acl := do
  return ⟨← fileName "acl name" a.name, a.criterion, a.values⟩

end Acl

end ProxyFleet.Section
