import ProxyFleet.Digest.Hex
import ProxyFleet.Digest.Sha256
import ProxyFleet.KeyMap
import ProxyFleet.Text.Search
import ProxyFleet.Text.Utf8

/-!
# Artifact sets

What one synthesis pass produces: the document and the side files it refers to.  The fingerprint
of a set is a digest over its paths and contents in path order, each followed by a zero byte.
-/

namespace ProxyFleet

/-! ## Paths -/

/-- The directory the proxy reads its configuration and side files from. -/
def configDir : String := "/usr/local/etc/haproxy"

/-- The name of the configuration document. -/
def configFile : String := "haproxy.cfg"

/-- The absolute path of a file in the configuration directory. -/
def inConfigDir (name : String) : String := configDir ++ "/" ++ name

/-- The path of a file with an extension, which is not repeated where the name already has it. -/
def configPath (name ext : String) : String :=
  inConfigDir ((Text.withoutEnd ("." ++ ext) name).getD name ++ "." ++ ext)

/-! ## Sets -/

/-- The document and the side files of one pass. -/
structure ArtifactSet where
  /-- The text of the configuration document. -/
  document : String
  /-- The side files by absolute path. -/
  files : KeyMap String
  deriving DecidableEq

namespace ArtifactSet

/-- All files in path order, the document under its own name.  A side file of that name comes
before the document. -/
def entries (set : ArtifactSet) : List (String × String) :=
  (set.files.entries ++ [(configFile, set.document)]).mergeSort (fun a b => !decide (b.1 < a.1))

/-- The bytes the fingerprint is taken over. -/
def fingerprintBytes (set : ArtifactSet) : List UInt8 :=
  set.entries.flatMap (fun e => Text.utf8 e.1 ++ [0] ++ Text.utf8 e.2 ++ [0])

/-- A digest of the whole set in hexadecimal digits. -/
def fingerprint (set : ArtifactSet) : String := Digest.hex (Digest.sha256 set.fingerprintBytes)

end ArtifactSet

end ProxyFleet
