import ProxyFleet.Artifact
import ProxyFleet.Directory.FileTree

/-!
# Artifact sets in a directory

How an artifact set is written into a directory.  Every file is written beside its place first and
then put there, so that nobody finds a file that is written in part.  The whole is a row of steps,
laid down beforehand, and stops at the first one that fails.

* `target?_eq_some_iff` : which paths have a place in the directory.
-/

namespace ProxyFleet

/-- One step of writing an artifact set. -/
inductive WriteStep
  /-- A path has no place in the directory. -/
  | refuse (path directory : String)
  | makeFolders (path : String)
  | writeFile (path content : String)
  | rename (source target : String)
  deriving DecidableEq

/-- Why an artifact set could not be written. -/
inductive WriteFault
  | outside (path directory : String)
  | notCreated (path : String)
  | notWritten (path : String)
  | notReplaced (path : String)
  deriving DecidableEq

/-- The message of a fault. -/
def WriteFault.message : WriteFault → String
  | .outside path directory => "refusing to write " ++ path ++ " outside " ++ directory
  | .notCreated path => "failed to create " ++ path
  | .notWritten path => "failed to write " ++ path
  | .notReplaced path => "failed to replace " ++ path

namespace Directory

/-! ## Places -/

/-- The path of a file from the directory on: what follows the directory that the proxy reads, if
the path begins with it, without slashes at the beginning. -/
def relative (path : String) : String :=
  String.ofList (((Text.withoutStart configDir path).getD path).toList.dropWhile (· = '/'))

/-- The place of a file in the directory.  Only a row of names has one. -/
def target? (directory path : String) : Option String :=
  let parts := PathText.parts (relative path)
  if !parts.isEmpty && parts.all PathText.isName then
    some (PathText.join directory (relative path))
  else none

/-- Which paths have a place in the directory, and which one. -/
theorem target?_eq_some_iff {directory path target : String} :
    target? directory path = some target ↔
      PathText.parts (relative path) ≠ [] ∧
        (∀ part ∈ PathText.parts (relative path), PathText.isName part = true) ∧
        target = PathText.join directory (relative path) := by
  rw [target?]
  split
  · rename_i h
    simp only [Bool.and_eq_true, Bool.not_eq_true', List.isEmpty_eq_false_iff,
      List.all_eq_true] at h
    constructor
    · rintro ⟨⟩
      exact ⟨h.1, h.2, rfl⟩
    · rintro ⟨-, -, rfl⟩
      rfl
  · rename_i h
    simp only [Bool.and_eq_true, Bool.not_eq_true', List.isEmpty_eq_false_iff,
      List.all_eq_true] at h
    simp only [reduceCtorEq, false_iff]
    exact fun hc => h ⟨hc.1, hc.2.1⟩

/-- The path that a file is written under first. -/
def sibling (target : String) : String := target ++ ".tmp"

/-! ## Steps -/

/-- The steps that write one file. -/
def fileSteps (directory path content : String) : List WriteStep :=
  match target? directory path with
  | none => [.refuse path directory]
  | some target =>
    [.makeFolders (PathText.parent target), .writeFile (sibling target) content,
      .rename (sibling target) target]

/-- The steps that write an artifact set. -/
def steps (directory : String) (set : ArtifactSet) : List WriteStep :=
  set.entries.flatMap (fun e => fileSteps directory e.1 e.2)

end Directory

namespace WriteStep

open PathText (location names)

/-- The fault of a step that fails. -/
def fault : WriteStep → WriteFault
  | .refuse path directory => .outside path directory
  | .makeFolders path => .notCreated path
  | .writeFile path _ => .notWritten path
  | .rename _ target => .notReplaced target

/-- The most bytes that a path may have. -/
def maxPathBytes : Nat := 4095

/-- Whether the file system takes a path: none with a zero character, and none that is too long,
wherever it leads. -/
def isTaken (path : String) : Bool :=
  !path.toList.contains '\x00' && (Text.utf8 path).length ≤ maxPathBytes

/-- Takes a step, and tells whether it succeeds.  A file is looked up where its path leads: the
folders that it leads through have been made before. -/
def run (t : FileTree) : WriteStep → FileTree × Bool
  | .refuse _ _ => (t, false)
  | .makeFolders path => if isTaken path then t.makeFolders [] (names path) else (t, false)
  | .writeFile path content =>
    if isTaken path then
      match t.writeFile (location path) content with
      | some t => (t, true)
      | none => (t, false)
    else (t, false)
  | .rename source target =>
    if isTaken source && isTaken target then
      match t.rename (location source) (location target) with
      | some t => (t, true)
      | none => (t, false)
    else (t, false)

/-- Takes a step that the file system breaks off.  Of several folders, no more than `reach` are made
then.  A file that is written is not opened if `reach` is zero, and else holds one character less
than that, or all it has. -/
def runPartly (t : FileTree) (reach : Nat) : WriteStep → FileTree
  | .makeFolders path =>
    if isTaken path then (t.makeFolders [] ((names path).take reach)).1 else t
  | .writeFile path content =>
    match reach with
    | 0 => t
    | reach + 1 => ((writeFile path (String.ofList (content.toList.take reach))).run t).1
  | .refuse _ _ | .rename _ _ => t

end WriteStep

/-- Where the file system breaks off a row of steps. -/
inductive Interruption
  | never
  /-- After so many steps, the next one reaching so far. -/
  | after (steps reach : Nat)
  deriving DecidableEq

/-- Where the rest of a row is broken off. -/
def Interruption.rest : Interruption → Interruption
  | .never => .never
  | .after steps reach => .after (steps - 1) reach

/-- What a row of steps has led to. -/
structure Written where
  tree : FileTree
  result : Except WriteFault Unit

/-- Takes steps until one fails. -/
def WriteStep.runAll (i : Interruption) (t : FileTree) : List WriteStep → Written
  | [] => ⟨t, .ok ()⟩
  | s :: rest =>
    match i with
    | .after 0 reach => ⟨s.runPartly t reach, .error s.fault⟩
    | _ =>
      match s.run t with
      | (t, true) => runAll i.rest t rest
      | (t, false) => ⟨t, .error s.fault⟩

/-- Writes an artifact set into a directory of a file tree. -/
def ArtifactSet.write (set : ArtifactSet) (directory : String) (i : Interruption) (t : FileTree) :
    Written :=
  WriteStep.runAll i t (Directory.steps directory set)

end ProxyFleet
