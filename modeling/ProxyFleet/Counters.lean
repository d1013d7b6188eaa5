import ProxyFleet.Pass

/-!
# Counters of passes

How many passes ended in which way, and how many side files the last successful one produced.
-/

namespace ProxyFleet

/-- The label under which a result is counted. -/
def resultLabel : Except PassFault ArtifactSet → String
  | .ok _ => "ok"
  | .error (.mapping _ _) | .error (.sideFile _ _) => "validation"
  | .error (.collision _ _) => "collision"
  | .error (.lookup _ _) => "lookup"
  | .error .cancelled => "cancelled"

/-- The numbers kept from pass to pass. -/
structure Counters where
  /-- How many passes ended with each label. -/
  passes : KeyMap Nat
  /-- The number of side files of the last successful pass. -/
  sideFiles : Nat
  deriving DecidableEq

namespace Counters

/-- No pass yet. -/
def zero : Counters := ⟨.empty, 0⟩

/-- Counts a result. -/
def record (c : Counters) (result : Except PassFault ArtifactSet) : Counters where
  passes := c.passes.insert (resultLabel result) ((c.passes.get? (resultLabel result)).getD 0 + 1)
  sideFiles :=
    match result with
    | .ok set => set.files.size
    | .error _ => c.sideFiles

end Counters

end ProxyFleet
