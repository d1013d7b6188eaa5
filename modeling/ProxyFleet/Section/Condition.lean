import ProxyFleet.Section.Value
import ProxyFleet.Spec.Rule

/-!
# Conditions

The condition at the end of a rule.  A rule without one always applies.
-/

namespace ProxyFleet.Section

/-- A test that has to hold, or that has to fail. -/
structure Condition where
  negated : Bool
  test : String
  deriving DecidableEq

namespace Condition

/-- The words of a condition. -/
def words (c : Condition) : List String := [if c.negated then "unless" else "if", c.test]

/-- The words of a condition that may be missing. -/
def optionalWords (c : Option Condition) : List String := (c.map words).getD []

/-- Checks a declared condition.  What kind it is matters only where there is a test. -/
def ofSpec (c : Spec.Condition) : Except Fault (Option Condition) :=
  match c.test.bind nonEmpty with
  | none => .ok none
  | some test =>
    let kind := c.kind.getD ""
    if kind.isEmpty ∨ kind = "if" then .ok (some ⟨false, test⟩)
    else if kind = "unless" then .ok (some ⟨true, test⟩)
    else .error (.conditionType kind)

end Condition

end ProxyFleet.Section
