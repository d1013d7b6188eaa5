import ProxyFleet.Fragment
import ProxyFleet.Section.Base
import ProxyFleet.Section.Bind

/-!
# Frontends

Where the proxy listens, and where requests go from there.
-/

namespace ProxyFleet.Section

/-- A parameter of requests that is matched against the host patterns of the selected backends. -/
structure RegexMapping where
  name : String
  parameter : String
  selector : Selector
  deriving DecidableEq

namespace RegexMapping

/-- The path of the file of patterns. -/
def path (m : RegexMapping) : String := configPath m.name "map"

/-- The expression that looks the parameter up in the file of patterns. -/
def lookup (m : RegexMapping) : String := m.parameter ++ ",map_reg(" ++ m.path ++ ")"

end RegexMapping

/-- Where a rule sends requests. -/
inductive BackendTarget
  | name (name : String)
  | mapping (m : RegexMapping)
  deriving DecidableEq

namespace BackendTarget

/-- The mapping of a target. -/
def mapping? : BackendTarget → Option RegexMapping
  | .name _ => none
  | .mapping m => some m

/-- Checks a declared target.  It is a name or a mapping; an empty name counts as none. -/
def ofSpec (r : Spec.BackendReference) : Except Fault BackendTarget :=
  match r.name.bind nonEmpty, r.mapping with
  | some given, none => .ok (.name given)
  | none, some m => do
    return .mapping ⟨← fileName "regex mapping name" m.name, m.parameter, m.selector⟩
  | _, _ => .error .backendReference

end BackendTarget

/-- A rule that sends requests to a backend. -/
structure SwitchingRule where
  target : BackendTarget
  condition : Option Condition
  deriving DecidableEq

namespace SwitchingRule

/-- The statement of a rule.  A mapping without a condition applies where it finds a backend. -/
def statement (r : SwitchingRule) : String :=
  match r.target, r.condition with
  | .name name, condition =>
    Section.statement (["use_backend", name] ++ Condition.optionalWords condition)
  | .mapping m, some condition =>
    Section.statement (["use_backend", "%[" ++ m.lookup ++ "]"] ++ condition.words)
  | .mapping m, none =>
    Section.statement
      ["use_backend", "%[" ++ m.lookup ++ "]", "if", "\x7b", m.lookup, "-m", "found", "\x7d"]

/-- Checks a declared rule. -/
def ofSpec (r : Spec.SwitchingRule) : Except Fault SwitchingRule := do
  return ⟨← BackendTarget.ofSpec r.backend, ← Condition.ofSpec r.condition⟩

end SwitchingRule

/-- A frontend. -/
structure Frontend where
  name : String
  base : Base
  binds : List Bind
  switching : List SwitchingRule
  defaultBackend : Option String
  deriving DecidableEq

namespace Frontend

/-- The mappings of a frontend, in the order of its rules. -/
def mappings (f : Frontend) : List RegexMapping := f.switching.filterMap (·.target.mapping?)

/-- The section of a frontend. -/
def fragment (f : Frontend) : Fragment where
  kind := .frontend
  name := some f.name
  statements :=
    f.base.modeStatements ++ f.base.forwardForStatements ++ f.base.timeouts.statements ++
      f.base.ruleStatements ++ f.binds.map Bind.statement ++
      f.switching.map SwitchingRule.statement ++
      (f.defaultBackend.map (fun name => statement ["default_backend", name])).toList

/-- Checks a declared frontend. -/
def ofSpec (space name : String) (f : Spec.Frontend) : Except Fault Frontend := do
  let base ← Base.ofSpec space .frontend f.base
  let binds ← f.binds.mapM (Bind.ofSpec space)
  let switching ← f.switching.mapM SwitchingRule.ofSpec
  return ⟨name, base, binds, switching, nonEmpty f.defaultBackend.name⟩

end Frontend

end ProxyFleet.Section
