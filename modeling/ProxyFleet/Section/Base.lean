import ProxyFleet.Section.Acl
import ProxyFleet.Section.File
import ProxyFleet.Section.Rule
import ProxyFleet.Section.Timeouts
import ProxyFleet.Spec.Section

/-!
# Shared settings of sections

The settings that frontends and backends have in common, and their statements.
-/

namespace ProxyFleet.Section

/-- How the sender's address is passed on. -/
structure ForwardFor where
  except : Option String
  header : Option String
  ifNone : Bool
  deriving DecidableEq

namespace ForwardFor

/-- The statement that passes the address on. -/
def statement (f : ForwardFor) : String :=
  Section.statement (["option", "forwardfor"] ++ clause "except" f.except ++
    clause "header" f.header ++ flag "if-none" f.ifNone)

/-- The setting, if it is enabled. -/
def ofSpec (f : Spec.ForwardFor) : Option ForwardFor :=
  if f.enabled then some ⟨f.except, f.header, f.ifNone⟩ else none

end ForwardFor

/-- The settings that frontends and backends share. -/
structure Base where
  mode : Option Mode
  forwardFor : Option ForwardFor
  pretendKeepalive : Bool
  timeouts : Timeouts
  acls : List Acl
  tcpRules : List TcpRule
  httpRules : List HttpRule
  errorFiles : List ErrorFile
  deriving DecidableEq

namespace Base

/-- The statement of the mode. -/
def modeStatements (b : Base) : List String :=
  (b.mode.map (fun m => statement ["mode", m.name])).toList

/-- The statement that passes the sender's address on. -/
def forwardForStatements (b : Base) : List String := (b.forwardFor.map ForwardFor.statement).toList

/-- The statements of the tests and rules, and then of the error pages. -/
def ruleStatements (b : Base) : List String :=
  b.acls.map Acl.statement ++ b.tcpRules.map TcpRule.statement ++
    b.httpRules.map HttpRule.statement ++ b.errorFiles.map ErrorFile.statement

/-- The variables that the rules bring into the environment. -/
def environment (b : Base) : List Variable := b.httpRules.filterMap HttpRule.usedVariable

/-- Checks declared settings, with the timeouts that a scope accepts. -/
def ofSpec (space : String) (scope : TimeoutScope) (b : Spec.Base) : Except Fault Base := do
  let mode ← Mode.ofName (b.mode.getD "")
  let timeouts ← Timeouts.ofSpec scope b.timeouts
  let acls ← b.acls.mapM Acl.ofSpec
  let tcpRules ← b.tcpRequest.mapM TcpRule.ofSpec
  let httpRules ←
    match b.httpRequest with
    | none => pure []
    | some rules => HttpRule.ofSpec space rules
  let errorFiles ← b.errorFiles.mapM (ErrorFile.ofSpec space)
  return ⟨mode, b.forwardFor.bind ForwardFor.ofSpec, b.pretendKeepalive.getD false, timeouts,
    acls, tcpRules, httpRules, errorFiles⟩

end Base

end ProxyFleet.Section
