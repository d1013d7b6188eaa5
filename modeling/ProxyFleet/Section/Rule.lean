import ProxyFleet.Section.Condition
import ProxyFleet.Store
import ProxyFleet.Text.Case

/-!
# Request rules

The rules of a section on connections and on requests, with the statements they become.  Rules on
requests are kept in the order of their statements: headers that are set, paths that are set,
headers that are added, paths that are replaced, the refusal, redirects, and the answer.
-/

namespace ProxyFleet.Section

/-! ## Rules on connections -/

/-- What a rule on connections looks at. -/
inductive TcpRuleKind
  | connection
  | content
  | inspectDelay
  | session
  deriving DecidableEq

namespace TcpRuleKind

/-- The name of a kind. -/
def name : TcpRuleKind → String
  | .connection => "connection"
  | .content => "content"
  | .inspectDelay => "inspect-delay"
  | .session => "session"

/-- The kind of a name. -/
def ofName (name : String) : Except Fault TcpRuleKind :=
  if name = "connection" then .ok .connection
  else if name = "content" then .ok .content
  else if name = "inspect-delay" then .ok .inspectDelay
  else if name = "session" then .ok .session
  else .error (.tcpRequestType name)

end TcpRuleKind

/-- A rule on connections. -/
structure TcpRule where
  kind : TcpRuleKind
  action : Option String
  /-- In milliseconds. -/
  timeout : Option Nat
  condition : Option Condition
  deriving DecidableEq

namespace TcpRule

/-- The statement of a rule. -/
def statement (r : TcpRule) : String :=
  Section.statement (["tcp-request", r.kind.name] ++ r.action.toList ++
    (r.timeout.map (fun n => toString n)).toList ++ Condition.optionalWords r.condition)

/-- Checks a declared rule. -/
def ofSpec (r : Spec.TcpRule) : Except Fault TcpRule := do
  return ⟨← TcpRuleKind.ofName r.kind, r.action.bind nonEmpty,
    ← millis? "tcp-request timeout" r.timeout, ← Condition.ofSpec r.condition⟩

end TcpRule

/-! ## Header values -/

/-- The value of a variable: a text, or a stored one. -/
inductive VariableValue
  | literal (value : String)
  | secret (ref : StoreRef)
  deriving DecidableEq

/-- A variable of the proxy's environment. -/
structure Variable where
  name : String
  value : VariableValue
  deriving DecidableEq

/-- What a header is given: a text, or the value of a variable. -/
inductive HeaderContent
  | literal (value : String)
  | variable (v : Variable)
  deriving DecidableEq

/-- The value of a header, and a format in which it takes the place of the first `%s`. -/
structure HeaderValue where
  content : HeaderContent
  format : Option String
  deriving DecidableEq

namespace HeaderValue

/-- The variable that a value refers to. -/
def usedVariable (v : HeaderValue) : Option Variable :=
  match v.content with
  | .literal _ => none
  | .variable v => some v

/-- The value as it stands in a statement.  The proxy fills in the variable. -/
def text (v : HeaderValue) : String :=
  let content := match v.content with
    | .literal value => value
    | .variable v => "$\x7b" ++ v.name ++ "\x7d"
  match v.format with
  | some format => Text.replaceFirst format "%s" content
  | none => content

/-- Checks a declared value.  A variable wins over a text, and a secret over a variable's text. -/
def ofSpec (space : String) (v : Spec.HeaderValue) : Except Fault HeaderValue := do
  let content ←
    match v.env with
    | none => pure (HeaderContent.literal (v.literal.getD ""))
    | some env => do
      if env.name.isEmpty then throw (.empty "header env name")
      let value := match env.source.bind (·.secretKey) with
        | some r => VariableValue.secret ⟨.secret, space, r.name, r.key⟩
        | none => .literal (env.value.getD "")
      pure (.variable ⟨env.name, value⟩)
  return ⟨content, v.format.bind nonEmpty⟩

end HeaderValue

/-! ## Redirects -/

/-- What a redirect gives. -/
inductive RedirectKind
  | location
  | prefixed
  | scheme
  deriving DecidableEq

namespace RedirectKind

/-- The name of a kind. -/
def name : RedirectKind → String
  | .location => "location"
  | .prefixed => "prefix"
  | .scheme => "scheme"

/-- The kinds that a declaration chooses. -/
def chosen (k : Spec.RedirectKind) : List RedirectKind :=
  (if k.location then [.location] else []) ++ (if k.prefixed then [.prefixed] else []) ++
    (if k.scheme then [.scheme] else [])

end RedirectKind

/-- A rule that redirects requests. -/
structure Redirect where
  kind : RedirectKind
  value : String
  code : Option Nat
  dropQuery : Bool
  appendSlash : Bool
  setCookie : Option Spec.RedirectCookie
  clearCookie : Option Spec.RedirectCookie
  condition : Option Condition
  deriving DecidableEq

namespace Redirect

/-- The words that set a cookie: its name in upper case, followed by its value. -/
def setCookieWords (c : Spec.RedirectCookie) : List String :=
  ["set-cookie", Text.upper c.name ++ c.value]

/-- The words that clear a cookie.  Of its value, only a bare equals sign is kept. -/
def clearCookieWords (c : Spec.RedirectCookie) : List String :=
  ["clear-cookie", Text.upper c.name ++ if c.value = "=" then "=" else ""]

/-- The statement of a redirect. -/
def statement (r : Redirect) : String :=
  Section.statement (["http-request", "redirect", r.kind.name, r.value] ++
    clause "code" (r.code.map (fun n => toString n)) ++ flag "drop-query" r.dropQuery ++
    flag "append-slash" r.appendSlash ++ (r.setCookie.map setCookieWords).getD [] ++
    (r.clearCookie.map clearCookieWords).getD [] ++ Condition.optionalWords r.condition)

/-- Checks a declared redirect.  One that chooses no kind has no effect and is left out. -/
def ofSpec (r : Spec.Redirect) : Except Fault (Option Redirect) :=
  match RedirectKind.chosen r.kind with
  | [] => .ok none
  | [kind] => do
    let option := r.option.getD .none
    return some ⟨kind, r.value, ← r.code.mapM statusCode, option.dropQuery, option.appendSlash,
      option.setCookie, option.clearCookie, ← Condition.ofSpec r.condition⟩
  | _ => .error .redirectType

end Redirect

/-! ## Rules on requests -/

/-- A rule on requests. -/
inductive HttpRule
  | setHeader (name : String) (value : HeaderValue) (condition : Option Condition)
  | setPath (format : String) (condition : Option Condition)
  | addHeader (name : String) (value : HeaderValue) (condition : Option Condition)
  | replacePath (pattern format : String) (condition : Option Condition)
  | deny (status : Option Nat) (condition : Option Condition)
  | redirect (r : Redirect)
  | answer (status : Option Nat) (contentType format content : String)
  deriving DecidableEq

namespace HttpRule

/-- The content of an answer as it stands in a statement: between quotes where the format says
that it is a string. -/
def answerText (format content : String) : String :=
  if Text.contains format "string" then "\"" ++ content ++ "\"" else content

/-- The statement of a rule. -/
def statement : HttpRule → String
  | .setHeader name value condition =>
    Section.statement (["http-request", "set-header", name, value.text] ++
      Condition.optionalWords condition)
  | .setPath format condition =>
    Section.statement (["http-request", "set-path", format] ++ Condition.optionalWords condition)
  | .addHeader name value condition =>
    Section.statement (["http-request", "add-header", name, value.text] ++
      Condition.optionalWords condition)
  | .replacePath pattern format condition =>
    Section.statement (["http-request", "replace-path", pattern, format] ++
      Condition.optionalWords condition)
  | .deny status condition =>
    Section.statement (["http-request", "deny"] ++
      clause "deny_status" (status.map (fun n => toString n)) ++
      Condition.optionalWords condition)
  | .redirect r => r.statement
  | .answer status contentType format content =>
    Section.statement (["http-request", "return"] ++
      clause "status" (status.map (fun n => toString n)) ++
      ["content-type", contentType, format, answerText format content])

/-- The variable that a rule brings into the environment. -/
def usedVariable : HttpRule → Option Variable
  | .setHeader _ value _ => value.usedVariable
  | .addHeader _ value _ => value.usedVariable
  | _ => none

/-- Checks a declared rule that sets a header. -/
def setHeaderOf (space : String) (r : Spec.HeaderRule) : Except Fault HttpRule := do
  return .setHeader r.name (← HeaderValue.ofSpec space r.value) (← Condition.ofSpec r.condition)

/-- Checks a declared rule that sets the path. -/
def setPathOf (r : Spec.PathRule) : Except Fault HttpRule := do
  return .setPath r.format (← Condition.ofSpec r.condition)

/-- Checks a declared rule that adds a header. -/
def addHeaderOf (space : String) (r : Spec.HeaderRule) : Except Fault HttpRule := do
  return .addHeader r.name (← HeaderValue.ofSpec space r.value) (← Condition.ofSpec r.condition)

/-- Checks a declared rule that replaces the path. -/
def replacePathOf (r : Spec.ReplacePath) : Except Fault HttpRule := do
  return .replacePath r.pattern r.format (← Condition.ofSpec r.condition)

/-- Checks a declared refusal.  It gives a rule when it is enabled. -/
def denyOf (deny : Option Spec.Deny) (status : Option Int64) : Except Fault (List HttpRule) :=
  match deny.filter (·.enabled) with
  | none => .ok []
  | some d => do return [.deny (← status.mapM statusCode) (← Condition.ofSpec d.condition)]

/-- Checks a declared answer. -/
def answerOf (answer : Option Spec.Answer) : Except Fault (List HttpRule) :=
  match answer with
  | none => .ok []
  | some a => do
    return [.answer (← a.status.mapM statusCode) a.content.kind a.content.format a.content.value]

/-- Checks the declared rules on requests, kind by kind. -/
def ofSpec (space : String) (r : Spec.HttpRules) : Except Fault (List HttpRule) := do
  let setHeaders ← r.setHeader.mapM (setHeaderOf space)
  let setPaths ← r.setPath.mapM setPathOf
  let addHeaders ← r.addHeader.mapM (addHeaderOf space)
  let replacePaths ← r.replacePath.mapM replacePathOf
  let denials ← denyOf r.deny r.denyStatus
  let redirects ← r.redirect.mapM Redirect.ofSpec
  let answers ← answerOf r.answer
  return setHeaders ++ setPaths ++ addHeaders ++ replacePaths ++ denials ++
    (redirects.filterMap id).map .redirect ++ answers

end HttpRule

end ProxyFleet.Section
