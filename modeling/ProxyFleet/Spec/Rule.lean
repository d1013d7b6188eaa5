import ProxyFleet.Duration.Parse
import ProxyFleet.Spec.File

/-!
# Declared request rules

The rules of a section that look at connections and requests, and the conditions they stand under.
-/

namespace ProxyFleet.Spec

/-- A condition and whether it has to hold or to fail. -/
structure Condition where
  kind : Option String
  test : Option String
  deriving DecidableEq

/-- The members of a condition. -/
def Condition.schema : Schema Condition Condition :=
  mk <$> .optional "conditionType" .text (·.kind) <*> .optional "condition" .text (·.test)

/-- A named test of a request against values. -/
structure Acl where
  name : String
  criterion : String
  values : List String
  deriving DecidableEq

/-- The members of a test. -/
def Acl.schema : Schema Acl Acl :=
  mk <$> .required "name" .text (·.name)
    <*> .required "criterion" .text (·.criterion)
    <*> .defaulted "values" Format.text.list [] (·.values)

/-- A rule on connections. -/
structure TcpRule where
  condition : Condition
  kind : String
  action : Option String
  timeout : Option Duration
  deriving DecidableEq

/-- The members of a rule on connections. -/
def TcpRule.schema : Schema TcpRule TcpRule :=
  mk <$> .inlined Condition.schema (·.condition)
    <*> .required "type" .text (·.kind)
    <*> .optional "action" .text (·.action)
    <*> .optional "timeout" .duration (·.timeout)

/-! ## Headers and paths -/

/-- Where the value of a variable may come from. -/
structure VariableSource where
  secretKey : Option KeyRef
  deriving DecidableEq

/-- The members of a variable's source. -/
def VariableSource.schema : Schema VariableSource VariableSource :=
  mk <$> .optional "secretKeyRef" KeyRef.schema.format (·.secretKey)

/-- A variable of the proxy's environment. -/
structure Variable where
  name : String
  value : Option String
  source : Option VariableSource
  deriving DecidableEq

/-- The members of a variable. -/
def Variable.schema : Schema Variable Variable :=
  mk <$> .required "name" .text (·.name)
    <*> .optional "value" .text (·.value)
    <*> .optional "valueFrom" VariableSource.schema.format (·.source)

/-- The value of a header: a variable or a text, and a format around it. -/
structure HeaderValue where
  env : Option Variable
  literal : Option String
  format : Option String
  deriving DecidableEq

/-- The members of a header's value. -/
def HeaderValue.schema : Schema HeaderValue HeaderValue :=
  mk <$> .optional "env" Variable.schema.format (·.env)
    <*> .optional "str" .text (·.literal)
    <*> .optional "format" .text (·.format)

/-- A rule that sets or adds a header. -/
structure HeaderRule where
  condition : Condition
  name : String
  value : HeaderValue
  deriving DecidableEq

/-- The members of a rule on a header. -/
def HeaderRule.schema : Schema HeaderRule HeaderRule :=
  mk <$> .inlined Condition.schema (·.condition)
    <*> .required "name" .text (·.name)
    <*> .required "value" HeaderValue.schema.format (·.value)

/-- A rule that sets the path. -/
structure PathRule where
  condition : Condition
  format : String
  deriving DecidableEq

/-- The members of a rule that sets the path. -/
def PathRule.schema : Schema PathRule PathRule :=
  mk <$> .inlined Condition.schema (·.condition) <*> .required "format" .text (·.format)

/-- A rule that replaces the path. -/
structure ReplacePath where
  condition : Condition
  pattern : String
  format : String
  deriving DecidableEq

/-- The members of a rule that replaces the path. -/
def ReplacePath.schema : Schema ReplacePath ReplacePath :=
  mk <$> .inlined Condition.schema (·.condition)
    <*> .required "matchRegex" .text (·.pattern)
    <*> .required "replaceFmt" .text (·.format)

/-! ## Refusals, redirects and answers -/

/-- A rule that refuses requests. -/
structure Deny where
  condition : Condition
  enabled : Bool
  deriving DecidableEq

/-- The members of a refusal. -/
def Deny.schema : Schema Deny Deny :=
  mk <$> .inlined Condition.schema (·.condition) <*> .required "enabled" .bool (·.enabled)

/-- What a redirect gives: a location, what is put in front of the path, or a scheme.  At most one
may be chosen.  The last two are written under the names `insert` and `prefix`. -/
structure RedirectKind where
  location : Bool
  prefixed : Bool
  scheme : Bool
  deriving DecidableEq

/-- No kind chosen. -/
def RedirectKind.none : RedirectKind := ⟨false, false, false⟩

/-- The members of the kind of a redirect. -/
def RedirectKind.schema : Schema RedirectKind RedirectKind :=
  mk <$> .defaulted "location" .bool false (·.location)
    <*> .defaulted "insert" .bool false (·.prefixed)
    <*> .defaulted "prefix" .bool false (·.scheme)

/-- A cookie that a redirect sets or clears. -/
structure RedirectCookie where
  name : String
  value : String
  deriving DecidableEq

/-- The members of a cookie of a redirect. -/
def RedirectCookie.schema : Schema RedirectCookie RedirectCookie :=
  mk <$> .defaulted "name" .text "" (·.name) <*> .defaulted "value" .text "" (·.value)

/-- Further settings of a redirect. -/
structure RedirectOption where
  dropQuery : Bool
  appendSlash : Bool
  setCookie : Option RedirectCookie
  clearCookie : Option RedirectCookie
  deriving DecidableEq

/-- No further settings. -/
def RedirectOption.none : RedirectOption := ⟨false, false, .none, .none⟩

/-- The members of options of a redirect. -/
def RedirectOption.schema : Schema RedirectOption RedirectOption :=
  mk <$> .defaulted "dropQuery" .bool false (·.dropQuery)
    <*> .defaulted "appendSlash" .bool false (·.appendSlash)
    <*> .optional "SetCookie" RedirectCookie.schema.format (·.setCookie)
    <*> .optional "ClearCookie" RedirectCookie.schema.format (·.clearCookie)

/-- A rule that redirects requests. -/
structure Redirect where
  condition : Condition
  code : Option Int64
  kind : RedirectKind
  value : String
  option : Option RedirectOption
  deriving DecidableEq

/-- The members of a redirect. -/
def Redirect.schema : Schema Redirect Redirect :=
  mk <$> .inlined Condition.schema (·.condition)
    <*> .optional "code" .int64 (·.code)
    <*> .defaulted "type" RedirectKind.schema.format .none (·.kind)
    <*> .defaulted "value" .text "" (·.value)
    <*> .optional "option" RedirectOption.schema.format (·.option)

/-- The content of an answer given by the proxy itself. -/
structure AnswerContent where
  kind : String
  format : String
  value : String
  deriving DecidableEq

/-- The members of the content of an answer. -/
def AnswerContent.schema : Schema AnswerContent AnswerContent :=
  mk <$> .required "type" .text (·.kind)
    <*> .required "format" .text (·.format)
    <*> .required "value" .text (·.value)

/-- An answer given by the proxy itself. -/
structure Answer where
  status : Option Int64
  content : AnswerContent
  deriving DecidableEq

/-- The members of an answer. -/
def Answer.schema : Schema Answer Answer :=
  mk <$> .optional "status" .int64 (·.status)
    <*> .required "content" AnswerContent.schema.format (·.content)

/-- The rules on requests, by kind. -/
structure HttpRules where
  setHeader : List HeaderRule
  setPath : List PathRule
  addHeader : List HeaderRule
  redirect : List Redirect
  replacePath : List ReplacePath
  deny : Option Deny
  denyStatus : Option Int64
  answer : Option Answer
  deriving DecidableEq

/-- The members of rules on requests. -/
def HttpRules.schema : Schema HttpRules HttpRules :=
  mk <$> .sparse "setHeader" HeaderRule.schema.format.list [] List.isEmpty (·.setHeader)
    <*> .sparse "setPath" PathRule.schema.format.list [] List.isEmpty (·.setPath)
    <*> .sparse "addHeader" HeaderRule.schema.format.list [] List.isEmpty (·.addHeader)
    <*> .sparse "redirect" Redirect.schema.format.list [] List.isEmpty (·.redirect)
    <*> .sparse "replacePath" ReplacePath.schema.format.list [] List.isEmpty (·.replacePath)
    <*> .optional "deny" Deny.schema.format (·.deny)
    <*> .optional "denyStatus" .int64 (·.denyStatus)
    <*> .optional "return" Answer.schema.format (·.answer)

/-- Whether the sender's address is passed on, and how. -/
structure ForwardFor where
  enabled : Bool
  except : Option String
  header : Option String
  ifNone : Bool
  deriving DecidableEq

/-- The members of the passing on of the sender's address. -/
def ForwardFor.schema : Schema ForwardFor ForwardFor :=
  mk <$> .required "enabled" .bool (·.enabled)
    <*> .optional "except" .text (·.except)
    <*> .optional "header" .text (·.header)
    <*> .defaulted "ifnone" .bool false (·.ifNone)

end ProxyFleet.Spec
