import ProxyFleet.Text.Quoted

/-!
# Faults of specifications

Why a specification cannot become a section.
-/

namespace ProxyFleet

/-- A value of a specification that is not valid. -/
inductive Fault
  | unknownTimeout (key : String)
  | negativeDuration (field : String)
  | cookieMode
  | redirectType
  | proxyProtocol
  | mode (name : String)
  | port (number : Int)
  | portRange (first last : Int)
  | weight (number : Int)
  | conditionType (name : String)
  | tcpRequestType (name : String)
  | errorFileCode (code : Int)
  | verify (name : String)
  | statusCode (code : Int)
  | empty (field : String)
  | backendReference
  | fileName (field name : String)
  deriving DecidableEq

/-- The message of a fault. -/
def Fault.message : Fault → String
  | .unknownTimeout key => "timeout " ++ key ++ " unknown"
  | .negativeDuration field => field ++ " must not be negative"
  | .cookieMode => "you can only select one cookie mode"
  | .redirectType => "you can only select one redirect type"
  | .proxyProtocol => "you can only select one proxy protocol"
  | .mode name => "mode " ++ name ++ " unknown, expected http or tcp"
  | .port number => "port " ++ toString number ++ " out of range 1-65535"
  | .portRange first last =>
    "port range end " ++ toString last ++ " must be greater than port " ++ toString first
  | .weight number => "weight " ++ toString number ++ " out of range 0-256"
  | .conditionType name => "condition type " ++ name ++ " unknown, expected if or unless"
  | .tcpRequestType name => "tcp-request type " ++ name ++ " unknown"
  | .errorFileCode code => "error file code " ++ toString code ++ " is not supported"
  | .verify name =>
    "ssl verify " ++ name ++ " unknown, expected none, optional or required"
  | .statusCode code => "status code " ++ toString code ++ " out of range"
  | .empty field => field ++ " must not be empty"
  | .backendReference => "backend reference must set exactly one of name and regexMapping"
  | .fileName field name =>
    field ++ " " ++ Text.quoted name ++ " must not contain '/', '..' or NUL"

end ProxyFleet
