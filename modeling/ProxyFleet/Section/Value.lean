import ProxyFleet.Duration
import ProxyFleet.Fault
import ProxyFleet.Text.Search

/-!
# Checks of single values

The checks that values of specifications pass on their way into a section, and the words of
statements.  A statement is a row of words with single spaces between them.
-/

namespace ProxyFleet.Section

/-- The words of a statement, put in a row. -/
def statement (words : List String) : String := String.intercalate " " words

/-- A word that is written when a setting is on. -/
def flag (word : String) (on : Bool) : List String := if on then [word] else []

/-- A keyword and its value, written when there is one. -/
def clause (keyword : String) (value : Option String) : List String :=
  match value with
  | some v => [keyword, v]
  | none => []

/-- A text, unless it is empty. -/
def nonEmpty (s : String) : Option String := if s.isEmpty then none else some s

/-- A length of time in whole milliseconds.  It must not carry a minus sign. -/
def millis (field : String) (d : Duration) : Except Fault Nat :=
  if d.negative then .error (.negativeDuration field) else .ok d.millis

/-- A length of time that may be left out. -/
def millis? (field : String) (d : Option Duration) : Except Fault (Option Nat) :=
  d.mapM (millis field)

/-- A port that can be listened on or connected to. -/
structure Port where
  number : Nat
  positive : 0 < number
  bounded : number ≤ 65535
  deriving DecidableEq

/-- The port with a number, if there is one. -/
def Port.ofInt? (n : Int) : Option Port :=
  if h : 0 < n.toNat ∧ n.toNat ≤ 65535 then some ⟨n.toNat, h.1, h.2⟩ else none

/-- The decimal digits of a port. -/
def Port.text (p : Port) : String := toString p.number

/-- A port that has to be there. -/
def port (n : Int64) : Except Fault Port :=
  match Port.ofInt? n.toInt with
  | some p => .ok p
  | none => .error (.port n.toInt)

/-- A status code of an answer. -/
def statusCode (n : Int64) : Except Fault Nat :=
  if 100 ≤ n.toInt ∧ n.toInt ≤ 599 then .ok n.toInt.toNat else .error (.statusCode n.toInt)

/-- A name that becomes part of a file's name.  It must not lead out of the directory. -/
def fileName (field name : String) : Except Fault String :=
  if name.toList.contains '/' || name.toList.contains '\x00' || Text.contains name ".." then
    .error (.fileName field name)
  else .ok name

/-- The decimal digits of a number. -/
def digits (n : Int64) : String := toString n.toInt

/-- What a section carries. -/
inductive Mode
  | http
  | tcp
  deriving DecidableEq

namespace Mode

/-- The name of a mode. -/
def name : Mode → String
  | .http => "http"
  | .tcp => "tcp"

/-- The mode of a name; an empty name declares none. -/
def ofName (name : String) : Except Fault (Option Mode) :=
  if name.isEmpty then .ok none
  else if name = "http" then .ok (some .http)
  else if name = "tcp" then .ok (some .tcp)
  else .error (.mode name)

end Mode

/-- How the certificate of the other side is verified. -/
inductive Verify
  | none
  | optional
  | required
  deriving DecidableEq

namespace Verify

/-- The name of a way to verify. -/
def name : Verify → String
  | .none => "none"
  | .optional => "optional"
  | .required => "required"

/-- The way of a name; an empty name declares none. -/
def ofName (name : Option String) : Except Fault (Option Verify) :=
  match name with
  | .none => .ok .none
  | some name =>
    if name.isEmpty then .ok .none
    else if name = "none" then .ok (some .none)
    else if name = "optional" then .ok (some .optional)
    else if name = "required" then .ok (some .required)
    else .error (.verify name)

end Verify

end ProxyFleet.Section
