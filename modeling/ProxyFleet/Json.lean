/-!
# JSON values

The form in which records arrive.  Whole numbers are kept apart from all others, since no field of
a record takes a number with a fraction or an exponent.  Where a value is taken as it is, such a
number stays as it was written; that it is rounded to a float is left out.
-/

namespace ProxyFleet

/-- A JSON value. -/
inductive Json
  | null
  | bool (b : Bool)
  /-- A number written as digits, with or without a sign. -/
  | int (n : Int)
  /-- Any other number, as it was written. -/
  | decimal (digits : String)
  | text (s : String)
  | list (items : List Json)
  /-- An object; no key stands twice. -/
  | object (members : List (String × Json))
  deriving Inhabited

namespace Json

/-- The value of a member of an object. -/
def member? : Json → String → Option Json
  | .object members, key => members.lookup key
  | _, _ => none

/-- The text that a value is. -/
def text? : Json → Option String
  | .text s => some s
  | _ => none

/-- The whole number that a value is. -/
def int? : Json → Option Int
  | .int n => some n
  | _ => none

end Json

end ProxyFleet
