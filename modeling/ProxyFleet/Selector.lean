import ProxyFleet.Json.Schema

/-!
# Label selectors

A selector tells by their labels which records belong together.  It holds required labels and
expressions, and a record matches when all of them hold; a selector without any matches every
record, and a record without labels counts as one with none.
-/

namespace ProxyFleet

/-- The labels of a record. -/
abbrev Labels := KeyMap String

/-- How an expression of a selector tests a label. -/
inductive SelectorOperator
  | within
  | notWithin
  | present
  | absent
  deriving DecidableEq

/-- A test of one label. -/
structure SelectorExpression where
  key : String
  operator : SelectorOperator
  values : TextSet
  deriving DecidableEq

/-- Required labels and expressions, each of which may have been left out. -/
structure Selector where
  labels : Option (KeyMap String)
  expressions : Option (List SelectorExpression)
  deriving DecidableEq

namespace SelectorExpression

/-- Whether labels pass a test. -/
def holds (e : SelectorExpression) (labels : Labels) : Bool :=
  match e.operator with
  | .within => (labels.get? e.key).any e.values.contains
  | .notWithin => !(labels.get? e.key).any e.values.contains
  | .present => labels.contains e.key
  | .absent => !labels.contains e.key

/-- The operators as they are written. -/
def operatorFormat : Format SelectorOperator :=
  .tag [("In", .within), ("NotIn", .notWithin), ("Exists", .present), ("DoesNotExist", .absent)]

/-- The members of an expression. -/
def schema : Schema SelectorExpression SelectorExpression :=
  mk <$> .required "key" .text (·.key)
    <*> .required "operator" operatorFormat (·.operator)
    <*> .sparse "values" .textSet .empty KeyMap.isEmpty (·.values)

end SelectorExpression

namespace Selector

/-- The selector that matches every record. -/
def all : Selector := ⟨none, none⟩

/-- The selector of required labels. -/
def ofLabels (labels : KeyMap String) : Selector := ⟨some labels, none⟩

/-- The selector of expressions. -/
def ofExpressions (expressions : List SelectorExpression) : Selector := ⟨none, some expressions⟩

/-- The required labels, none if they were left out. -/
def requiredLabels (s : Selector) : List (String × String) :=
  (s.labels.map KeyMap.entries).getD []

/-- Whether a record with these labels matches. -/
def selects (s : Selector) (labels : Labels) : Bool :=
  s.requiredLabels.all (fun r => labels.get? r.1 == some r.2) &&
    (s.expressions.getD []).all (·.holds labels)

/-- The members of a selector. -/
def schema : Schema Selector Selector :=
  mk <$> .omitted "matchLabels" Format.text.map (·.labels)
    <*> .omitted "matchExpressions" SelectorExpression.schema.format.list (·.expressions)

end Selector

end ProxyFleet
