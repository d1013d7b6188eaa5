import ProxyFleet.Proofs.Checks
import ProxyFleet.Proofs.ReadBack

/-!
# Laws of selectors

What a change of a selector does to the records that match it.

**Conditions.**  A selector is a set of conditions, each of which a record has to meet
(`Selector.selects_iff`), so that neither the order of its expressions counts nor how often one of
them stands there (`Selector.selects_congr`).

**Changes.**  One more condition leaves fewer records (`Selector.narrows_withLabel`,
`Selector.narrows_withExpression`); a required label is an expression with one value
(`Selector.selectsSame_expressed`).

**Opposites.**  Of the four operators, two refuse what the other two accept
(`SelectorExpression.holds_opposite`).

Main statement: `Selector.selects_laws`.
-/

namespace ProxyFleet

lemma KeyMap.get?_erase {α : Type} (m : KeyMap α) (key k : String) :
    (m.erase key).get? k = if k = key then none else m.get? k := by
  rw [erase, get?_filterKeys]
  by_cases h : k = key <;> simp [h]

/-- A set of one text holds that text. -/
lemma TextSet.contains_singleton (s t : String) : (ofList [s]).contains t = decide (t = s) := by
  change (KeyMap.empty.insert s ()).contains t = decide (t = s)
  rw [KeyMap.contains_insert, KeyMap.contains, KeyMap.get?_empty, Option.isSome_none, Bool.or_false]

/-! ## Expressions -/

/-- The operator that refuses what an operator accepts. -/
def SelectorOperator.opposite : SelectorOperator → SelectorOperator
  | .within => .notWithin
  | .notWithin => .within
  | .present => .absent
  | .absent => .present

namespace SelectorExpression

/-- **Opposite operators** hold of different labels. -/
lemma holds_opposite (e : SelectorExpression) (labels : Labels) :
    { e with operator := e.operator.opposite }.holds labels = !e.holds labels := by
  obtain ⟨key, operator, values⟩ := e
  cases operator <;> simp [holds, SelectorOperator.opposite]

/-- The expression that requires a label. -/
def requiring (key value : String) : SelectorExpression := ⟨key, .within, .ofList [value]⟩

/-- It holds of the labels that have the value under the key. -/
lemma holds_requiring {key value : String} {labels : Labels} :
    (requiring key value).holds labels = true ↔ labels.get? key = some value := by
  change (labels.get? key).any (TextSet.ofList [value]).contains = true ↔ _
  cases labels.get? key with
  | none => simp
  | some v => simp [TextSet.contains_singleton]

end SelectorExpression

namespace Selector

/-! ## Conditions -/

/-- The labels that a selector requires. -/
def required (s : Selector) : Labels := s.labels.getD .empty

/-- The expressions of a selector. -/
def allExpressions (s : Selector) : List SelectorExpression := s.expressions.getD []

/-- **A record matches** if it has the required labels and all expressions hold. -/
lemma selects_iff {s : Selector} {labels : Labels} : s.selects labels = true ↔
    (∀ key value, s.required.get? key = some value → labels.get? key = some value) ∧
      ∀ e ∈ s.allExpressions, e.holds labels = true := by
  have hlabels : s.requiredLabels = s.required.entries := by
    rw [requiredLabels, required]
    cases s.labels <;> rfl
  rw [selects, hlabels, Bool.and_eq_true, List.all_eq_true, List.all_eq_true]
  refine and_congr_left fun _ => ?_
  constructor
  · intro h key value hrequired
    exact beq_iff_eq.1 (h (key, value) (KeyMap.get?_eq_some_iff.1 hrequired))
  · intro h e he
    exact beq_iff_eq.2 (h e.1 e.2 (KeyMap.get?_eq_some_iff.2 he))

/-- Selectors match the same records, those without labels among them. -/
def SelectsSame (s t : Selector) : Prop :=
  ∀ labels : Option Labels, s.selects (labels.getD .empty) = t.selects (labels.getD .empty)

/-- A selector matches no record that another one does not. -/
def Narrows (s t : Selector) : Prop :=
  ∀ labels : Option Labels,
    s.selects (labels.getD .empty) = true → t.selects (labels.getD .empty) = true

/-- **Neither order nor repetition counts**: what does is which labels are required, and which
expressions there are. -/
lemma selects_congr {s t : Selector} (hlabels : s.required = t.required)
    (h : ∀ e, e ∈ s.allExpressions ↔ e ∈ t.allExpressions) : SelectsSame s t := by
  intro labels
  rw [Bool.eq_iff_iff, selects_iff, selects_iff, hlabels]
  refine and_congr_right fun _ => ?_
  exact forall_congr' fun e => imp_congr_left (h e)

/-! ## Changes -/

/-- The selector with one more required label. -/
def withLabel (s : Selector) (key value : String) : Selector :=
  { s with labels := some (s.required.insert key value) }

/-- The selector without a required label. -/
def withoutLabel (s : Selector) (key : String) : Selector :=
  { s with labels := s.labels.map (·.erase key) }

/-- The selector with one more expression. -/
def withExpression (s : Selector) (e : SelectorExpression) : Selector :=
  { s with expressions := some (s.allExpressions ++ [e]) }

lemma required_withoutLabel (s : Selector) (key : String) :
    (s.withoutLabel key).required = s.required.erase key := by
  rw [required, required, withoutLabel]
  cases s.labels <;> rfl

/-- One more expression is one more condition. -/
lemma selects_withExpression {s : Selector} {e : SelectorExpression} {labels : Labels} :
    (s.withExpression e).selects labels = true ↔ s.selects labels = true ∧ e.holds labels = true := by
  have hexpressions : (s.withExpression e).allExpressions = s.allExpressions ++ [e] := rfl
  have hrequired : (s.withExpression e).required = s.required := rfl
  rw [selects_iff, selects_iff, hexpressions, hrequired, List.forall_mem_append,
    List.forall_mem_singleton, and_assoc]

lemma narrows_withExpression (s : Selector) (e : SelectorExpression) :
    Narrows (s.withExpression e) s := fun _ h => (selects_withExpression.1 h).1

/-- A new required label leaves the others in their places. -/
lemma narrows_withLabel {s : Selector} {key : String} (value : String)
    (h : s.required.get? key = none) : Narrows (s.withLabel key value) s := by
  intro labels hselects
  have hrequired : (s.withLabel key value).required = s.required.insert key value := rfl
  rw [selects_iff, hrequired] at hselects
  obtain ⟨hlabels, hexpressions⟩ := hselects
  refine selects_iff.2 ⟨fun k v hk => hlabels k v ?_, hexpressions⟩
  rw [KeyMap.get?_insert, if_neg, hk]
  rintro rfl
  rw [h] at hk
  cases hk

/-- **A required label can be written as an expression** with one value. -/
lemma selectsSame_expressed {s : Selector} {key value : String}
    (h : s.required.get? key = some value) :
    SelectsSame ((s.withoutLabel key).withExpression (.requiring key value)) s := by
  intro labels
  have hexpressions : (s.withoutLabel key).allExpressions = s.allExpressions := rfl
  rw [Bool.eq_iff_iff, selects_withExpression, SelectorExpression.holds_requiring, selects_iff,
    selects_iff, hexpressions, required_withoutLabel, and_right_comm]
  refine and_congr_left fun _ => ?_
  constructor
  · rintro ⟨hothers, hkey⟩ k v hk
    by_cases hsame : k = key
    · subst hsame
      rw [h] at hk
      cases hk
      exact hkey
    · exact hothers k v (by rw [KeyMap.get?_erase, if_neg hsame, hk])
  · intro hall
    refine ⟨fun k v hk => hall k v ?_, hall key value h⟩
    rw [KeyMap.get?_erase] at hk
    split at hk
    · cases hk
    · exact hk

/-! ## All of them -/

/-- **The laws of selectors.**  Records match alike whatever the order of the expressions is, however
often one of them stands there, and if a required label is written as an expression with one value; a
label under a new key or an expression leaves no more records than there were; an expression with the
opposite operator matches the records that the first one does not; and a selector that is written is
read back. -/
theorem selects_laws :
    (∀ s t : Selector, s.required = t.required →
      (∀ e, e ∈ s.allExpressions ↔ e ∈ t.allExpressions) → SelectsSame s t) ∧
    (∀ (s : Selector) (key value : String), s.required.get? key = some value →
      SelectsSame ((s.withoutLabel key).withExpression (.requiring key value)) s) ∧
    (∀ (s : Selector) (key value : String), s.required.get? key = none →
      Narrows (s.withLabel key value) s) ∧
    (∀ (s : Selector) (e : SelectorExpression), Narrows (s.withExpression e) s) ∧
    (∀ (e : SelectorExpression) (labels : Option Labels),
      (ofExpressions [{ e with operator := e.operator.opposite }]).selects (labels.getD .empty) =
        !(ofExpressions [e]).selects (labels.getD .empty)) ∧
    ∀ s : Selector, schema.format.read (schema.format.write s) = some s := by
  refine ⟨fun s t => selects_congr, fun s key value => selectsSame_expressed,
    fun s key value => narrows_withLabel value, narrows_withExpression, fun e labels => ?_,
    fun s => Format.Lossless.read_write trivial⟩
  have hone : ∀ e : SelectorExpression, (ofExpressions [e]).selects (labels.getD .empty) =
      e.holds (labels.getD .empty) := by
    intro e
    simp [ofExpressions, selects, requiredLabels]
  rw [hone, hone, SelectorExpression.holds_opposite]

/-- The records of a shop, those at the edge. -/
def shop : Selector :=
  ⟨some (.ofList [("app", "shop")]),
    some [.requiring "tier" "edge", ⟨"draft", .absent, .empty⟩]⟩

/-- The same with the expressions in another order, and one of them twice. -/
def shopReordered : Selector :=
  ⟨some (.ofList [("app", "shop")]),
    some [⟨"draft", .absent, .empty⟩, .requiring "tier" "edge", ⟨"draft", .absent, .empty⟩]⟩

theorem selects_laws_shop :
    (shop.required.get? "app" = some "shop" ∧ shop.required.get? "zone" = none) ∧
      SelectsSame shop shopReordered ∧
      SelectsSame ((shop.withoutLabel "app").withExpression (.requiring "app" "shop")) shop ∧
      Narrows (shop.withLabel "zone" "north") shop := by
  obtain ⟨hcongr, hexpressed, hlabel, -⟩ := selects_laws
  have happ : shop.required.get? "app" = some "shop" := by decide
  have hzone : shop.required.get? "zone" = none := by decide
  refine ⟨⟨happ, hzone⟩, hcongr shop shopReordered rfl fun e => ?_, hexpressed shop _ _ happ,
    hlabel shop _ _ hzone⟩
  simp only [allExpressions, shop, shopReordered, Option.getD_some, List.mem_cons,
    List.not_mem_nil, or_false]
  tauto

end Selector

end ProxyFleet
