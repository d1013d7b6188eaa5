import ProxyFleet.Proofs.Checks

/-!
# Order of rules on requests

How the declared rules on requests become statements.  They are declared kind by kind and written
kind by kind, in another order of the kinds; within a kind they keep their order.

**Items.**  `Gives` says which statement a declared item stands for: the one that it gives when
nothing else is declared, and which words of the item it begins with.  The checks of a list give one
statement for each item (`eachGives_of_mapM`).

**Rules.**  `Spec.HttpRules.inOrder` lists the declared rules in the order of their statements.  Two
kinds of rules may have no effect: a refusal that is not enabled and a redirect that chooses no kind.

Main statement: `HttpRule.eachGives_of_ofSpec`.
-/

namespace ProxyFleet

namespace Section

/-! ## Items and their statements -/

section Items

variable {α β : Type}

/-- A line is a statement that begins with some words. -/
def Begins (words : List String) (line : String) : Prop :=
  ∃ row, line = statement row ∧ words <+: row

/-- **A declared item and its statement**: the only one that the item gives on its own, which begins
with words of the item. -/
structure Gives (alone : α → Except Fault (List String)) (words : α → List String) (item : α)
    (line : String) : Prop where
  alone : alone item = .ok [line]
  begins : Begins (words item) line

/-- **One statement for each item**, in the order of the items. -/
def EachGives (alone : α → Except Fault (List String)) (words : α → List String) (items : List α)
    (lines : List String) : Prop := List.Forall₂ (Gives alone words) items lines

/-- What an item gives that is checked and then written. -/
def written (check : α → Except Fault β) (write : β → String) (item : α) :
    Except Fault (List String) := (check item).map (fun b => [write b])

lemma gives_of_ok {check : α → Except Fault β} {write : β → String} {words : α → List String}
    {item : α} {b : β} (h : check item = .ok b) (hwords : Begins (words item) (write b)) :
    Gives (written check write) words item (write b) where
  alone := by rw [written, h, Except.map]
  begins := hwords

/-- Checks of a list give a statement for each of its items. -/
lemma eachGives_of_mapM {check : α → Except Fault β} {write : β → String}
    {words : α → List String} {items : List α} {checked : List β} (h : items.mapM check = .ok checked)
    (hwords : ∀ {item b}, check item = .ok b → Begins (words item) (write b)) :
    EachGives (written check write) words items (checked.map write) := by
  rw [EachGives, List.forall₂_map_right_iff]
  exact (Check.forall₂_of_mapM h).imp fun item b hb => gives_of_ok hb (hwords hb)

end Items

end Section

/-! ## Declared rules -/

namespace Spec

/-- No rules. -/
def HttpRules.none : HttpRules := ⟨[], [], [], [], [], .none, .none, .none⟩

/-- A declared rule on requests. -/
inductive RequestRule
  | setHeader (r : HeaderRule)
  | setPath (r : PathRule)
  | addHeader (r : HeaderRule)
  | replacePath (r : ReplacePath)
  | deny (d : Deny) (status : Option Int64)
  | redirect (r : Redirect)
  | answer (a : Answer)

namespace RequestRule

/-- The declaration of nothing but one rule. -/
def alone : RequestRule → HttpRules
  | .setHeader r => { HttpRules.none with setHeader := [r] }
  | .setPath r => { HttpRules.none with setPath := [r] }
  | .addHeader r => { HttpRules.none with addHeader := [r] }
  | .replacePath r => { HttpRules.none with replacePath := [r] }
  | .deny d status => { HttpRules.none with deny := some d, denyStatus := status }
  | .redirect r => { HttpRules.none with redirect := [r] }
  | .answer a => { HttpRules.none with answer := some a }

/-- Whether a rule has an effect: a refusal that is enabled, a redirect that chooses a kind, and any
other rule. -/
def hasEffect : RequestRule → Bool
  | .deny d _ => d.enabled
  | .redirect r => decide (r.kind ≠ .none)
  | _ => true

/-- The words that the statement of a rule begins with. -/
def words : RequestRule → List String
  | .setHeader r => ["http-request", "set-header", r.name]
  | .setPath r => ["http-request", "set-path", r.format]
  | .addHeader r => ["http-request", "add-header", r.name]
  | .replacePath r => ["http-request", "replace-path", r.pattern, r.format]
  | .deny _ _ => ["http-request", "deny"]
  | .redirect r =>
    ["http-request", "redirect"] ++ (Section.RedirectKind.chosen r.kind).map (·.name) ++ [r.value]
  | .answer _ => ["http-request", "return"]

end RequestRule

/-- **The declared rules in the order of their statements.** -/
def HttpRules.inOrder (r : HttpRules) : List RequestRule :=
  r.setHeader.map .setHeader ++ r.setPath.map .setPath ++ r.addHeader.map .addHeader ++
    r.replacePath.map .replacePath ++ r.deny.toList.map (.deny · r.denyStatus) ++
    r.redirect.map .redirect ++ r.answer.toList.map .answer

end Spec

/-! ## Rules and their statements -/

namespace Section.HttpRule

open Spec (RequestRule)

variable {space : String}

/-- The rules that a declared rule becomes: itself, or none if it has no effect. -/
def ofItem (space : String) : RequestRule → Except Fault (List HttpRule)
  | .setHeader r => (setHeaderOf space r).map ([·])
  | .setPath r => (setPathOf r).map ([·])
  | .addHeader r => (addHeaderOf space r).map ([·])
  | .replacePath r => (replacePathOf r).map ([·])
  | .deny d status => denyOf (some d) status
  | .redirect r => (Redirect.ofSpec r).map (fun o => (o.map .redirect).toList)
  | .answer a => answerOf (some a)

/-- That is what comes out if nothing else is declared. -/
lemma ofSpec_alone (item : RequestRule) : ofSpec space item.alone = ofItem space item := by
  have hmap : ∀ {α β : Type} (f : α → β) (x : Except Fault α), x.map f = f <$> x := fun _ _ => rfl
  have hpure : ∀ {α : Type} (a : α), (.ok a : Except Fault α) = pure a := fun _ => rfl
  cases item <;>
    simp [RequestRule.alone, Spec.HttpRules.none, ofSpec, ofItem, denyOf, answerOf, hmap, hpure]
  case redirect r =>
    refine congrArg (· <$> Redirect.ofSpec r) (funext fun o => ?_)
    cases o <;> rfl

/-- The statements that a declared rule gives on its own. -/
def linesOf (space : String) (item : RequestRule) : Except Fault (List String) :=
  (ofSpec space item.alone).map (fun rules => rules.map statement)

/-- A redirect chooses no kind, or the one that its statement names. -/
lemma redirect_cases {r : Spec.Redirect} {o : Option Redirect} (h : Redirect.ofSpec r = .ok o) :
    (r.kind ≠ .none ∧ ∃ x, o = some x ∧ RedirectKind.chosen r.kind = [x.kind] ∧ x.value = r.value) ∨
      (r.kind = .none ∧ o = none) := by
  have hkind : RedirectKind.chosen r.kind = [] ↔ r.kind = .none := by
    obtain ⟨location, prefixed, scheme⟩ := r.kind
    revert location prefixed scheme
    decide
  rw [Redirect.ofSpec] at h
  split at h
  · rename_i hnone
    cases h
    exact .inr ⟨hkind.1 hnone, rfl⟩
  · rename_i kind hchosen
    simp only [Check.bind_eq_ok_iff, Check.pure_eq_ok_iff] at h
    obtain ⟨code, -, condition, -, rfl⟩ := h
    have hne : r.kind ≠ .none := fun he => by
      rw [hkind.2 he] at hchosen
      cases hchosen
    exact .inl ⟨hne, _, rfl, hchosen, rfl⟩
  · cases h

/-- **What a declared rule becomes**: one rule whose statement begins with its words, or none if it
has no effect. -/
lemma ofItem_cases {item : RequestRule} {rules : List HttpRule} (h : ofItem space item = .ok rules) :
    (item.hasEffect = true ∧ ∃ rule, rules = [rule] ∧ Begins item.words rule.statement) ∨
    (item.hasEffect = false ∧ rules = []) := by
  cases item with
  | setHeader r =>
    obtain ⟨rule, hrule, rfl⟩ := Check.map_eq_ok_iff.1 h
    simp only [setHeaderOf, Check.bind_eq_ok_iff, Check.pure_eq_ok_iff] at hrule
    obtain ⟨value, -, condition, -, rfl⟩ := hrule
    exact .inl ⟨rfl, _, rfl, _, rfl, List.prefix_append _ _⟩
  | setPath r =>
    obtain ⟨rule, hrule, rfl⟩ := Check.map_eq_ok_iff.1 h
    simp only [setPathOf, Check.bind_eq_ok_iff, Check.pure_eq_ok_iff] at hrule
    obtain ⟨condition, -, rfl⟩ := hrule
    exact .inl ⟨rfl, _, rfl, _, rfl, List.prefix_append _ _⟩
  | addHeader r =>
    obtain ⟨rule, hrule, rfl⟩ := Check.map_eq_ok_iff.1 h
    simp only [addHeaderOf, Check.bind_eq_ok_iff, Check.pure_eq_ok_iff] at hrule
    obtain ⟨value, -, condition, -, rfl⟩ := hrule
    exact .inl ⟨rfl, _, rfl, _, rfl, List.prefix_append _ _⟩
  | replacePath r =>
    obtain ⟨rule, hrule, rfl⟩ := Check.map_eq_ok_iff.1 h
    simp only [replacePathOf, Check.bind_eq_ok_iff, Check.pure_eq_ok_iff] at hrule
    obtain ⟨condition, -, rfl⟩ := hrule
    exact .inl ⟨rfl, _, rfl, _, rfl, List.prefix_append _ _⟩
  | deny d status =>
    rw [ofItem, denyOf] at h
    cases henabled : d.enabled with
    | false =>
      rw [Option.filter_some_neg (by simp [henabled])] at h
      cases h
      exact .inr ⟨henabled, rfl⟩
    | true =>
      rw [Option.filter_some_pos henabled] at h
      simp only [Check.bind_eq_ok_iff, Check.pure_eq_ok_iff] at h
      obtain ⟨code, -, condition, -, rfl⟩ := h
      exact .inl ⟨henabled, _, rfl, _, rfl, by simp [RequestRule.words]⟩
  | redirect r =>
    obtain ⟨o, ho, rfl⟩ := Check.map_eq_ok_iff.1 h
    rcases redirect_cases ho with ⟨hkind, x, rfl, hchosen, hvalue⟩ | ⟨hkind, rfl⟩
    · have hbegins : Begins ["http-request", "redirect", x.kind.name, x.value] x.statement :=
        ⟨_, rfl, by simp⟩
      refine .inl ⟨by simpa [RequestRule.hasEffect] using hkind, _, rfl, ?_⟩
      rw [RequestRule.words, hchosen, ← hvalue]
      exact hbegins
    · exact .inr ⟨by simpa [RequestRule.hasEffect] using hkind, rfl⟩
  | answer a =>
    simp only [ofItem, answerOf, Check.bind_eq_ok_iff, Check.pure_eq_ok_iff] at h
    obtain ⟨code, -, rfl⟩ := h
    exact .inl ⟨rfl, _, rfl, _, rfl, by simp [RequestRule.words]⟩

/-- Declared rules become rules, one part of them after another. -/
inductive Become (space : String) : List RequestRule → List HttpRule → Prop
  | nil : Become space [] []
  | cons {item : RequestRule} {part : List HttpRule} {items : List RequestRule}
      {rules : List HttpRule} (h : ofItem space item = .ok part) (hrest : Become space items rules) :
      Become space (item :: items) (part ++ rules)

namespace Become

variable {items items' : List RequestRule} {rules rules' : List HttpRule}

lemma append (h : Become space items rules) (h' : Become space items' rules') :
    Become space (items ++ items') (rules ++ rules') := by
  induction h with
  | nil => exact h'
  | cons hitem _ ih =>
    rw [List.append_assoc]
    exact .cons hitem ih

/-- Rules of one kind become what their checks give. -/
lemma of_mapM {α β : Type} {check : α → Except Fault β} (item : α → RequestRule)
    {part : β → List HttpRule} {declared : List α} {checked : List β}
    (h : declared.mapM check = .ok checked)
    (hitem : ∀ a, ofItem space (item a) = (check a).map part) :
    Become space (declared.map item) (checked.flatMap part) := by
  have hall := Check.forall₂_of_mapM h
  clear h
  induction hall with
  | nil => exact .nil
  | cons hcheck _ ih =>
    refine .cons ?_ ih
    rw [hitem, hcheck, Except.map]

/-- The same where each rule becomes one rule. -/
lemma of_mapM_single {α : Type} {check : α → Except Fault HttpRule} (item : α → RequestRule)
    {declared : List α} (h : declared.mapM check = .ok rules)
    (hitem : ∀ a, ofItem space (item a) = (check a).map ([·])) :
    Become space (declared.map item) rules := by
  have hparts := of_mapM item h hitem
  rwa [List.flatMap_singleton'] at hparts

/-- **The statements are those of the rules that have an effect**, one for each, in their order. -/
lemma eachGives (h : Become space items rules) :
    EachGives (linesOf space) RequestRule.words (items.filter (·.hasEffect))
      (rules.map statement) := by
  induction h with
  | nil => exact .nil
  | @cons item part items rules hitem _ ih =>
    rcases ofItem_cases hitem with ⟨heffect, rule, rfl, hbegins⟩ | ⟨heffect, rfl⟩
    · rw [List.filter_cons_of_pos heffect]
      refine .cons ⟨?_, hbegins⟩ ih
      rw [linesOf, ofSpec_alone, hitem]
      rfl
    · rw [List.filter_cons_of_neg (by simp [heffect])]
      exact ih

end Become

lemma become_of_denyOf {deny : Option Spec.Deny} {status : Option Int64} {rules : List HttpRule}
    (h : denyOf deny status = .ok rules) :
    Become space (deny.toList.map (.deny · status)) rules := by
  cases deny with
  | none =>
    cases h
    exact .nil
  | some d =>
    have hone : Become space [.deny d status] (rules ++ []) := .cons h .nil
    rwa [List.append_nil] at hone

lemma become_of_answerOf {answer : Option Spec.Answer} {rules : List HttpRule}
    (h : answerOf answer = .ok rules) : Become space (answer.toList.map .answer) rules := by
  cases answer with
  | none =>
    cases h
    exact .nil
  | some a =>
    have hone : Become space [.answer a] (rules ++ []) := .cons h .nil
    rwa [List.append_nil] at hone

/-- **The rules of a section** are those that its declared rules become, kind after kind. -/
lemma become_of_ofSpec {r : Spec.HttpRules} {rules : List HttpRule} (h : ofSpec space r = .ok rules) :
    Become space r.inOrder rules := by
  simp only [ofSpec, Check.bind_eq_ok_iff, Check.pure_eq_ok_iff] at h
  obtain ⟨setHeaders, hset, setPaths, hpath, addHeaders, hadd, replacePaths, hreplace, denials, hdeny,
    redirects, hredirect, answers, hanswer, rfl⟩ := h
  have hsets : Become space (r.setHeader.map .setHeader) setHeaders :=
    .of_mapM_single _ hset fun _ => rfl
  have hpaths : Become space (r.setPath.map .setPath) setPaths :=
    .of_mapM_single _ hpath fun _ => rfl
  have hadds : Become space (r.addHeader.map .addHeader) addHeaders :=
    .of_mapM_single _ hadd fun _ => rfl
  have hreplaces : Become space (r.replacePath.map .replacePath) replacePaths :=
    .of_mapM_single _ hreplace fun _ => rfl
  have hredirects : Become space (r.redirect.map .redirect)
      ((redirects.filterMap id).map .redirect) := by
    rw [List.map_filterMap, List.filterMap_eq_flatMap_toList]
    exact .of_mapM _ hredirect fun _ => rfl
  exact (((((hsets.append hpaths).append hadds).append hreplaces).append
    (become_of_denyOf hdeny)).append hredirects).append (become_of_answerOf hanswer)

/-- **Order of the statements of rules on requests.** -/
lemma eachGives_of_ofSpec {r : Spec.HttpRules} {rules : List HttpRule}
    (h : ofSpec space r = .ok rules) :
    EachGives (linesOf space) RequestRule.words (r.inOrder.filter (·.hasEffect))
      (rules.map statement) := (become_of_ofSpec h).eachGives

end Section.HttpRule

end ProxyFleet
