import Mathlib.Data.List.Forall2
import ProjectAudit.Proofs.Report.Lossless

/-!
# Catalogs are read back from JSON

The JSON text of a catalog has all that its rules are made of except the root directory of a target
and the condition of a predicate.  With these two chosen anew, the sets are read back from the text
(`ofJson?_catalogJson`), so two catalogs have the same text exactly if their rules agree in
everything else (`catalogJson_identifies`).
-/

namespace ProjectAudit

/-! ## what a catalog says of a rule -/

/-- the same kind of check with the same parts, conditions apart -/
def ContentCheck.AgreesWith : ContentCheck → ContentCheck → Prop
  | .pattern p, .pattern q => p.text = q.text ∧ p.message = q.message ∧ p.mode = q.mode
  | .predicate p, .predicate q => p.name = q.name ∧ p.description = q.description
  | .notEmpty, .notEmpty => True
  | _, _ => False

def Demand.AgreesWith : Demand → Demand → Prop
  | .presence expectation, .presence other => expectation = other
  | .content check, .content other => check.AgreesWith other
  | _, _ => False

/-- the same rule, wherever its root is -/
structure Rule.AgreesWith (r s : Rule) : Prop where
  name : r.name = s.name
  path : r.target.relative = s.target.relative
  demand : r.demand.AgreesWith s.demand

structure RuleSet.AgreesWith (set other : RuleSet) : Prop where
  name : set.name = other.name
  title : set.title = other.title
  rules : List.Forall₂ Rule.AgreesWith set.rules other.rules

/-! ## what it does not say -/

/-- the check with another condition -/
def ContentCheck.withCondition (condition : Condition) : ContentCheck → ContentCheck
  | .predicate p => .predicate { p with condition := condition }
  | check => check

def Demand.withCondition (condition : Condition) : Demand → Demand
  | .content check => .content (check.withCondition condition)
  | demand => demand

/-- the rule below another root and with another condition -/
def Rule.moved (root : String) (condition : Condition) (r : Rule) : Rule where
  name := r.name
  target := { r.target with root := root }
  demand := r.demand.withCondition condition

def RuleSet.moved (root : String) (condition : Condition) (set : RuleSet) : RuleSet :=
  { set with rules := set.rules.map (·.moved root condition) }

/-! ## reading -/

/-- the expectation that is written as this key -/
def Expectation.ofKey? (key : String) : Option Expectation :=
  [.file, .directory, .absent].find? (·.key = key)

def MatchMode.ofKey? (key : String) : Option MatchMode :=
  [.normalized, .ignoreCase, .literal].find? (·.key = key)

section
variable (root : String) (condition : Condition)

def Pattern.ofJson? (value : Json) : Option Pattern := do
  let text ← value.textAt? "pattern"
  let message ← value.textAt? "message"
  let mode ← (value.textAt? "mode").bind MatchMode.ofKey?
  return ⟨text, message, mode⟩

def Predicate.ofJson? (value : Json) : Option Predicate := do
  let name ← value.textAt? "name"
  let description ← value.textAt? "description"
  return ⟨name, description, condition⟩

def ContentCheck.ofJson? (value : Json) : Option ContentCheck := do
  let kind ← value.textAt? "check"
  if kind = "pattern" then (Pattern.ofJson? value).map .pattern
  else if kind = "predicate" then (Predicate.ofJson? condition value).map .predicate
  else if kind = "not_empty" then some .notEmpty
  else none

/-- the kind is that of the rule, which is not the one beside its target -/
def Demand.ofJson? (kind : String) (expectation : Json) : Option Demand :=
  if kind = "structural" then
    ((expectation.textAt? "kind").bind Expectation.ofKey?).map .presence
  else if kind = "content" then
    ((expectation.field? "check").bind (ContentCheck.ofJson? condition)).map .content
  else none

def Rule.ofJson? (value : Json) : Option Rule := do
  let kind ← value.textAt? "kind"
  let name ← value.textAt? "name"
  let expectation ← value.field? "expectation"
  let path ← (expectation.field? "target").bind (·.textAt? "path")
  let demand ← Demand.ofJson? condition kind expectation
  return ⟨name, ⟨root, path⟩, demand⟩

def RuleSet.ofJson? (value : Json) : Option RuleSet := do
  let name ← value.textAt? "suite"
  let title ← value.textAt? "title"
  let rules ← (value.field? "rules").bind Json.list?
  let rules ← rules.mapM (Rule.ofJson? root condition)
  return ⟨name, title, rules⟩

/-- the sets of a catalog, with this root and this condition throughout -/
def ruleSetsOfJson? (value : Json) : Option (List RuleSet) :=
  value.list?.bind fun sets => sets.mapM (RuleSet.ofJson? root condition)

/-! ## reading back -/

theorem Expectation.ofKey?_key (expectation : Expectation) :
    ofKey? expectation.key = some expectation := by
  cases expectation <;> rfl

theorem MatchMode.ofKey?_key (mode : MatchMode) : ofKey? mode.key = some mode := by
  cases mode <;> rfl

theorem ContentCheck.ofJson?_toJson (check : ContentCheck) :
    ofJson? condition check.toJson = some (check.withCondition condition) := by
  cases check with
  | pattern p =>
    obtain ⟨text, message, mode⟩ := p
    cases mode <;> rfl
  | predicate p => rfl
  | notEmpty => rfl

theorem Rule.ofJson?_toJson (r : Rule) :
    ofJson? root condition r.toJson = some (r.moved root condition) := by
  obtain ⟨name, target, demand⟩ := r
  cases demand with
  | presence expectation =>
    show ((Expectation.ofKey? expectation.key).map Demand.presence).bind
      (fun demand => some (Rule.mk name ⟨root, target.relative⟩ demand)) = some _
    rw [expectation.ofKey?_key]
    rfl
  | content check =>
    show ((ContentCheck.ofJson? condition check.toJson).map Demand.content).bind
      (fun demand => some (Rule.mk name ⟨root, target.relative⟩ demand)) = some _
    rw [check.ofJson?_toJson]
    rfl

theorem RuleSet.ofJson?_toJson (set : RuleSet) :
    ofJson? root condition set.toJson = some (set.moved root condition) := by
  have hrules := mapM_ofJson? (Rule.ofJson?_toJson root condition) set.rules
  show ((set.rules.map (·.toJson)).mapM (Rule.ofJson? root condition)).bind
    (fun rules => some (RuleSet.mk set.name set.title rules)) = some _
  rw [hrules]
  rfl

theorem ofJson?_catalogJson (sets : List RuleSet) :
    ruleSetsOfJson? root condition (catalogJson sets) = some (sets.map (·.moved root condition)) :=
  mapM_ofJson? (RuleSet.ofJson?_toJson root condition) sets

/-! ## agreement -/

theorem ContentCheck.toJson_withCondition (check : ContentCheck) :
    (check.withCondition condition).toJson = check.toJson := by
  cases check <;> rfl

theorem Rule.toJson_moved (r : Rule) : (r.moved root condition).toJson = r.toJson := by
  obtain ⟨name, target, demand⟩ := r
  cases demand with
  | presence expectation => rfl
  | content check =>
    have hcheck := check.toJson_withCondition condition
    simp only [toJson, moved, Demand.withCondition, hcheck]
    rfl

theorem RuleSet.toJson_moved (set : RuleSet) : (set.moved root condition).toJson = set.toJson := by
  have hrules : (set.rules.map (·.moved root condition)).map (·.toJson) =
      set.rules.map (·.toJson) := by
    rw [List.map_map]
    exact List.map_congr_left fun r _ => r.toJson_moved root condition
  rw [toJson, moved, hrules, toJson]

theorem catalogJson_moved (sets : List RuleSet) :
    catalogJson (sets.map (·.moved root condition)) = catalogJson sets := by
  rw [catalogJson, catalogJson, List.map_map]
  exact congrArg Json.list
    (List.map_congr_left fun set _ => set.toJson_moved root condition)

theorem Pattern.eq_iff {p q : Pattern} :
    p = q ↔ p.text = q.text ∧ p.message = q.message ∧ p.mode = q.mode := by
  obtain ⟨text, message, mode⟩ := p
  obtain ⟨text', message', mode'⟩ := q
  exact Pattern.mk.injEq .. ▸ Iff.rfl

theorem ContentCheck.agreesWith_iff (check other : ContentCheck) : check.AgreesWith other ↔
    check.withCondition condition = other.withCondition condition := by
  cases check <;> cases other <;> simp [AgreesWith, withCondition, Pattern.eq_iff]

theorem Demand.agreesWith_iff (demand other : Demand) : demand.AgreesWith other ↔
    demand.withCondition condition = other.withCondition condition := by
  cases demand <;> cases other <;>
    simp [AgreesWith, withCondition, ContentCheck.agreesWith_iff condition]

theorem Rule.agreesWith_iff (r s : Rule) :
    r.AgreesWith s ↔ r.moved root condition = s.moved root condition := by
  rw [moved, moved, mk.injEq, Target.mk.injEq, ← r.demand.agreesWith_iff]
  constructor
  · rintro ⟨hname, hpath, h⟩
    exact ⟨hname, ⟨rfl, hpath⟩, h⟩
  · rintro ⟨hname, ⟨-, hpath⟩, h⟩
    exact ⟨hname, hpath, h⟩

/-- lists agree place by place exactly if what the elements agree in is the same list -/
theorem forall₂_iff_map_eq {α β : Type} {R : α → α → Prop} {f : α → β}
    (h : ∀ x y, R x y ↔ f x = f y) (xs ys : List α) :
    List.Forall₂ R xs ys ↔ xs.map f = ys.map f := by
  have hR : R = fun x y => f x = f y := funext fun x => funext fun y => propext (h x y)
  rw [← List.forall₂_eq_eq_eq, List.forall₂_map_left_iff, List.forall₂_map_right_iff, hR]

theorem RuleSet.agreesWith_iff (set other : RuleSet) :
    set.AgreesWith other ↔ set.moved root condition = other.moved root condition := by
  have hrules := forall₂_iff_map_eq (Rule.agreesWith_iff root condition) set.rules other.rules
  rw [moved, moved, mk.injEq, ← hrules]
  constructor
  · rintro ⟨hname, htitle, h⟩
    exact ⟨hname, htitle, h⟩
  · rintro ⟨hname, htitle, h⟩
    exact ⟨hname, htitle, h⟩

end

/-- **A catalog is recovered from its JSON text, roots and conditions apart.**  Two catalogs have
the same text exactly if their sets have the same names and titles in order and, rule by rule, the
same kind, name and path, and the same expectation or the same check with all its parts.  Reading
the text gives back the sets, and only the root of every rule and the condition of a predicate have
to be supplied. -/
theorem catalogJson_identifies (sets others : List RuleSet) :
    let text := (catalogJson sets).pretty ++ "\n"
    (text = (catalogJson others).pretty ++ "\n" ↔
        List.Forall₂ RuleSet.AgreesWith sets others) ∧
      ∀ (root : String) (condition : Condition),
        (Json.read? text).bind (ruleSetsOfJson? root condition) =
          some (sets.map (·.moved root condition)) := by
  intro text
  constructor
  · rw [forall₂_iff_map_eq (RuleSet.agreesWith_iff "" (.hasAny [])), String.append_left_inj,
      Json.pretty_inj]
    constructor
    · intro h
      have hread := ofJson?_catalogJson "" (.hasAny []) sets
      rw [h, ofJson?_catalogJson, Option.some.injEq] at hread
      exact hread.symm
    · intro h
      rw [← catalogJson_moved "" (.hasAny []) sets, h, catalogJson_moved]
  · intro root condition
    rw [Json.read?_eq_some_iff.2 (Json.isWrittenAs_line _), Option.bind_some, ofJson?_catalogJson]

end ProjectAudit
