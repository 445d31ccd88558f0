import ProjectAudit.Catalog.Suite

/-!
# The checks of the catalog

What the rules of a suite ask of a text depends neither on the project nor on the disk: the rules
for discovered migrations ask for no text, and the others are made from closed lists.  So
`Suite.checks` lists all of it (`Suite.mem_checks`), and what holds of every check of the catalog
can be decided check by check.
-/

namespace ProjectAudit

/-- what the rule asks of a text -/
def Rule.check? (r : Rule) : Option ContentCheck :=
  match r.demand with
  | .presence _ => none
  | .content check => some check

theorem Rule.check?_eq_some_iff {r : Rule} {check : ContentCheck} :
    r.check? = some check ↔ r.demand = .content check := by
  unfold Rule.check?
  cases r.demand <;> simp

namespace Suite

/-- the rules that do not depend on what is found -/
def fixedRules (p : Project) : Suite → List Rule
  | .layout => Catalog.Layout.rules p
  | .migrations => Catalog.Migrations.fixedRules p
  | .schema => Catalog.Schema.rules p
  | .docs => Catalog.Docs.rules p

/-- what the rules of the suite ask of texts -/
def checks (s : Suite) : List ContentCheck := (s.fixedRules (.ofRoot "")).filterMap (·.check?)

/-- the root is where the rules look from, and otherwise they are the same for all projects -/
theorem fixedRules_eq_map (p : Project) (s : Suite) :
    s.fixedRules p =
      (s.fixedRules (.ofRoot "")).map fun r => ⟨r.name, p.target r.target.relative, r.demand⟩ := by
  cases s <;> rfl

theorem filterMap_check?_fixedRules (p : Project) (s : Suite) :
    (s.fixedRules p).filterMap (·.check?) = s.checks := by
  cases s <;> rfl

theorem check?_of_mem_discoveredRules {p : Project} {known fileNames : List String} {r : Rule}
    (hr : r ∈ Migration.discoveredRules p known fileNames) : r.check? = none := by
  rcases List.mem_append.1 hr with hr | hr
  · obtain ⟨n, -, rfl⟩ := List.mem_map.1 hr
    rfl
  · obtain ⟨stem, -, hr⟩ := List.mem_flatMap.1 hr
    rcases List.mem_cons.1 hr with rfl | hr
    · rfl
    · rw [List.mem_singleton.1 hr]
      rfl

theorem mem_fixedRules {p : Project} {disk : Disk} {s : Suite} {r : Rule} {check : ContentCheck}
    (hr : r ∈ s.rules p disk) (hc : r.check? = some check) : r ∈ s.fixedRules p := by
  cases s with
  | layout => exact hr
  | schema => exact hr
  | docs => exact hr
  | migrations =>
    have hr : r ∈ Catalog.Migrations.rules p disk := hr
    unfold Catalog.Migrations.rules at hr
    split at hr
    · rcases List.mem_append.1 hr with hr | hr
      · exact hr
      · rw [check?_of_mem_discoveredRules hr] at hc
        cases hc
    · exact hr

theorem mem_checks {p : Project} {disk : Disk} {s : Suite} {r : Rule} {check : ContentCheck}
    (hr : r ∈ s.rules p disk) (hc : r.demand = .content check) : check ∈ s.checks := by
  have hc := Rule.check?_eq_some_iff.2 hc
  rw [← filterMap_check?_fixedRules p s]
  exact List.mem_filterMap.2 ⟨r, mem_fixedRules hr hc, hc⟩

end Suite

end ProjectAudit
