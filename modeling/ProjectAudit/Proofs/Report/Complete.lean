import Mathlib
import ProjectAudit.CommandLine.Run
import ProjectAudit.Proofs.Catalog.Keys
import ProjectAudit.Proofs.Report.CatalogText
import ProjectAudit.Proofs.Rule.Detail

/-!
# A run reports the whole catalog

Each rule has one result, in the order of the catalog, whatever the rules come to, and the totals of
a report are those of its results.  Both forms of the catalog list the rules that a run on the same
disk reports (`runAll_complete`).
-/

namespace ProjectAudit
open CommandLine

/-! ## catalogs as JSON -/

namespace Json

def field? (key : String) : Json → Option Json
  | .record fields => fields.lookup key
  | _ => none

def text? : Json → Option String
  | .text value => some value
  | _ => none

def items : Json → List Json
  | .list items => items
  | _ => []

def textAt? (key : String) (value : Json) : Option String := (value.field? key).bind text?

def itemsAt (key : String) (value : Json) : List Json := ((value.field? key).map items).getD []

/-- the rules in a catalog: the name of the suite and that of the rule -/
def listed (catalog : Json) : List (Option String × Option String) :=
  catalog.items.flatMap fun set =>
    (set.itemsAt "rules").map fun rule => (set.textAt? "suite", rule.textAt? "name")

/-- the rules that have a result in a report -/
def reported (report : Json) : List (Option String × Option String) :=
  (report.itemsAt "results").map fun result => (result.textAt? "suite", result.textAt? "name")

end Json

theorem Rule.name_toJson (r : Rule) : r.toJson.textAt? "name" = some r.name := by
  obtain ⟨name, target, demand⟩ := r
  cases demand <;> rfl

theorem RuleSet.suite_toJson (set : RuleSet) : set.toJson.textAt? "suite" = some set.name := rfl

theorem RuleSet.rules_toJson (set : RuleSet) :
    set.toJson.itemsAt "rules" = set.rules.map (·.toJson) := rfl

theorem listed_catalogJson (sets : List RuleSet) :
    (catalogJson sets).listed =
      (sets.flatMap (·.keys)).map fun key => (some key.1, some key.2) := by
  show (sets.map (·.toJson)).flatMap _ = _
  rw [List.flatMap_map, List.map_flatMap]
  refine List.flatMap_congr fun set _ => ?_
  rw [RuleSet.suite_toJson, RuleSet.rules_toJson, RuleSet.keys, List.map_map, List.map_map]
  refine List.map_congr_left fun r _ => ?_
  exact congrArg (Prod.mk (some set.name)) r.name_toJson

theorem reported_toJson (report : Report) :
    report.toJson.reported =
      (report.results.map (·.key)).map fun key => (some key.1, some key.2) := by
  have hresults : report.toJson.itemsAt "results" = report.results.map (·.toJson) := rfl
  rw [Json.reported, hresults, List.map_map, List.map_map]
  exact List.map_congr_left fun r _ => rfl

/-! ## catalogs as text -/

/-- the lines of a catalog for a set that has come to this report: a heading, and for each result
its name and what the rule expects -/
def RuleSet.catalogLines (set : RuleSet) (report : Report) : List String :=
  (set.title ++ " (" ++ set.name ++ ", " ++ toString report.total ++ " rules)") ::
    report.results.zipWith (fun result rule => "  - " ++ result.name ++ ": " ++ rule.summary)
      set.rules

theorem RuleSet.catalogLines_run (set : RuleSet) (disk : Disk) :
    set.catalogLines (set.run disk) = set.listings := by
  have htotal : (set.run disk).total = set.rules.length := List.length_map ..
  have hlines : (set.run disk).results.zipWith
      (fun result rule => "  - " ++ result.name ++ ": " ++ rule.summary) set.rules =
        set.rules.map (·.listing) := by
    show List.zipWith _ (set.rules.map _) set.rules = _
    rw [List.zipWith_map_left, List.zipWith_self]
    rfl
  rw [catalogLines, htotal, hlines]
  rfl

theorem catalogText_eq (sets : List RuleSet) (disk : Disk) :
    catalogText sets = joinLines (sets.flatMap fun set => set.catalogLines (set.run disk)) := by
  rw [catalogText_eq_joinLines]
  exact congrArg joinLines (List.flatMap_congr fun set _ => (set.catalogLines_run disk).symm)

/-! ## runs -/

theorem total_runAll (sets : List RuleSet) (disk : Disk) :
    (runAll sets disk).total = (sets.map (·.rules.length)).sum := by
  rw [Report.total, results_runAll_sets, List.length_flatMap]
  simp only [List.length_map]

theorem passed_iff_of_mem_runAll {sets : List RuleSet} {disk : Disk} {result : RuleResult}
    (h : result ∈ (runAll sets disk).results) : result.passed = true ↔ result.detail = "" := by
  rw [results_runAll_sets] at h
  obtain ⟨set, -, h⟩ := List.mem_flatMap.1 h
  obtain ⟨r, -, rfl⟩ := List.mem_map.1 h
  exact r.passed_iff_detail disk set.name

theorem failedCount_runAll (sets : List RuleSet) (disk : Disk) :
    (runAll sets disk).failedCount = (runAll sets disk).results.countP (·.detail ≠ "") := by
  rw [Report.failedCount, Report.failures, ← List.countP_eq_length_filter]
  refine List.countP_congr fun result h => ?_
  rw [Bool.not_eq_true', ← Bool.not_eq_true, decide_eq_true_eq]
  exact not_congr (passed_iff_of_mem_runAll h)

/-- **A run reports exactly the catalog.**  Every rule of every set has one result, set by set in
the order of the rules, that carries the name of the set and that of the rule, even if the rule
fails or cannot be judged.  A result has passed exactly if its detail is empty, and the totals count
the rules and the results with a detail.  On the same disk, both forms of the catalog list the rules
of the results in their order: as text it can be made from the results, with a heading and a line
for each of them, and as JSON it has the same names as the report. -/
theorem runAll_complete :
    (∀ (sets : List RuleSet) (disk : Disk),
      let report := runAll sets disk
      let named := (sets.flatMap (·.keys)).map fun key => (some key.1, some key.2)
      report.results = sets.flatMap (fun set => set.rules.map (·.result disk set.name)) ∧
        report.results.map (·.key) = sets.flatMap (·.keys) ∧
        (∀ result ∈ report.results, result.passed = true ↔ result.detail = "") ∧
        report.total = (sets.map (·.rules.length)).sum ∧
        report.failedCount = report.results.countP (·.detail ≠ "") ∧
        (report.allPassed = true ↔ report.failedCount = 0) ∧
        catalogText sets = joinLines (sets.flatMap fun set => set.catalogLines (set.run disk)) ∧
        (catalogJson sets).listed = named ∧ report.toJson.reported = named) ∧
    ∀ (p : Project) (disk : Disk) (o : Options) (colour : Bool),
      let sets := p.ruleSets disk o.suites
      (Options.listed { o with format := some .text } disk p).stdout = catalogText sets ∧
        (Options.listed { o with format := some .json } disk p).stdout =
          (catalogJson sets).pretty ++ "\n" ∧
        (Options.judged { o with format := some .json } disk p colour).stdout =
          (runAll sets disk).toJson.pretty ++ "\n" := by
  refine ⟨fun sets disk => ?_, fun p disk o colour => ⟨rfl, rfl, rfl⟩⟩
  intro report named
  refine ⟨results_runAll_sets sets disk, keys_runAll sets disk,
    fun result h => passed_iff_of_mem_runAll h, total_runAll sets disk,
    failedCount_runAll sets disk, Report.failedCount_eq_zero_iff.symm, catalogText_eq sets disk,
    listed_catalogJson sets, ?_⟩
  rw [reported_toJson, keys_runAll]

end ProjectAudit
