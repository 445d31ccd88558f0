import Mathlib
import ProjectAudit.Proofs.Report.Lines

/-!
# Reports put together

Reports are put together by writing their results one after the other, so it does not matter in
which groups that is done, and groups of groups come to the same (`Nesting.aggregate_eq`).  The
totals of the whole are those of the parts, and the failures of the whole are written as those of
the parts are, one part after the other (`concat_regrouped`).
-/

namespace ProjectAudit
namespace Report

/-! ## one after the other -/

@[simp] theorem concat_nil : concat [] = ⟨[]⟩ := rfl

@[simp] theorem concat_singleton (r : Report) : concat [r] = r := by
  simp [concat]

theorem concat_append (rs ss : List Report) :
    concat (rs ++ ss) = concat [concat rs, concat ss] := by
  simp [concat]

theorem concat_cons (r : Report) (rs : List Report) : concat (r :: rs) = concat [r, concat rs] := by
  simp [concat]

theorem concat_flatten (groups : List (List Report)) :
    concat (groups.map concat) = concat groups.flatten := by
  induction groups with
  | nil => rfl
  | cons group groups ih =>
    rw [List.map_cons, concat_cons, ih, List.flatten_cons, concat_append]

/-! ## totals -/

theorem total_concat (reports : List Report) :
    (concat reports).total = (reports.map (·.total)).sum :=
  List.length_flatMap ..

theorem failures_concat (reports : List Report) :
    (concat reports).failures = reports.flatMap (·.failures) :=
  List.filter_flatMap ..

theorem failedCount_concat (reports : List Report) :
    (concat reports).failedCount = (reports.map (·.failedCount)).sum := by
  rw [failedCount, failures_concat]
  exact List.length_flatMap ..

theorem allPassed_concat (reports : List Report) :
    (concat reports).allPassed = reports.all (·.allPassed) :=
  List.all_flatMap ..

/-! ## failures -/

theorem failureSpans_concat (reports : List Report) :
    (concat reports).failureSpans = reports.flatMap (·.failureSpans) := by
  unfold failureSpans failureBlocks
  rw [failures_concat, List.map_flatMap, List.flatMap_assoc]

theorem renderSpans_failureSpans_concat (reports : List Report) (colour : Bool) :
    renderSpans colour (concat reports).failureSpans =
      String.join (reports.map fun r => renderSpans colour r.failureSpans) := by
  rw [failureSpans_concat, renderSpans_flatMap]

end Report

/-! ## groups of groups -/

/-- reports in groups, which may be empty and may hold groups themselves -/
inductive Nesting where
  | report (report : Report)
  | group (parts : List Nesting)

namespace Nesting

mutual

/-- from the first to the last -/
def reports : Nesting → List Report
  | .report r => [r]
  | .group parts => reportsOfAll parts

def reportsOfAll : List Nesting → List Report
  | [] => []
  | part :: parts => part.reports ++ reportsOfAll parts

end

mutual

/-- every group is put together from what its parts have come to -/
def aggregate : Nesting → Report
  | .report r => r
  | .group parts => Report.concat (aggregateAll parts)

def aggregateAll : List Nesting → List Report
  | [] => []
  | part :: parts => part.aggregate :: aggregateAll parts

end

mutual

theorem aggregate_eq : ∀ nesting : Nesting, nesting.aggregate = Report.concat nesting.reports
  | .report r => (Report.concat_singleton r).symm
  | .group parts => by
    rw [aggregate, reports, concat_aggregateAll parts]

theorem concat_aggregateAll : ∀ parts : List Nesting,
    Report.concat (aggregateAll parts) = Report.concat (reportsOfAll parts)
  | [] => rfl
  | part :: parts => by
    rw [aggregateAll, Report.concat_cons, aggregate_eq part, concat_aggregateAll parts,
      ← Report.concat_append]
    rfl

end

end Nesting

/-- **Reports may be put together in any groups.**  Groups of consecutive reports come to the same
as the reports one by one, also where groups are in groups or empty.  The whole has the results of
the parts in order, as many rules and failures as they have together, and it has passed exactly if
all of them have, so no reports have passed.  Its failures are written as those of the parts one
after the other, with colour or without, so a run may write them set by set or at its end. -/
theorem concat_regrouped :
    (∀ groups : List (List Report),
      Report.concat (groups.map Report.concat) = Report.concat groups.flatten) ∧
    (∀ nesting : Nesting, nesting.aggregate = Report.concat nesting.reports) ∧
    (∀ reports : List Report,
      let whole := Report.concat reports
      whole.results = reports.flatMap (·.results) ∧
        whole.total = (reports.map (·.total)).sum ∧
        whole.failedCount = (reports.map (·.failedCount)).sum ∧
        whole.allPassed = reports.all (·.allPassed) ∧
        whole.failureText = String.join (reports.map (·.failureText)) ∧
        ∀ colour, renderSpans colour whole.failureSpans =
          String.join (reports.map fun r => renderSpans colour r.failureSpans)) ∧
    (Report.concat []).allPassed = true ∧
    ∀ (sets : List RuleSet) (disk : Disk) (colour : Bool),
      renderSpans colour (runAll sets disk).failureSpans =
        String.join (sets.map fun set => renderSpans colour (set.run disk).failureSpans) := by
  refine ⟨Report.concat_flatten, Nesting.aggregate_eq, fun reports => ?_, rfl,
    fun sets disk colour => ?_⟩
  · exact ⟨rfl, Report.total_concat reports, Report.failedCount_concat reports,
      Report.allPassed_concat reports, Report.renderSpans_failureSpans_concat reports false,
      Report.renderSpans_failureSpans_concat reports⟩
  · rw [runAll, Report.renderSpans_failureSpans_concat, List.map_map]
    rfl

end ProjectAudit
