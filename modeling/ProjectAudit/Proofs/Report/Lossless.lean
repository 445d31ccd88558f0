import ProjectAudit.Proofs.Json.Printed
import ProjectAudit.Proofs.Report.Complete

/-!
# Reports are read back from JSON

The JSON text of a report has its totals and, in their order, all four parts of every result.  They
are read back whatever the strings are (`Report.json_lossless`), so that no two reports have the
same text.
-/

namespace ProjectAudit

/-! ## what is read -/

namespace Json

def bool? : Json → Option Bool
  | .bool value => some value
  | _ => none

def number? : Json → Option Nat
  | .number value => some value
  | _ => none

def list? : Json → Option (List Json)
  | .list items => some items
  | _ => none

end Json

/-- a result as it is written: nothing keeps one that has passed from having a detail -/
structure ResultRow where
  suite : String
  name : String
  passed : Bool
  detail : String
  deriving DecidableEq

structure ReportSummary where
  allPassed : Bool
  total : Nat
  failed : Nat
  results : List ResultRow
  deriving DecidableEq

def ResultRow.toJson (row : ResultRow) : Json :=
  .record [("suite", .text row.suite), ("name", .text row.name), ("passed", .bool row.passed),
    ("detail", .text row.detail)]

def ReportSummary.toJson (s : ReportSummary) : Json :=
  .record [("all_passed", .bool s.allPassed), ("total", .number s.total),
    ("failed", .number s.failed), ("results", .list (s.results.map (·.toJson)))]

def ResultRow.ofJson? (value : Json) : Option ResultRow := do
  let suite ← value.textAt? "suite"
  let name ← value.textAt? "name"
  let passed ← (value.field? "passed").bind Json.bool?
  let detail ← value.textAt? "detail"
  return ⟨suite, name, passed, detail⟩

def ReportSummary.ofJson? (value : Json) : Option ReportSummary := do
  let allPassed ← (value.field? "all_passed").bind Json.bool?
  let total ← (value.field? "total").bind Json.number?
  let failed ← (value.field? "failed").bind Json.number?
  let results ← (value.field? "results").bind Json.list?
  let rows ← results.mapM ResultRow.ofJson?
  return ⟨allPassed, total, failed, rows⟩

/-- what is read off each element of a list is read off the list -/
theorem mapM_ofJson? {α β : Type} {toJson : α → Json} {ofJson? : Json → Option β} {f : α → β}
    (h : ∀ x, ofJson? (toJson x) = some (f x)) (xs : List α) :
    (xs.map toJson).mapM ofJson? = some (xs.map f) := by
  induction xs with
  | nil => rfl
  | cons x xs ih =>
    rw [List.map_cons, List.mapM_cons, h, ih]
    rfl

theorem ResultRow.ofJson?_toJson (row : ResultRow) : ofJson? row.toJson = some row := rfl

theorem ReportSummary.ofJson?_toJson (s : ReportSummary) : ofJson? s.toJson = some s := by
  have hresults := mapM_ofJson? ResultRow.ofJson?_toJson s.results
  rw [List.map_id'] at hresults
  show ((s.results.map (·.toJson)).mapM ResultRow.ofJson?).bind
    (fun rows => some ⟨s.allPassed, s.total, s.failed, rows⟩) = some s
  rw [hresults]
  rfl

/-! ## reports -/

def RuleResult.row (r : RuleResult) : ResultRow := ⟨r.suite, r.name, r.passed, r.detail⟩

def Report.summary (report : Report) : ReportSummary :=
  ⟨report.allPassed, report.total, report.failedCount, report.results.map (·.row)⟩

theorem RuleResult.row_injective : Function.Injective RuleResult.row := by
  rintro ⟨suite, name, verdict⟩ ⟨suite', name', verdict'⟩ h
  cases verdict <;> cases verdict' <;>
    simp_all [row, passed, detail, Verdict.isPassed, Verdict.detail]

theorem Report.summary_injective : Function.Injective Report.summary := by
  rintro ⟨results⟩ ⟨others⟩ h
  have hrows : results.map (·.row) = others.map (·.row) := congrArg ReportSummary.results h
  rw [List.map_injective_iff.2 RuleResult.row_injective hrows]

theorem Report.toJson_summary (report : Report) : report.summary.toJson = report.toJson := by
  rw [ReportSummary.toJson, summary, List.map_map]
  rfl

/-- **A report is recovered from its JSON text.**  Whatever a summary says, the text that it is
printed as is JSON, also as a line of its own, for no other value than the summary, and reading it
gives back the totals and the rows.  For a report these are its totals and, in their order, the
suite, the name, the verdict and the detail of every result; so no other report has the same
text. -/
theorem Report.json_lossless :
    (∀ s : ReportSummary,
      (∀ value : Json, value.IsWrittenAs s.toJson.pretty ↔ value = s.toJson) ∧
        s.toJson.IsWrittenAs (s.toJson.pretty ++ "\n") ∧
        (Json.read? s.toJson.pretty).bind ReportSummary.ofJson? = some s) ∧
    ∀ report : Report,
      let text := report.toJson.pretty
      let rows := report.results.map fun r => ResultRow.mk r.suite r.name r.passed r.detail
      report.toJson.IsWrittenAs text ∧
        (Json.read? text).bind ReportSummary.ofJson? =
          some ⟨report.allPassed, report.total, report.failedCount, rows⟩ ∧
        ∀ other : Report, other.toJson.pretty = text ↔ other = report := by
  have hsummary : ∀ s : ReportSummary,
      (Json.read? s.toJson.pretty).bind ReportSummary.ofJson? = some s := by
    intro s
    rw [Json.read?_pretty, Option.bind_some, s.ofJson?_toJson]
  refine ⟨fun s => ⟨fun value => ?_, Json.isWrittenAs_line _, hsummary s⟩, fun report => ?_⟩
  · rw [← Json.read?_eq_some_iff, Json.read?_pretty, Option.some.injEq, eq_comm]
  · intro text rows
    refine ⟨Json.isWrittenAs_pretty _, ?_, fun other => ?_⟩
    · have hread := hsummary report.summary
      rw [report.toJson_summary] at hread
      exact hread
    · refine ⟨fun h => Report.summary_injective ?_, fun h => by rw [h]⟩
      have hjson : other.toJson = report.toJson := Json.pretty_inj.1 h
      rw [← toJson_summary, ← toJson_summary] at hjson
      have hread := other.summary.ofJson?_toJson
      rw [hjson, report.summary.ofJson?_toJson, Option.some.injEq] at hread
      exact hread.symm

end ProjectAudit
