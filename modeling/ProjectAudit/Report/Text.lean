import ProjectAudit.Report.Basic
import ProjectAudit.Report.Styled
import ProjectAudit.RuleSet
import ProjectAudit.Text.Lines

/-!
# Reports and catalogs as text

A run is shown as a header, the marked rules of each set and the totals; each failure is written
as a block of its own.  The catalog lists every rule with what it expects.
-/

namespace ProjectAudit

/-! ## failures -/

/-- what is written for one failure -/
structure FailureBlock where
  suite : String
  name : String
  /-- the lines of the detail -/
  lines : List String
  deriving DecidableEq

def RuleResult.failureBlock (r : RuleResult) : FailureBlock where
  suite := r.suite
  name := r.name
  lines := (Text.lines r.detail.toList).map .ofList

/-- a blank line, the heading, and the lines indented by four -/
def FailureBlock.spans (b : FailureBlock) : List Span :=
  [.plain "\n", .red "FAIL", .plain (" [" ++ b.suite ++ "] "), .bold b.name, .plain "\n"] ++
    b.lines.map fun line => .plain ("    " ++ line ++ "\n")

namespace Report

def failureBlocks (r : Report) : List FailureBlock := r.failures.map (·.failureBlock)

def failureSpans (r : Report) : List Span := r.failureBlocks.flatMap (·.spans)

def failureText (r : Report) : String := renderSpans false r.failureSpans

end Report

/-! ## runs -/

def headerSpans : List Span := [.bold "\n=== Project Conformance ===", .plain "\n"]

/-- a marked line -/
def RuleResult.spans (r : RuleResult) : List Span :=
  if r.passed then [.plain "  ", .green "✓", .plain (" " ++ r.name ++ "\n")]
  else [.plain "  ", .red "✗", .plain " ", .red r.name, .plain "\n"]

def RuleSet.reportSpans (set : RuleSet) (report : Report) : List Span :=
  [.plain "\n", .bold set.title, .plain " ",
    .dimmed ("(" ++ toString report.passedCount ++ "/" ++ toString report.total ++ ")"),
    .plain "\n"] ++ report.results.flatMap (·.spans)

def Report.totalsSpan (r : Report) : Span :=
  let total := toString r.total
  if r.failedCount = 0 then .green ("\nAll " ++ total ++ "/" ++ total ++ " rules passed.\n")
  else .red ("\n" ++ toString r.failedCount ++ "/" ++ total ++ " rule(s) failed.\n")

def Report.summarySpans (r : Report) : List Span :=
  [.bold "\n--- Summary ---", .plain "\n", r.totalsSpan, .plain "\n"]

/-- everything that is shown for a run except the failure blocks -/
def runSpans (sets : List RuleSet) (disk : Disk) : List Span :=
  headerSpans ++ sets.flatMap (fun set => set.reportSpans (set.run disk)) ++
    (runAll sets disk).summarySpans

/-! ## catalogs -/

def Rule.catalogLine (r : Rule) : String := "  - " ++ r.name ++ ": " ++ r.summary ++ "\n"

def RuleSet.catalogText (set : RuleSet) : String :=
  set.title ++ " (" ++ set.name ++ ", " ++ toString set.rules.length ++ " rules)\n" ++
    String.join (set.rules.map (·.catalogLine))

def catalogText (sets : List RuleSet) : String := String.join (sets.map (·.catalogText))

end ProjectAudit
