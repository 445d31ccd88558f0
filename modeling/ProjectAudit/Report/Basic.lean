import ProjectAudit.Rule.Result

/-!
# Reports

The results of a run in order, with their totals.
-/

namespace ProjectAudit

structure Report where
  results : List RuleResult
  deriving DecidableEq

namespace Report

def total (r : Report) : Nat := r.results.length

def allPassed (r : Report) : Bool := r.results.all (·.passed)

def failures (r : Report) : List RuleResult := r.results.filter (!·.passed)

def failedCount (r : Report) : Nat := r.failures.length

def passedCount (r : Report) : Nat := r.total - r.failedCount

/-- the results of the reports one after the other -/
def concat (reports : List Report) : Report := ⟨reports.flatMap (·.results)⟩

end Report

end ProjectAudit
