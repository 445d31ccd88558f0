import ProjectAudit.Json
import ProjectAudit.RuleSet

/-!
# Reports and catalogs as JSON

A report is written with its totals and all results, a catalog with all that a rule is made of
except the root directory and the condition of a predicate.
-/

namespace ProjectAudit

/-! ## reports -/

def RuleResult.toJson (r : RuleResult) : Json :=
  .record [("suite", .text r.suite), ("name", .text r.name), ("passed", .bool r.passed),
    ("detail", .text r.detail)]

def Report.toJson (r : Report) : Json :=
  .record [("all_passed", .bool r.allPassed), ("total", .number r.total),
    ("failed", .number r.failedCount), ("results", .list (r.results.map (·.toJson)))]

/-! ## rules -/

def Expectation.key : Expectation → String
  | .file => "exists_as_file"
  | .directory => "exists_as_directory"
  | .absent => "must_not_exist"

def MatchMode.key : MatchMode → String
  | .normalized => "normalized"
  | .ignoreCase => "ignore_case"
  | .literal => "literal"

def Pattern.fields (p : Pattern) : List (String × Json) :=
  [("pattern", .text p.text), ("message", .text p.message), ("mode", .text p.mode.key)]

def Predicate.fields (p : Predicate) : List (String × Json) :=
  [("name", .text p.name), ("description", .text p.description)]

def ContentCheck.toJson : ContentCheck → Json
  | .pattern p => .record (("check", .text "pattern") :: p.fields)
  | .predicate p => .record (("check", .text "predicate") :: p.fields)
  | .notEmpty => .record [("check", .text "not_empty")]

def Target.toJson (t : Target) : Json := .record [("path", .text t.relative)]

def Rule.toJson (r : Rule) : Json :=
  match r.demand with
  | .presence expectation =>
    .record [("kind", .text "structural"), ("name", .text r.name),
      ("expectation", .record [("target", r.target.toJson), ("kind", .text expectation.key)])]
  | .content check =>
    .record [("kind", .text "content"), ("name", .text r.name),
      ("expectation", .record [("target", r.target.toJson), ("check", check.toJson)])]

/-! ## catalogs -/

def RuleSet.toJson (set : RuleSet) : Json :=
  .record [("suite", .text set.name), ("title", .text set.title),
    ("rules", .list (set.rules.map (·.toJson)))]

def catalogJson (sets : List RuleSet) : Json := .list (sets.map (·.toJson))

end ProjectAudit
