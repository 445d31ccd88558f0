import ProjectAudit.Report.Basic
import ProjectAudit.Log

/-!
# Rule sets

The rules on one subject, in the order in which they are judged.  Every rule of a set has a result
in its report, whatever the others come to.
-/

namespace ProjectAudit

structure RuleSet where
  name : String
  title : String
  rules : List Rule
  deriving DecidableEq

namespace RuleSet

def run (set : RuleSet) (disk : Disk) : Report := ⟨set.rules.map (·.result disk set.name)⟩

/-- what is logged for one rule: the fault that prevented a verdict, then the result -/
def ruleEvents (set : RuleSet) (disk : Disk) (rule : Rule) : List Event :=
  let done := Event.ruleJudged set.name rule.name (rule.result disk set.name).passed
  match rule.judge disk with
  | .ok _ => [done]
  | .error fault => [.ruleNotJudged rule.name fault, done]

def events (set : RuleSet) (disk : Disk) : List Event :=
  set.rules.flatMap (set.ruleEvents disk) ++
    [.suiteFinished set.name (set.run disk).passedCount (set.run disk).total]

end RuleSet

/-- the reports of the sets one after the other -/
def runAll (sets : List RuleSet) (disk : Disk) : Report := Report.concat (sets.map (·.run disk))

end ProjectAudit
