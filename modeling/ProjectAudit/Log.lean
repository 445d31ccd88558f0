import ProjectAudit.Fault

/-!
# Log events

What is worth a line in the log of a run, how important it is, and the line itself.
-/

namespace ProjectAudit

inductive Event where
  | ruleNotJudged (rule : String) (fault : Fault)
  | ruleJudged (suite rule : String) (passed : Bool)
  | suiteFinished (suite : String) (passed total : Nat)
  | migrationsNotListed (directory : String) (cause : FileError)
  deriving DecidableEq

namespace Event

/-- worth a line even if only warnings are asked for -/
def isWarning : Event → Bool
  | .ruleNotJudged _ _ | .migrationsNotListed _ _ => true
  | .ruleJudged _ _ _ | .suiteFinished _ _ _ => false

def line : Event → String
  | .ruleNotJudged rule fault =>
    " WARN rule could not be evaluated rule=" ++ quoted rule ++ " error=" ++ fault.message
  | .ruleJudged suite rule passed =>
    "DEBUG evaluated rule suite=" ++ suite ++ " rule=" ++ rule ++ " passed=" ++
      if passed then "true" else "false"
  | .suiteFinished suite passed total =>
    " INFO suite finished suite=" ++ suite ++ " passed=" ++ toString passed ++ " total=" ++
      toString total
  | .migrationsNotListed directory cause =>
    " WARN could not list migrations; skipping discovery dir=" ++ directory ++ " error=" ++
      cause.message

end Event

end ProjectAudit
