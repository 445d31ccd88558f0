import ProjectAudit.Rule.Basic

/-!
# Judging a rule

`Rule.judge` gives the verdict of a rule on a disk or the fault that prevents one; `Rule.result`
reports a fault as a failure.  A blank pattern is found before the file is looked at, and a file
that cannot be read before its text is checked.
-/

namespace ProjectAudit

inductive Verdict where
  | passed
  | failed (detail : String)
  deriving DecidableEq

namespace Verdict

def isPassed : Verdict → Bool
  | .passed => true
  | .failed _ => false

/-- empty for a rule that passed -/
def detail : Verdict → String
  | .passed => ""
  | .failed detail => detail

end Verdict

structure RuleResult where
  suite : String
  name : String
  verdict : Verdict
  deriving DecidableEq

namespace RuleResult

def passed (r : RuleResult) : Bool := r.verdict.isPassed

def detail (r : RuleResult) : String := r.verdict.detail

end RuleResult

/-- why a text does not pass the check -/
def ContentCheck.complaint (path text : String) : ContentCheck → String
  | .pattern p =>
    p.message ++ "\n  file: " ++ path ++ "\n  expected pattern: " ++ p.text ++
      "\n  actual content:\n" ++ text
  | .predicate p => p.name ++ " failed for " ++ path ++ ": " ++ p.description
  | .notEmpty => path ++ " is empty"

def ContentCheck.validate : ContentCheck → Except Fault Unit
  | .pattern p => p.validate
  | _ => .ok ()

def Disk.judgePresence (disk : Disk) (target : Target) (expectation : Expectation) :
    Except Fault Verdict := do
  let observed ← disk.probe target
  if expectation.isMet observed then
    return .passed
  else
    return .failed ("expected " ++ target.display ++ " to be " ++ expectation.describe ++
      ", found " ++ observed.describe)

def Disk.readTarget (disk : Disk) (target : Target) : Except Fault String :=
  match disk.read target.absolute with
  | .ok text => .ok text
  | .error e => .error (.reading target.display e)

def Disk.judgeContent (disk : Disk) (target : Target) (check : ContentCheck) :
    Except Fault Verdict := do
  check.validate
  let text ← disk.readTarget target
  if check.passes text.toList then
    return .passed
  else
    return .failed (check.complaint target.display text)

namespace Rule

def judge (r : Rule) (disk : Disk) : Except Fault Verdict :=
  match r.demand with
  | .presence expectation => disk.judgePresence r.target expectation
  | .content check => disk.judgeContent r.target check

/-- the result for the suite of this name -/
def result (r : Rule) (disk : Disk) (suite : String) : RuleResult where
  suite := suite
  name := r.name
  verdict :=
    match r.judge disk with
    | .ok verdict => verdict
    | .error fault => .failed fault.message

end Rule

end ProjectAudit
