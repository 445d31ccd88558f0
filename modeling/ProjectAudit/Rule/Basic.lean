import ProjectAudit.Document.Condition
import ProjectAudit.Rule.Pattern
import ProjectAudit.Target

/-!
# Rules

A rule has a name, a target and a demand on it: that something be there or not, or that the text
of a file pass a check.
-/

namespace ProjectAudit

inductive Expectation where
  | file
  | directory
  | absent
  deriving DecidableEq

namespace Expectation

def describe : Expectation → String
  | .file => "a file"
  | .directory => "a directory"
  | .absent => "absent"

def isMet : Expectation → Observation → Bool
  | .file, observed => observed = .file
  | .directory, observed => observed = .directory
  | .absent, observed => observed = .nothing

end Expectation

inductive ContentCheck where
  | pattern (pattern : Pattern)
  | predicate (predicate : Predicate)
  /-- there is more than blanks -/
  | notEmpty
  deriving DecidableEq

namespace ContentCheck

def passes (cs : List Char) : ContentCheck → Bool
  | .pattern p => p.occursIn cs
  | .predicate p => p.condition.holds cs
  | .notEmpty => !Text.isAllBlank cs

end ContentCheck

inductive Demand where
  | presence (expectation : Expectation)
  | content (check : ContentCheck)
  deriving DecidableEq

structure Rule where
  name : String
  target : Target
  demand : Demand
  deriving DecidableEq

/-- what the rule expects, in words -/
def Rule.summary (r : Rule) : String :=
  match r.demand with
  | .presence expectation => r.target.display ++ " is " ++ expectation.describe
  | .content (.pattern p) => r.target.display ++ " contains " ++ quoted p.text
  | .content (.predicate p) => r.target.display ++ ": " ++ p.description
  | .content .notEmpty => r.target.display ++ " is not empty"

end ProjectAudit
