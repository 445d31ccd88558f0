import ProjectAudit.Disk.Basic
import ProjectAudit.Text.Quoted

/-!
# Faults

What keeps a rule or a whole run from being judged.  An expectation that is not met is no fault.
-/

namespace ProjectAudit

inductive Fault where
  | inspection (path : String) (cause : FileError)
  | reading (path : String) (cause : FileError)
  /-- a pattern of blanks alone would match anything -/
  | blankPattern (message : String)
  | noRoot (root : String)
  deriving DecidableEq

def Fault.message : Fault → String
  | .inspection path cause => "failed to inspect " ++ path ++ ": " ++ cause.message
  | .reading path cause => "failed to read " ++ path ++ ": " ++ cause.message
  | .blankPattern message =>
    "configuration error: empty pattern (message: " ++ quoted message ++ ")"
  | .noRoot root => "project root " ++ root ++ " is not a directory"

end ProjectAudit
