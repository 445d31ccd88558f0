import ProjectAudit.Fault
import ProjectAudit.Path

/-!
# Targets and what is found there

A target is a path below the root of a project.  Probing it tells a file, a directory and nothing
apart; that nothing is there is an answer and no fault.
-/

namespace ProjectAudit

structure Target where
  root : String
  relative : String
  deriving DecidableEq

namespace Target

def absolute (t : Target) : String := Path.join t.root t.relative

/-- the path as it is named in reports -/
def display (t : Target) : String := Path.display t.relative

end Target

inductive Observation where
  | nothing
  | file
  | directory
  deriving DecidableEq

namespace Observation

/-- all that is no directory is taken for a file -/
def ofKind : FileKind → Observation
  | .directory => .directory
  | .regular | .special => .file

def describe : Observation → String
  | .nothing => "nothing"
  | .file => "a file"
  | .directory => "a directory"

end Observation

def Disk.probe (disk : Disk) (target : Target) : Except Fault Observation :=
  match disk.stat target.absolute with
  | .ok kind => .ok (.ofKind kind)
  | .error e => if e.isAbsence then .ok .nothing else .error (.inspection target.display e)

end ProjectAudit
