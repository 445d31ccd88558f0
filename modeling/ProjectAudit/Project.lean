import ProjectAudit.Disk.Basic
import ProjectAudit.Fault
import ProjectAudit.Path

/-!
# Projects

A project is known by its root directory and by the directory its migrations are listed in.  The
root is given, or it is the nearest directory from the current one upwards that holds `.git`.
-/

namespace ProjectAudit

structure Project where
  root : String
  migrationsDirectory : String
  deriving DecidableEq

namespace Project

def ofRoot (root : String) : Project where
  root := root
  migrationsDirectory := Path.join root "database/migrations"

/-- `cwd` is the current directory as an absolute path without links and dots -/
def discover (disk : Disk) (cwd : String) : Option Project :=
  ((Path.ancestors cwd).find? fun directory => disk.isPresent (Path.join directory ".git")).map
    ofRoot

/-- every rule looks below the root, so nothing can be judged without it -/
def validate (p : Project) (disk : Disk) : Except Fault Unit :=
  if disk.isDirectory p.root then .ok () else .error (.noRoot p.root)

end Project

end ProjectAudit
