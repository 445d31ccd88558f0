import ProjectAudit.Catalog.Basic
import ProjectAudit.Disk.Collect
import ProjectAudit.Migration.Name

/-!
# Migrations beyond the catalog

The scripts in the migration directory are sorted into misnamed ones, which must not be there, and
migrations that the catalog does not know, of which both scripts must be there.
-/

namespace ProjectAudit.Migration

def directory : String := "database/migrations"

def pathOf (fileName : String) : String := directory ++ "/" ++ fileName

def upScript (stem : String) : String := pathOf (stem ++ ".up.sql")

def downScript (stem : String) : String := pathOf (stem ++ ".down.sql")

def isMisnamed (fileName : String) : Bool := (MigrationName.ofFileName? fileName).isNone

/-- each stem once, in the order of the bytes, except the known ones -/
def newStems (known fileNames : List String) : List String :=
  (distinct (fileNames.filterMap fun fileName =>
    ((MigrationName.ofFileName? fileName).map (·.stem)).filter fun stem => stem ∉ known)).mergeSort
    byteLE

def misnamedRule (p : Project) (fileName : String) : Rule :=
  p.presence (fileName ++ " follows NNN_description.(up|down).sql") (pathOf fileName) .absent

def pairRules (p : Project) (stem : String) : List Rule :=
  [p.file (upScript stem), p.file (downScript stem)]

/-- the rules for what is found, `fileNames` being in order -/
def discoveredRules (p : Project) (known fileNames : List String) : List Rule :=
  (fileNames.filter isMisnamed).map (misnamedRule p) ++
    (newStems known fileNames).flatMap (pairRules p)

/-- the scripts that lie in the migration directory -/
def scripts (p : Project) (disk : Disk) : Except FileError (List String) :=
  disk.collect p.migrationsDirectory ".sql"

end ProjectAudit.Migration
