import ProjectAudit.Catalog.Docs
import ProjectAudit.Catalog.Layout
import ProjectAudit.Catalog.Migrations
import ProjectAudit.Catalog.Schema

/-!
# Suites

The catalog has four suites, in the order in which they are reported.  All of them are judged
unless some are named.
-/

namespace ProjectAudit

inductive Suite where
  | layout
  | migrations
  | schema
  | docs
  deriving DecidableEq

namespace Suite

def name : Suite → String
  | .layout => "layout"
  | .migrations => "migrations"
  | .schema => "schema"
  | .docs => "docs"

def title : Suite → String
  | .layout => "Directory layout"
  | .migrations => "Database migrations"
  | .schema => "Database schema"
  | .docs => "Documentation"

def all : List Suite := [.layout, .migrations, .schema, .docs]

def ofName? (name : String) : Option Suite := all.find? (·.name = name)

def rules (p : Project) (disk : Disk) : Suite → List Rule
  | .layout => Catalog.Layout.rules p
  | .migrations => Catalog.Migrations.rules p disk
  | .schema => Catalog.Schema.rules p
  | .docs => Catalog.Docs.rules p

def build (p : Project) (disk : Disk) (s : Suite) : RuleSet := ⟨s.name, s.title, s.rules p disk⟩

/-- what is logged while the rules are put together -/
def buildEvents (p : Project) (disk : Disk) : Suite → List Event
  | .migrations => Catalog.Migrations.events p disk
  | _ => []

/-- the suites that are named, or all; other names are passed over -/
def selection (only : List String) : List Suite :=
  all.filter fun s => only.isEmpty || s.name ∈ only

end Suite

namespace Project

def ruleSets (p : Project) (disk : Disk) (only : List String) : List RuleSet :=
  (Suite.selection only).map (Suite.build p disk)

def buildEvents (p : Project) (disk : Disk) (only : List String) : List Event :=
  (Suite.selection only).flatMap (Suite.buildEvents p disk)

/-- the report on the whole catalog -/
def audit (p : Project) (disk : Disk) : Report := runAll (p.ruleSets disk []) disk

end Project

end ProjectAudit
