import ProjectAudit.Project
import ProjectAudit.RuleSet

/-!
# Rules of the catalog

The kinds of rules the catalog is made of, each with the name it is given.  All paths are below the
root of the project.
-/

namespace ProjectAudit.Project

def target (p : Project) (path : String) : Target := ⟨p.root, path⟩

def presence (p : Project) (name path : String) (expectation : Expectation) : Rule :=
  ⟨name, p.target path, .presence expectation⟩

def directory (p : Project) (path : String) : Rule :=
  p.presence (path ++ " is a directory") path .directory

def file (p : Project) (path : String) : Rule := p.presence (path ++ " is a file") path .file

def content (p : Project) (name path : String) (check : ContentCheck) : Rule :=
  ⟨name, p.target path, .content check⟩

def notEmpty (p : Project) (path : String) : Rule :=
  p.content (path ++ " is not empty") path .notEmpty

def pattern (p : Project) (name path text message : String) (mode : MatchMode) : Rule :=
  p.content name path (.pattern ⟨text, message, mode⟩)

end ProjectAudit.Project
