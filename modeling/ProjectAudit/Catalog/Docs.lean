import ProjectAudit.Catalog.Basic
import ProjectAudit.Document.Readme

/-!
# Documentation

What the README of a project has to say, the READMEs of its parts, and the links between them.
-/

namespace ProjectAudit.Catalog.Docs
open Readme

def readme : String := "README.md"

def predicateRule (p : Project) (predicate : Predicate) : Rule :=
  p.content (readme ++ ": " ++ predicate.name) readme (.predicate predicate)

/-- the link to the README of a part is there, and it leads to a file -/
def linkRules (p : Project) (partReadme : String) : List Rule :=
  let link := "./" ++ partReadme
  [p.pattern (readme ++ " links to " ++ link) readme link
      (readme ++ " does not link to " ++ link) .literal,
    p.presence ("link target " ++ link ++ " exists") partReadme .file]

def rules (p : Project) : List Rule :=
  predicates.map (predicateRule p) ++ partReadmes.map p.file ++ partReadmes.flatMap (linkRules p)

end ProjectAudit.Catalog.Docs
