import ProjectAudit.Catalog.Basic

/-!
# Directory layout

The directories and files every project has.
-/

namespace ProjectAudit.Catalog.Layout

def directories : List String :=
  ["backend", "frontend", "database", "shared", "docker", "frontend/src"]

def files : List String :=
  ["README.md", "backend/README.md", "backend/package.json", "backend/server.js",
    "backend/.gitignore", "frontend/package.json", "frontend/index.html",
    "frontend/vite.config.js", "frontend/.gitignore", "shared/README.md",
    "docker/docker-compose.yml", "docker/Dockerfile", "docker/README.md"]

def rules (p : Project) : List Rule :=
  directories.map p.directory ++ files.map p.file ++ [p.notEmpty "README.md"]

end ProjectAudit.Catalog.Layout
