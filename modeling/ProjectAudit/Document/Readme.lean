import ProjectAudit.Document.Condition

/-!
# What the README of a project has to say

Each predicate asks for one topic.  Some topics may be given in English or in Japanese.
-/

namespace ProjectAudit.Readme

/-- a title has to stand in the first lines -/
def titleWindow : Nat := 11

/-- a description is longer than this, in bytes -/
def descriptionLength : Nat := 20

def featureMarks : Nat := 3

/-- the READMEs of the parts of a project -/
def partReadmes : List String := ["backend/README.md", "frontend/README.md", "database/README.md"]

def predicates : List Predicate := [
  { name := "project title"
    description := "a top-level `# ` heading within the first lines"
    condition := .headingWithin titleWindow },
  { name := "project description"
    description := "a descriptive paragraph after the title"
    condition := .proseAfterTitle descriptionLength },
  { name := "setup instructions"
    description := "a quick start, installation or setup section"
    condition := .mentionsAny ["セットアップ", "setup", "インストール", "installation",
      "クイックスタート", "quick start", "getting started"] },
  { name := "prerequisites"
    description := "required environment listed, including Node.js and PostgreSQL"
    condition := .both (.mentionsAny ["前提条件", "prerequisite", "requirements"])
      (.both (.mentionsAny ["node.js", "nodejs"]) (.mentionsAny ["postgresql"])) },
  { name := "database setup"
    description := "concrete PostgreSQL setup steps (create database)"
    condition := .both (.mentionsAny ["database"])
      (.mentionsAny ["create database", "データベース作成"]) },
  { name := "backend setup"
    description := "backend start steps with npm install and npm start or npm run dev"
    condition := .both (.hasAll ["backend", "npm install"])
      (.hasAny ["npm start", "npm run dev"]) },
  { name := "frontend setup"
    description := "frontend start steps with npm install and npm run dev or npm start"
    condition := .both (.hasAll ["frontend", "npm install"])
      (.hasAny ["npm run dev", "npm start"]) },
  { name := "api reference"
    description := "REST API endpoints covering GET, POST, PUT and DELETE"
    condition := .both (.hasAll ["API"]) (.shoutsAll ["GET", "POST", "PUT", "DELETE"]) },
  { name := "data types"
    description := "the Todo data type with id, title and completed"
    condition := .both (.mentionsAny ["interface todo", "データ型"])
      (.hasAll ["id", "title", "completed"]) },
  { name := "feature list"
    description := "a features section with at least three ✅ items"
    condition := .both (.mentionsAny ["機能", "features"]) (.occurs "✅" featureMarks) },
  { name := "running tests"
    description := "test commands such as npm test or go test"
    condition := .both (.mentionsAny ["テスト", "test"])
      (.hasAny ["npm test", "go test", "npm run test"]) },
  { name := "tech stack"
    description := "a tech stack section naming React, Express and PostgreSQL"
    condition := .both (.mentionsAny ["技術スタック", "tech stack", "technology"])
      (.mentionsAll ["react", "express", "postgresql"]) },
  { name := "troubleshooting"
    description := "common problems and their fixes"
    condition := .mentionsAny ["トラブルシューティング", "troubleshooting", "common issues"] },
  { name := "ports"
    description := "backend port 3001 and frontend port 5173"
    condition := .hasAll ["3001", "5173"] },
  { name := "related documents"
    description := "links to backend, frontend and database READMEs"
    condition := .hasAll partReadmes },
  { name := "project structure"
    description := "the directory layout covering backend, frontend and database"
    condition := .both (.mentionsAny ["プロジェクト構成", "project structure"])
      (.hasAll ["backend", "frontend", "database"]) },
  { name := "development workflow"
    description := "a TDD red/green/refactor workflow"
    condition := .both (.mentionsAny ["tdd", "test-driven development"])
      (.mentionsAny ["red", "green", "refactor"]) },
  { name := "code blocks"
    description := "fenced code blocks tagged bash and typescript"
    condition := .both (.hasAll ["```bash"]) (.hasAny ["```typescript", "```ts"]) },
  { name := "docker compose"
    description := "starting everything with docker compose up"
    condition := .both (.mentionsAny ["docker"])
      (.hasAny ["docker-compose up", "docker compose up"]) },
  { name := "environment variables"
    description := "an example .env with DB_HOST or DATABASE_URL"
    condition := .both (.hasAll [".env"]) (.hasAny ["DB_HOST", "DATABASE_URL"]) },
  { name := "license"
    description := "a license section"
    condition := .mentionsAny ["ライセンス", "license"] },
  { name := "contributing"
    description := "contribution guidelines mentioning pull requests"
    condition := .both (.mentionsAny ["貢献", "contribution", "contributing"])
      (.mentionsAny ["プルリクエスト", "pull request"]) },
  { name := "versions"
    description := "versions of the main dependencies"
    condition := .hasAny ["React 19", "Node.js (v18", "PostgreSQL 16"] },
  { name := "architecture diagram"
    description := "an architecture overview drawn as a code block or tree"
    condition := .both (.mentionsAny ["architecture", "アーキテクチャ"])
      (.hasAny ["```", "├──", "└──"]) },
  { name := "ci/cd"
    description := "the CI/CD pipeline"
    condition := .mentionsAny ["ci/cd", "github actions", "continuous integration"] },
  { name := "deployment"
    description := "how to deploy to production"
    condition := .mentionsAny ["deploy", "デプロイ"] },
  { name := "security"
    description := "security notes on .env files or credentials"
    condition := .both (.mentionsAny ["security", "セキュリティ"])
      (.either (.hasAll [".env"]) (.mentionsAny ["credential", "認証情報"])) },
  { name := "performance"
    description := "performance or optimization notes"
    condition := .mentionsAny ["performance", "optimization", "パフォーマンス", "最適化"] }]

end ProjectAudit.Readme
