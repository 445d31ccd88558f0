import ProjectAudit.Catalog.Basic

/-!
# Database schema

What the schema script defines and what the README beside it tells about it.
-/

namespace ProjectAudit.Catalog.Schema

def script : String := "database/schema.sql"

def readme : String := "database/README.md"

def definitions : List String :=
  ["CREATE TABLE todos", "id SERIAL PRIMARY KEY", "title VARCHAR(200) NOT NULL",
    "completed BOOLEAN DEFAULT false", "created_at TIMESTAMP DEFAULT NOW()"]

def columns : List String := ["ID", "TITLE", "COMPLETED", "CREATED_AT"]

structure Fact where
  text : String
  topic : String

def facts : List Fact :=
  [⟨"todo_db", "the database name todo_db"⟩, ⟨"PostgreSQL", "PostgreSQL"⟩,
    ⟨"todos", "the todos table"⟩]

def definitionRule (p : Project) (text : String) : Rule :=
  p.pattern ("schema.sql defines `" ++ text ++ "`") script text
    ("schema.sql does not define `" ++ text ++ "`") .normalized

def columnRule (p : Project) (column : String) : Rule :=
  p.pattern ("schema.sql has column " ++ column) script column
    ("required column " ++ column ++ " not found in schema.sql") .ignoreCase

def factRule (p : Project) (fact : Fact) : Rule :=
  p.pattern (readme ++ " mentions " ++ fact.topic) readme fact.text
    (readme ++ " does not mention " ++ fact.topic) .literal

def rules (p : Project) : List Rule :=
  [p.directory "database", p.file script, p.file readme, p.notEmpty script] ++
    definitions.map (definitionRule p) ++ columns.map (columnRule p) ++ facts.map (factRule p)

end ProjectAudit.Catalog.Schema
