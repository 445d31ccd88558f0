import ProjectAudit.Migration.Discovery

/-!
# Database migrations

The migrations every project starts with, the README beside them, and the rules for whatever else
is found in the migration directory.
-/

namespace ProjectAudit.Catalog.Migrations
open Migration

/-- a text the up script of a migration must hold, and the complaint where it does not -/
structure Clause where
  text : String
  message : String

structure KnownMigration where
  stem : String
  table : String
  clauses : List Clause

def known : List KnownMigration := [
  { stem := "001_create_users_table"
    table := "users"
    clauses := [
      ⟨"CREATE TABLE users", "CREATE TABLE users statement not found"⟩,
      ⟨"id SERIAL PRIMARY KEY", "id column is not SERIAL PRIMARY KEY"⟩,
      ⟨"username VARCHAR", "username column is not defined"⟩,
      ⟨"NOT NULL", "username has no NOT NULL constraint"⟩,
      ⟨"UNIQUE", "username has no UNIQUE constraint"⟩,
      ⟨"email VARCHAR", "email column is not defined"⟩,
      ⟨"created_at TIMESTAMP", "created_at column is not defined"⟩] },
  { stem := "002_create_posts_table"
    table := "posts"
    clauses := [
      ⟨"CREATE TABLE posts", "CREATE TABLE posts statement not found"⟩,
      ⟨"id SERIAL PRIMARY KEY", "id column is not SERIAL PRIMARY KEY"⟩,
      ⟨"user_id INTEGER", "user_id column is not defined"⟩,
      ⟨"FOREIGN KEY", "foreign key constraint is not defined"⟩,
      ⟨"REFERENCES users", "reference to users table is not defined"⟩,
      ⟨"title VARCHAR", "title column is not defined"⟩,
      ⟨"content TEXT", "content column is not defined"⟩,
      ⟨"created_at TIMESTAMP", "created_at column is not defined"⟩] },
  { stem := "003_create_comments_table"
    table := "comments"
    clauses := [
      ⟨"CREATE TABLE comments", "CREATE TABLE comments statement not found"⟩,
      ⟨"id SERIAL PRIMARY KEY", "id column is not SERIAL PRIMARY KEY"⟩,
      ⟨"post_id INTEGER", "post_id column is not defined"⟩,
      ⟨"REFERENCES posts", "reference to posts table is not defined"⟩,
      ⟨"user_id INTEGER", "user_id column is not defined"⟩,
      ⟨"REFERENCES users", "reference to users table is not defined"⟩,
      ⟨"content TEXT", "content column is not defined"⟩,
      ⟨"created_at TIMESTAMP", "created_at column is not defined"⟩] }]

def clauseRule (p : Project) (stem : String) (clause : Clause) : Rule :=
  p.pattern (stem ++ ".up.sql contains `" ++ clause.text ++ "`") (upScript stem) clause.text
    clause.message .normalized

def migrationRules (p : Project) (m : KnownMigration) : List Rule :=
  let up := upScript m.stem
  let down := downScript m.stem
  [p.file up, p.file down, p.notEmpty up, p.notEmpty down] ++
    m.clauses.map (clauseRule p m.stem) ++
    [p.pattern (m.stem ++ ".down.sql contains `DROP TABLE`") down "DROP TABLE"
        "DROP TABLE statement not found" .normalized,
      p.pattern (m.stem ++ ".down.sql drops " ++ m.table) down m.table
        (m.table ++ " table is not dropped") .normalized]

def readme : String := pathOf "README.md"

structure Topic where
  term : String
  name : String

def topics : List Topic :=
  [⟨"migration", "migrations"⟩, ⟨"実行", "how to run them"⟩, ⟨"database", "the database"⟩]

def topicRule (p : Project) (topic : Topic) : Rule :=
  p.pattern (readme ++ " mentions " ++ topic.name) readme topic.term
    (readme ++ " does not mention " ++ topic.name) .ignoreCase

/-- the rules that do not depend on what is found -/
def fixedRules (p : Project) : List Rule :=
  p.directory directory :: known.flatMap (migrationRules p) ++ p.file readme ::
    topics.map (topicRule p)

def knownStems : List String := known.map (·.stem)

/-- without the rules for discovered scripts where the directory cannot be listed -/
def rules (p : Project) (disk : Disk) : List Rule :=
  match scripts p disk with
  | .ok fileNames => fixedRules p ++ discoveredRules p knownStems fileNames
  | .error _ => fixedRules p

def events (p : Project) (disk : Disk) : List Event :=
  match scripts p disk with
  | .ok _ => []
  | .error cause => [.migrationsNotListed p.migrationsDirectory cause]

end ProjectAudit.Catalog.Migrations
