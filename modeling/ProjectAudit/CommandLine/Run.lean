import ProjectAudit.CommandLine.Request
import ProjectAudit.Report.Json
import ProjectAudit.Report.Text

/-!
# Runs of the command line

What a request comes to on a disk: the exit code, both output streams and the log.  The code is 0
if every rule passed, 1 if one failed and 2 if there is no project to look at.
-/

namespace ProjectAudit.CommandLine

structure Outcome where
  code : Nat
  stdout : String
  stderr : String
  /-- the lines of the log, which is written to the error stream -/
  log : List String
  deriving DecidableEq

def versionText : String := "conform 0.1.0\n"

def helpLines : List String := [
  "Verify that a project tree matches its declared layout, SQL and documentation rules",
  "",
  "Usage: conform [OPTIONS]",
  "",
  "Options:",
  "      --root-dir <ROOT_DIR>  Project root (defaults to the nearest ancestor containing .git)",
  "      --format <FORMAT>      [default: text] [possible values: text, json]",
  "      --suite <SUITES>       Run only the named suite (repeatable) " ++
    "[possible values: layout, migrations, schema, docs]",
  "      --list                 Print the rule catalog instead of running it",
  "  -v, --verbose              ",
  "  -h, --help                 Print help",
  "  -V, --version              Print version"]

def helpText : String := String.join (helpLines.map (· ++ "\n"))

/-- why there is no project to look at -/
inductive Failure where
  | rootNotDiscovered
  | unusableRoot (fault : Fault)

def Failure.message : Failure → String
  | .rootNotDiscovered =>
    "Could not find project root. Run from within a git repository or use --root-dir."
  | .unusableRoot fault => fault.message

/-- the root is given, or looked for from the current directory upwards -/
def Options.project (o : Options) (disk : Disk) (cwd : String) : Except Failure Project :=
  match o.root.map Project.ofRoot <|> Project.discover disk cwd with
  | none => .error .rootNotDiscovered
  | some p =>
    match p.validate disk with
    | .ok () => .ok p
    | .error fault => .error (.unusableRoot fault)

def Options.logLines (o : Options) (events : List Event) : List String :=
  (events.filter fun event => o.verbose || event.isWarning).map (·.line)

def exitCode (passed : Bool) : Nat := if passed then 0 else 1

/-- the catalog of rules -/
def Options.listed (o : Options) (disk : Disk) (p : Project) : Outcome :=
  let sets := p.ruleSets disk o.suites
  { code := 0
    stdout :=
      match o.format with
      | some .json => (catalogJson sets).pretty ++ "\n"
      | _ => catalogText sets
    stderr := ""
    log := o.logLines (p.buildEvents disk o.suites) }

/-- the verdict on every rule -/
def Options.judged (o : Options) (disk : Disk) (p : Project) (colour : Bool) : Outcome :=
  let sets := p.ruleSets disk o.suites
  let report := runAll sets disk
  let events := p.buildEvents disk o.suites ++ sets.flatMap (·.events disk)
  { code :=
      match o.format with
      | some .json => exitCode report.allPassed
      | _ => exitCode (report.failedCount = 0)
    stdout :=
      match o.format with
      | some .json => report.toJson.pretty ++ "\n"
      | _ => renderSpans colour (runSpans sets disk)
    stderr := renderSpans colour report.failureSpans
    log := o.logLines events }

def Options.run (o : Options) (disk : Disk) (cwd : String) (colour : Bool) : Outcome :=
  match o.project disk cwd with
  | .error failure => ⟨2, "", "Error: " ++ failure.message ++ "\n", []⟩
  | .ok p => if o.list then o.listed disk p else o.judged disk p colour

def Request.run (request : Request) (disk : Disk) (cwd : String) (colour : Bool) : Outcome :=
  match request with
  | .help => ⟨0, helpText, "", []⟩
  | .version => ⟨0, versionText, "", []⟩
  | .audit options => options.run disk cwd colour

end ProjectAudit.CommandLine
