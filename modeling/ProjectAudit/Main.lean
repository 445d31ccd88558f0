import ProjectAudit.CommandLine.Run
import ProjectAudit.Disk.Snapshot

/-!
# The program

Reads the arguments, asks the operating system everything the request can depend on, and writes
what the request comes to on these answers.
-/

namespace ProjectAudit.Program
open CommandLine

/-! ## asking the operating system -/

def errorCode : IO.Error → Nat
  | .alreadyExists _ code _ | .invalidArgument _ code _ | .permissionDenied _ code _
  | .resourceExhausted _ code _ | .inappropriateType _ code _ | .noSuchThing _ code _ =>
    code.toNat
  | .otherError code _ | .resourceBusy code _ | .resourceVanished code _
  | .unsupportedOperation code _ | .hardwareFault code _ | .unsatisfiedConstraints code _
  | .illegalOperation code _ | .protocolError code _ | .timeExpired code _ => code.toNat
  | .interrupted _ code _ | .noFileOrDirectory _ code _ => code.toNat
  | .unexpectedEof | .userError _ => 0

/-- some system functions give the code with its sign turned, as a word of 32 bits -/
def fileError (e : IO.Error) : FileError :=
  match min (errorCode e) (0x100000000 - errorCode e) with
  | 2 => .notFound
  | 20 => .notADirectory
  | 21 => .isADirectory
  | 36 => .nameTooLong
  | 40 => .tooManyLinks
  | _ => .other (toString e)

def ask {α : Type} (question : IO α) : IO (Except FileError α) := do
  match ← question.toBaseIO with
  | .ok a => return .ok a
  | .error e => return .error (fileError e)

/-- the path as the system functions take it -/
def entry (path : String) : IO.FS.DirEntry := ⟨path, ""⟩

def kindOf : IO.FS.FileType → FileKind
  | .dir => .directory
  | .file => .regular
  | _ => .special

def askStat (path : String) : IO Snapshot := do
  let answer ← ask do return kindOf (← (entry path).root.metadata).type
  return { Snapshot.empty with stats := [(path, answer)] }

def textOf (content : ByteArray) : Except FileError String :=
  match String.fromUTF8? content with
  | some text => .ok text
  | none => .error .notUtf8

def askText (path : String) : IO Snapshot := do
  let content ← ask (IO.FS.readBinFile path)
  return { Snapshot.empty with texts := [(path, content.bind textOf)] }

def nameOf (name : String) : Option FileName :=
  if h : IsEntryName name then some (.text name h) else none

/-- the listing and the kind of every entry -/
def askListing (path : String) : IO Snapshot := do
  let entries ← ask (entry path).root.readDir
  let names := entries.map fun es => es.toList.map (·.fileName)
  let listing := names.map fun ns => Listing.ofNames (ns.filterMap nameOf)
  let found := names.toOption.getD []
  let kinds ← found.mapM fun name => askStat (Path.join path name)
  return kinds.foldl (· ++ ·) { Snapshot.empty with listings := [(path, listing)] }

def askAll (question : String → IO Snapshot) (paths : List String) : IO Snapshot := do
  return (← paths.mapM question).foldl (· ++ ·) Snapshot.empty

/-- everything a run with these options looks at -/
def survey (o : Options) (cwd : String) : IO Snapshot := do
  let above := (Path.ancestors cwd).map (Path.join · ".git")
  let roots := o.root.toList ++ Path.ancestors cwd
  let first ← askAll askStat (above ++ roots)
  match o.project first.disk cwd with
  | .error _ => return first
  | .ok p =>
    let listed := first ++ (← askListing p.migrationsDirectory)
    let rules := (p.ruleSets listed.disk o.suites).flatMap (·.rules)
    let paths := distinct (rules.map (·.target.absolute))
    return listed ++ (← askAll askStat paths) ++ (← askAll askText paths)

/-! ## writing the answer -/

def write (o : Outcome) : IO UInt32 := do
  (← IO.getStdout).putStr o.stdout
  let err ← IO.getStderr
  o.log.forM fun line => err.putStrLn line
  err.putStr o.stderr
  return UInt32.ofNat o.code

def usage : String := "error: invalid arguments\n\nFor more information, try '--help'.\n"

def isColourForced : IO Bool := do
  match ← IO.getEnv "FORCE_COLOR" with
  | some value => return value ≠ "" && value ≠ "0"
  | none => return false

def run (args : List String) : IO UInt32 := do
  let cwd := toString (← IO.currentDir)
  match parse? args with
  | none => write ⟨2, "", usage, []⟩
  | some (.audit o) =>
    let seen ← survey o cwd
    write (o.run seen.disk cwd (← isColourForced))
  | some request => write (request.run Snapshot.empty.disk cwd false)

end ProjectAudit.Program

def main (args : List String) : IO UInt32 := ProjectAudit.Program.run args
