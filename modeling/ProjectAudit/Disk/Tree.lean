import ProjectAudit.Disk.Basic

/-!
# File trees

A tree says what is in the directory `/` and in the directories below it.  `Tree.walk` follows a
route through it step by step, links included, with a bound on their number; `Tree.disk` answers
every question a disk is asked by such a walk, so that the answers agree on what a path leads to.
-/

namespace ProjectAudit

inductive Node where
  | file (content : ByteArray)
  | link (target : String)
  /-- the first entry with a name counts -/
  | directory (entries : List (FileName × Node))

/-- what the names in a directory stand for -/
abbrev Entries := List (FileName × Node)

/-- by what is in the directory `/` -/
structure Tree where
  entries : Entries

/-- the names that lead to an entry, innermost first; `[]` is the directory `/` -/
abbrev Location := List FileName

/-- as an absolute path, unless a name on it is no text -/
def Location.path? (location : Location) : Option String := do
  let names ← location.reverse.mapM FileName.text?
  return "/" ++ "/".intercalate names

/-! ## places -/

/-- a directory together with the way to it, so that a walk can turn back -/
structure Place where
  entries : Entries
  /-- the directories it is in, innermost first, each with the name that was taken there -/
  above : List (FileName × Entries)

namespace Place

def into (here : Place) (name : FileName) (entries : Entries) : Place :=
  ⟨entries, (name, here.entries) :: here.above⟩

/-- the directory `/` is in itself -/
def up (here : Place) : Place :=
  match here.above with
  | [] => here
  | (_, entries) :: above => ⟨entries, above⟩

def location (here : Place) : Location := here.above.map (·.1)

@[simp] theorem up_into (here : Place) (name : FileName) (entries : Entries) :
    (here.into name entries).up = here := rfl

@[simp] theorem location_into (here : Place) (name : FileName) (entries : Entries) :
    (here.into name entries).location = name :: here.location := rfl

end Place

/-- what a path leads to once all links are followed -/
inductive Found where
  | file (content : ByteArray)
  | directory (place : Place)

namespace Found

def kind : Found → FileKind
  | .file _ => .regular
  | .directory _ => .directory

def text : Found → Except FileError String
  | .file content =>
    match String.fromUTF8? content with
    | some text => .ok text
    | none => .error .notUtf8
  | .directory _ => .error .isADirectory

def place : Found → Except FileError Place
  | .file _ => .error .notADirectory
  | .directory place => .ok place

def listing (found : Found) : Except FileError Listing := do
  return .ofNames ((← found.place).entries.map (·.1))

end Found

namespace Tree

def empty : Tree := ⟨[]⟩

def top (t : Tree) : Place := ⟨t.entries, []⟩

/-! ## walking -/

/-- the longest name of an entry, in bytes -/
def maxNameSize : Nat := 255

/-- the longest path, in bytes -/
def maxPathSize : Nat := 4095

/-- how many links may be followed on one path -/
def maxLinks : Nat := 40

/-- where a walk without following links comes to its end -/
inductive Halt where
  | arrived (found : Found)
  | atLink (directory : Place) (target : String) (rest : List Step)

def advance (here : Place) : List Step → Except FileError Halt
  | [] => .ok (.arrived (.directory here))
  | .stay :: rest => advance here rest
  | .up :: rest => advance here.up rest
  | .into name :: rest =>
    if maxNameSize < name.size then .error .nameTooLong
    else
      match here.entries.lookup name with
      | none => .error .notFound
      | some (.link target) => .ok (.atLink here target rest)
      | some (.directory entries) => advance (here.into name entries) rest
      | some (.file content) =>
        if rest = [] then .ok (.arrived (.file content)) else .error .notADirectory

/-- the route of a path that can be asked for at all -/
def route (path : String) : Except FileError Route :=
  if '\x00' ∈ path.toList then .error .nulInPath
  else if maxPathSize < path.utf8ByteSize then .error .nameTooLong
  else if path = "" then .error .notFound
  else .ok (.ofText path.toList)

/-- follows at most `links` links -/
def walk (t : Tree) (links : Nat) (here : Place) (steps : List Step) : Except FileError Found :=
  match advance here steps with
  | .error e => .error e
  | .ok (.arrived found) => .ok found
  | .ok (.atLink directory target rest) =>
    match links with
    | 0 => .error .tooManyLinks
    | links + 1 =>
      match route target with
      | .error e => .error e
      | .ok r => t.walk links (if r.isAbsolute then t.top else directory) (r.steps ++ rest)

/-- what the path leads to from the directory `cwd` -/
def resolve (t : Tree) (cwd : Place) (path : String) : Except FileError Found :=
  match route path with
  | .error e => .error e
  | .ok r => t.walk maxLinks (if r.isAbsolute then t.top else cwd) r.steps

/-! ## the disk of a tree -/

/-- as it is seen from the directory `cwd` of the tree -/
def disk (t : Tree) (cwd : Place) : Disk where
  stat path := (t.resolve cwd path).map Found.kind
  read path := t.resolve cwd path >>= Found.text
  list path := t.resolve cwd path >>= Found.listing

end Tree

end ProjectAudit
