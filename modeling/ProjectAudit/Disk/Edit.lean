import ProjectAudit.Disk.Tree

/-!
# Changing a file tree

Files, directories and links are put at the end of a route from `/`; the directories on the way
are made where they are missing.  An entry is removed or moved together with everything below it.
-/

namespace ProjectAudit

/-- gives the name another meaning, or none -/
def Entries.set (entries : Entries) (name : FileName) : Option Node → Entries
  | none => entries.filter (·.1 ≠ name)
  | some node => (name, node) :: entries.filter (·.1 ≠ name)

namespace Node

/-- below the node, by the names from the outermost one -/
def find? : Node → List FileName → Option Node
  | node, [] => some node
  | .directory entries, name :: names =>
    match entries.lookup name with
    | some node => node.find? names
    | none => none
  | _, _ :: _ => none

/-- `new` comes to stand at the end of the names, if there is a directory to hold it -/
def replace (new : Option Node) : Option Node → List FileName → Option Node
  | _, [] => new
  | some (.directory entries), name :: names =>
    some (.directory (Entries.set entries name (replace new (entries.lookup name) names)))
  | old, _ :: _ => old

end Node

/-! ## routes to an entry -/

/-- a route to an entry: through the directory it is in, to its name there -/
structure EntryRoute where
  directory : List Step
  name : FileName
  /-- whether the entry is asked for as a directory, by a slash after its name -/
  isDirectory : Bool

/-- none for a route that does not end with a name -/
def EntryRoute.ofSteps? (steps : List Step) : Option EntryRoute :=
  match steps.reverse with
  | .into name :: before => some ⟨before.reverse, name, false⟩
  | .stay :: .into name :: before => some ⟨before.reverse, name, true⟩
  | _ => none

namespace Tree

/-! ## at a location -/

def node? (t : Tree) (location : Location) : Option Node :=
  (Node.directory t.entries).find? location.reverse

/-- the directory `/` stays a directory -/
def replace (t : Tree) (location : Location) (new : Option Node) : Tree :=
  match Node.replace new (some (.directory t.entries)) location.reverse with
  | some (.directory entries) => ⟨entries⟩
  | _ => t

/-- replaces what is at the location -/
def insert (t : Tree) (location : Location) (node : Node) : Tree := t.replace location (some node)

/-- without the location and everything below it -/
def erase (t : Tree) (location : Location) : Tree := t.replace location none

/-- everything at and below `old` goes to `new` -/
def move (t : Tree) (old new : Location) : Tree :=
  match t.node? old with
  | some node => (t.erase old).insert new node
  | none => t

/-! ## along a route -/

/-- from a directory whose location is known -/
def resolveFrom (t : Tree) (here : Location) (target : String) : Except FileError Found := do
  let r ← route target
  t.walk maxLinks t.top (if r.isAbsolute then r.steps else here.reverse.map .into ++ r.steps)

/-- the directory at the end of the steps, made where it is missing -/
def makeDirectories (t : Tree) : Location → List Step → Except FileError (Tree × Location)
  | here, [] => .ok (t, here)
  | here, .stay :: rest => t.makeDirectories here rest
  | here, .up :: rest => t.makeDirectories here.tail rest
  | here, .into name :: rest =>
    match t.node? (name :: here) with
    | none => (t.insert (name :: here) (.directory [])).makeDirectories (name :: here) rest
    | some (.directory _) => t.makeDirectories (name :: here) rest
    | some (.file _) => .error .notADirectory
    | some (.link target) =>
      match t.resolveFrom here target with
      | .ok (.directory place) => t.makeDirectories place.location rest
      | .ok (.file _) => .error .notADirectory
      | .error e => .error e

/-- the directory at the end of the steps -/
def directoryAt (t : Tree) (steps : List Step) : Except FileError Place :=
  t.walk maxLinks t.top steps >>= Found.place

/-- where a file of this name is written: links at its place are followed -/
def destination (t : Tree) : Nat → Location → FileName → Except FileError Location
  | links, here, name =>
    match t.node? (name :: here) with
    | some (.link target) =>
      match links, route target with
      | 0, _ => .error .tooManyLinks
      | _, .error e => .error e
      | links + 1, .ok r =>
        match EntryRoute.ofSteps? r.steps with
        | some ⟨steps, last, false⟩ =>
          match t.directoryAt (if r.isAbsolute then steps else here.reverse.map .into ++ steps) with
          | .ok directory => t.destination links directory.location last
          | .error e => .error e
        | _ => .error .isADirectory
    | some (.directory _) => .error .isADirectory
    | _ => .ok (name :: here)

/-- the directory and the name of a file or link that is to be made -/
def parentOf (t : Tree) (steps : List Step) : Except FileError (Tree × Location × FileName) :=
  match EntryRoute.ofSteps? steps with
  | some ⟨directory, name, false⟩ => do
    let (t, here) ← t.makeDirectories [] directory
    return (t, here, name)
  | _ => .error .isADirectory

def writeFile (t : Tree) (steps : List Step) (content : ByteArray) : Except FileError Tree := do
  let (t, here, name) ← t.parentOf steps
  return t.insert (← t.destination maxLinks here name) (.file content)

def makeDirectory (t : Tree) (steps : List Step) : Except FileError Tree := do
  let (t, _) ← t.makeDirectories [] steps
  return t

/-- a link does not look at its target when it is made -/
def makeLink (t : Tree) (steps : List Step) (target : String) : Except FileError Tree := do
  let (t, here, name) ← t.parentOf steps
  return t.insert (name :: here) (.link target)

/-! ## removing and renaming -/

/-- a link is an entry of its own: it is not followed, and it is no directory -/
def entryAt (t : Tree) (entry : EntryRoute) : Except FileError Location := do
  let here ← t.directoryAt entry.directory
  let location := entry.name :: here.location
  match here.entries.lookup entry.name with
  | none => .error .notFound
  | some (.directory _) => return location
  | some _ => if entry.isDirectory then .error .notADirectory else return location

/-- the empty directory at the end of a route that ends with its name -/
def removeEmpty (t : Tree) (steps : List Step) : Except FileError Tree :=
  match EntryRoute.ofSteps? steps with
  | some entry => do return t.erase (← t.entryAt { entry with isDirectory := true })
  | none => do
    let _ ← t.directoryAt steps.dropLast
    .error (.other "Invalid argument (os error 22)")

/-- empties the directory first; if the route led through what was below it, the route now leads
nowhere and the empty directory stays -/
def removeDirectory (t : Tree) (steps : List Step) : Except FileError Tree := do
  let here ← t.directoryAt steps
  let t := t.insert here.location (.directory [])
  match t.removeEmpty steps with
  | .error .notFound => return t
  | r => r

/-- a name at the end of a route is not followed if it names a link -/
def remove (t : Tree) (steps : List Step) : Except FileError Tree :=
  match EntryRoute.ofSteps? steps with
  | some ⟨directory, name, false⟩ => do
    let here ← t.directoryAt directory
    match here.entries.lookup name with
    | none => .error .notFound
    | some (.directory _) => t.removeDirectory steps
    | some _ => return t.erase (name :: here.location)
  | _ => t.removeDirectory steps

/-- only a directory can go to a route with a slash at its end -/
def rename (t : Tree) (old new : List Step) : Except FileError Tree :=
  match EntryRoute.ofSteps? old, EntryRoute.ofSteps? new with
  | some old, some new => do
    let (t, parent) ← t.makeDirectories [] new.directory
    let source ← t.entryAt { old with isDirectory := old.isDirectory || new.isDirectory }
    return t.move source (new.name :: parent)
  | _, _ => .error .isADirectory

end Tree

end ProjectAudit
