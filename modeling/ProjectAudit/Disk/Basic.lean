import ProjectAudit.Disk.FileName
import ProjectAudit.Distinct

/-!
# What the operating system answers

A `Disk` is a state of the file system as far as this library can see it: what is at a path, the
text of a file, the entries of a directory.  `Tree.disk` gives the disk of a file tree.
-/

namespace ProjectAudit

/-- why a path could not be looked at, listed or read -/
inductive FileError where
  | notFound
  | notADirectory
  | isADirectory
  | nameTooLong
  | tooManyLinks
  | nulInPath
  | notUtf8
  | other (description : String)
  deriving DecidableEq

def FileError.message : FileError → String
  | .notFound => "No such file or directory (os error 2)"
  | .notADirectory => "Not a directory (os error 20)"
  | .isADirectory => "Is a directory (os error 21)"
  | .nameTooLong => "File name too long (os error 36)"
  | .tooManyLinks => "Too many levels of symbolic links (os error 40)"
  | .nulInPath => "file name contained an unexpected NUL byte"
  | .notUtf8 => "stream did not contain valid UTF-8"
  | .other description => description

/-- the path leads nowhere: something on it is missing or stands where a directory should -/
def FileError.isAbsence : FileError → Bool
  | .notFound | .notADirectory => true
  | _ => false

/-- what is at a path once all links are followed -/
inductive FileKind where
  | regular
  | directory
  /-- a device, a pipe or a socket -/
  | special
  deriving DecidableEq

/-- the entries of a directory in the order in which they happen to be listed -/
structure Listing where
  names : List FileName
  nodup : names.Nodup

/-- each name once -/
def Listing.ofNames (names : List FileName) : Listing := ⟨distinct names, nodup_distinct names⟩

structure Disk where
  /-- follows links -/
  stat : String → Except FileError FileKind
  /-- the text of a file -/
  read : String → Except FileError String
  list : String → Except FileError Listing

namespace Disk

/-- whatever keeps the path from being looked at counts as absence -/
def isPresent (disk : Disk) (path : String) : Bool := (disk.stat path).toBool

def isRegular (disk : Disk) (path : String) : Bool :=
  match disk.stat path with
  | .ok .regular => true
  | _ => false

def isDirectory (disk : Disk) (path : String) : Bool :=
  match disk.stat path with
  | .ok .directory => true
  | _ => false

end Disk

end ProjectAudit
