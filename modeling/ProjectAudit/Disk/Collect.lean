import ProjectAudit.Disk.Basic
import ProjectAudit.Path

/-!
# The files of a directory by their extension

The names are put into the order of their bytes, so the order in which the operating system lists
them does not matter.
-/

namespace ProjectAudit

/-- the order of the bytes in UTF-8 -/
def byteLE (a b : String) : Bool := a.toUTF8.data.toList ≤ b.toUTF8.data.toList

namespace Disk

/-- the name of a regular file, links followed, with the extension -/
def fileWith? (disk : Disk) (directory extension : String) (name : FileName) : Option String :=
  name.text?.filter fun text =>
    extension.toList.isSuffixOf text.toList && disk.isRegular (Path.join directory text)

/-- a directory that is not there holds no files -/
def collect (disk : Disk) (directory extension : String) : Except FileError (List String) :=
  match disk.list directory with
  | .ok listing => .ok ((listing.names.filterMap (disk.fileWith? directory extension)).mergeSort
      byteLE)
  | .error e => if e.isAbsence then .ok [] else .error e

end Disk

end ProjectAudit
