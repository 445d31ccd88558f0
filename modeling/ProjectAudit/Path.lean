import ProjectAudit.Text.Split

/-!
# Paths as texts

`Path.join` puts a path below another one, `Path.components` lists what a path is made of, and
`Path.display` writes the components with one slash between two of them.
-/

namespace ProjectAudit.Path
open Text

def isAbsolute (path : String) : Bool := ['/'].isPrefixOf path.toList

/-- an absolute path stands for itself wherever it is put -/
def join (root path : String) : String :=
  if isAbsolute path then path
  else if root.toList.getLast?.all (· = '/') then root ++ path
  else root ++ "/" ++ path

/-- the pieces between slashes -/
def pieces (path : String) : List String := (split (· = '/') path.toList).map .ofList

/-- neither empty nor a step that stays where it is -/
def isProper (piece : String) : Bool := piece ≠ "" && piece ≠ "."

/-- a leading slash and a leading dot count as components; apart from these, empty pieces and dots
are passed over -/
def components (path : String) : List String :=
  if isAbsolute path then "/" :: (pieces path).filter isProper
  else if (pieces path).head? = some "." then "." :: (pieces path).filter isProper
  else (pieces path).filter isProper

def display (path : String) : String := "/".intercalate (components path)

/-- the directory of an absolute path without dots and all directories above it, nearest first -/
def ancestors (path : String) : List String :=
  above ((pieces path).filter isProper).reverse
where
  /-- the names from the innermost to the outermost one -/
  above : List String → List String
    | [] => ["/"]
    | name :: outer => ("/" ++ "/".intercalate (name :: outer).reverse) :: above outer

end ProjectAudit.Path
