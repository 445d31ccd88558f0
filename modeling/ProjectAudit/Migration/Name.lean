import ProjectAudit.Unicode.DecimalDigit

/-!
# Names of migration scripts

A script is named by three decimal digits, an underscore, a description in lower-case letters,
digits and underscores of ASCII, the direction and the extension: `004_add_tags.up.sql`.
`MigrationName.ofFileName?` reads such a name and `MigrationName.fileName` writes it.
-/

namespace ProjectAudit

inductive Direction where
  | up
  | down
  deriving DecidableEq

def Direction.text : Direction → String
  | .up => "up"
  | .down => "down"

structure MigrationName where
  serial : String
  description : String
  direction : Direction
  deriving DecidableEq

namespace MigrationName

/-- what the two scripts of a migration share -/
def stem (m : MigrationName) : String := m.serial ++ "_" ++ m.description

def fileName (m : MigrationName) : String := m.stem ++ "." ++ m.direction.text ++ ".sql"

def isDescriptionChar (c : Char) : Bool := c.isLower || c.isDigit || c = '_'

/-- the direction a name ends with after its description -/
def readDirection? (ending : List Char) : Option Direction :=
  if ending = ".up.sql".toList then some .up
  else if ending = ".down.sql".toList then some .down
  else none

/-- the description runs up to the first character that cannot stand in it -/
def ofFileName? (name : String) : Option MigrationName :=
  match name.toList with
  | a :: b :: c :: '_' :: rest =>
    let description := rest.takeWhile isDescriptionChar
    if [a, b, c].all isDecimalDigit && !description.isEmpty then
      (readDirection? (rest.dropWhile isDescriptionChar)).map fun direction =>
        ⟨.ofList [a, b, c], .ofList description, direction⟩
    else none
  | _ => none

end MigrationName

end ProjectAudit
