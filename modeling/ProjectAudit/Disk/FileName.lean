import ProjectAudit.Text.Split

/-!
# File names and the steps of a path

A directory names its entries by bytes.  Nearly all names are texts; one whose bytes are not valid
UTF-8 keeps its bytes.  A path is read as a route: where it starts and the steps it takes.
-/

namespace ProjectAudit
open Text

/-- can name an entry of a directory -/
def IsEntryName (s : String) : Prop :=
  s ≠ "" ∧ s ≠ "." ∧ s ≠ ".." ∧ '/' ∉ s.toList ∧ '\x00' ∉ s.toList

instance (s : String) : Decidable (IsEntryName s) := by unfold IsEntryName; infer_instance

/-- can name an entry of a directory without being a text -/
def IsRawName (bytes : List UInt8) : Prop :=
  ¬ (ByteArray.mk bytes.toArray).IsValidUTF8 ∧ 0x2F ∉ bytes ∧ 0 ∉ bytes

instance (bytes : List UInt8) : Decidable (IsRawName bytes) := by
  unfold IsRawName; infer_instance

inductive FileName where
  | text (name : String) (isName : IsEntryName name)
  | undecoded (bytes : List UInt8) (isName : IsRawName bytes)
  deriving DecidableEq

namespace FileName

/-- none for bytes that cannot name an entry -/
def ofBytes? (bytes : List UInt8) : Option FileName :=
  if h : (ByteArray.mk bytes.toArray).IsValidUTF8 then
    if h' : IsEntryName (String.fromUTF8 _ h) then some (.text _ h') else none
  else if h : IsRawName bytes then some (.undecoded bytes h)
  else none

def text? : FileName → Option String
  | .text name _ => some name
  | .undecoded _ _ => none

/-- in bytes -/
def size : FileName → Nat
  | .text name _ => name.utf8ByteSize
  | .undecoded bytes _ => bytes.length

end FileName

/-! ## routes -/

inductive Step where
  /-- to the directory itself -/
  | stay
  /-- to the directory above -/
  | up
  | into (name : FileName)
  deriving DecidableEq

namespace Step

/-- what a piece between two slashes asks for; an empty piece asks for nothing -/
def ofPiece? (piece : List Char) : Option Step :=
  if piece = ['.'] then some .stay
  else if piece = ['.', '.'] then some .up
  else if h : IsEntryName (.ofList piece) then some (.into (.text _ h))
  else none

def ofBytes? (piece : List UInt8) : Option Step :=
  if piece = [0x2E] then some .stay
  else if piece = [0x2E, 0x2E] then some .up
  else (FileName.ofBytes? piece).map .into

end Step

structure Route where
  isAbsolute : Bool
  steps : List Step

/-- a path that ends in a slash asks for a directory -/
def Route.ofText (path : List Char) : Route where
  isAbsolute := ['/'].isPrefixOf path
  steps := (split (· = '/') path).filterMap Step.ofPiece? ++
    if path.getLast? = some '/' then [.stay] else []

/-- the route of a path that may be no text -/
def Route.ofBytes (path : List UInt8) : Route where
  isAbsolute := [0x2F].isPrefixOf path
  steps := (split (· = 0x2F) path).filterMap Step.ofBytes? ++
    if path.getLast? = some 0x2F then [.stay] else []

end ProjectAudit
