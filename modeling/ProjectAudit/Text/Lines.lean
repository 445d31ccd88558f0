import ProjectAudit.Text.Split
import ProjectAudit.Text.Words

/-!
# Lines

A line ends at a line feed; a carriage return directly before that line feed belongs to the line
end.  What follows the last line feed is a line of its own unless it is empty, and it keeps a
carriage return at its end.
-/

namespace ProjectAudit.Text

/-- without a carriage return at the end -/
def dropReturn (cs : List Char) : List Char :=
  if cs.getLast? = some '\r' then cs.dropLast else cs

/-- the pieces between line feeds as lines: the last piece was not ended by one -/
def endLines : List (List Char) → List (List Char)
  | [] => []
  | [piece] => if piece.isEmpty then [] else [piece]
  | piece :: next :: later => dropReturn piece :: endLines (next :: later)

def lines (cs : List Char) : List (List Char) := endLines (split (· = '\n') cs)

/-- a trimmed line that starts a heading of the first level -/
def isTitle (line : List Char) : Bool := ['#', ' '].isPrefixOf line

def isHeading (line : List Char) : Bool := ['#'].isPrefixOf line

/-- number of bytes in UTF-8 -/
def byteLength (cs : List Char) : Nat := cs.foldr (fun c n => c.utf8Size + n) 0

/-- one of the first `window` lines is a title -/
def headingWithin (window : Nat) (cs : List Char) : Bool :=
  ((lines cs).take window).any fun line => isTitle (trim line)

/-- below a title there is a line that is no heading and has more than `length` bytes -/
def hasProse (length : Nat) : Bool → List (List Char) → Bool
  | _, [] => false
  | titled, line :: later =>
    let line := trim line
    if isTitle line then hasProse length true later
    else (titled && length < byteLength line && !isHeading line) || hasProse length titled later

def proseAfterTitle (length : Nat) (cs : List Char) : Bool := hasProse length false (lines cs)

end ProjectAudit.Text
