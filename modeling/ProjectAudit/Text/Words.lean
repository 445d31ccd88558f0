import ProjectAudit.Text.Split
import ProjectAudit.Unicode.Blank

/-!
# Words and trimming

The words of a text are its longest stretches without a blank; trimming drops the blanks at both
ends.
-/

namespace ProjectAudit.Text

def words (cs : List Char) : List (List Char) :=
  (split isBlank cs).filter fun piece => !piece.isEmpty

def trimStart (cs : List Char) : List Char := cs.dropWhile isBlank

def trimEnd (cs : List Char) : List Char := (cs.reverse.dropWhile isBlank).reverse

def trim (cs : List Char) : List Char := trimEnd (trimStart cs)

/-- nothing but blanks -/
def isAllBlank (cs : List Char) : Bool := cs.all isBlank

end ProjectAudit.Text
