import ProjectAudit.Fault
import ProjectAudit.Text.Casing

/-!
# Patterns

A text that has to stand in a file, the way in which it is compared, and the message that is given
where it is missing.
-/

namespace ProjectAudit

inductive MatchMode where
  /-- neither case nor the layout of blanks matters -/
  | normalized
  | ignoreCase
  | literal
  deriving DecidableEq

structure Pattern where
  text : String
  message : String
  mode : MatchMode
  deriving DecidableEq

namespace Pattern

def isBlank (p : Pattern) : Bool := Text.isAllBlank p.text.toList

/-- whether the text holds the pattern, which may be blank -/
def occursIn (p : Pattern) (cs : List Char) : Bool :=
  match p.mode with
  | .normalized => Text.occursNormalized p.text.toList cs
  | .ignoreCase => Text.occursIgnoringCase p.text.toList cs
  | .literal => Text.occursIn p.text.toList cs

/-- a blank pattern is a fault, since it would match anything -/
def validate (p : Pattern) : Except Fault Unit :=
  if p.isBlank then .error (.blankPattern p.message) else .ok ()

def test (p : Pattern) (text : String) : Except Fault Bool := do
  p.validate
  return p.occursIn text.toList

end Pattern

end ProjectAudit
