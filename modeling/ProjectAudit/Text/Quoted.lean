import ProjectAudit.Unicode.DefaultIgnorable
import ProjectAudit.Unicode.GraphemeExtend
import ProjectAudit.Unicode.Unprintable

/-!
# Quoted form of a text

The text between double quotes, on one line: a quote, a backslash and every character that cannot
be seen on its own are escaped.
-/

namespace ProjectAudit.Text

/-- the code point in hexadecimal, as few digits as it needs -/
def hexEscape (c : Char) : List Char :=
  ['\\', 'u', '\x7b'] ++ Nat.toDigits 16 c.toNat ++ ['\x7d']

/-- the two marks extend a grapheme, but each is a letter in a cell of its own -/
def isHalfwidthVoicingMark (c : Char) : Bool := c = '\uFF9E' || c = '\uFF9F'

/-- whether a character shows without a neighbour to carry it; the space counts as shown -/
def isVisibleAlone (c : Char) : Bool :=
  !(isUnprintable c || isDefaultIgnorable c || extendsGrapheme c && !isHalfwidthVoicingMark c)

def quoteChar (c : Char) : List Char :=
  if c = '"' then ['\\', '"']
  else if c = '\\' then ['\\', '\\']
  else if c = '\t' then ['\\', 't']
  else if c = '\n' then ['\\', 'n']
  else if c = '\r' then ['\\', 'r']
  else if c = '\x00' then ['\\', '0']
  else if isVisibleAlone c then [c]
  else hexEscape c

def quote (cs : List Char) : List Char := '"' :: cs.flatMap quoteChar ++ ['"']

end ProjectAudit.Text

namespace ProjectAudit

def quoted (s : String) : String := .ofList (Text.quote s.toList)

end ProjectAudit
