/-!
# JSON with a fixed layout

A value whose records keep the order of their fields, and the text it is printed as: one item or
field a line, two spaces deeper than the bracket around it, and nothing between the brackets of an
empty list or record.
-/

namespace ProjectAudit

inductive Json where
  | bool (value : Bool)
  | number (value : Nat)
  | text (value : String)
  | list (items : List Json)
  | record (fields : List (String × Json))

namespace Json

/-! ## texts -/

/-- a control character without a short escape: two hexadecimal digits are enough -/
def controlEscape (c : Char) : List Char :=
  ['\\', 'u', '0', '0', Nat.digitChar (c.toNat / 16), Nat.digitChar (c.toNat % 16)]

def escapeChar (c : Char) : List Char :=
  if c = '"' then ['\\', '"']
  else if c = '\\' then ['\\', '\\']
  else if c = '\x08' then ['\\', 'b']
  else if c = '\x0c' then ['\\', 'f']
  else if c = '\n' then ['\\', 'n']
  else if c = '\r' then ['\\', 'r']
  else if c = '\t' then ['\\', 't']
  else if c.toNat < 0x20 then controlEscape c
  else [c]

def escape (cs : List Char) : List Char := '"' :: cs.flatMap escapeChar ++ ['"']

def printText (s : String) : String := .ofList (escape s.toList)

/-! ## values -/

/-- the end of a line and the indentation of the next one -/
def newline (depth : Nat) : String := .ofList ('\n' :: List.replicate (2 * depth) ' ')

mutual

/-- the value as it stands in a line `depth` levels deep -/
def print (depth : Nat) : Json → String
  | .bool true => "true"
  | .bool false => "false"
  | .number n => toString n
  | .text s => printText s
  | .list [] => "[]"
  | .list (item :: items) =>
    "[" ++ newline (depth + 1) ++ print (depth + 1) item ++ printItems (depth + 1) items ++
      newline depth ++ "]"
  | .record [] => "\x7b\x7d"
  | .record ((key, value) :: fields) =>
    "\x7b" ++ newline (depth + 1) ++ printText key ++ ": " ++ print (depth + 1) value ++
      printFields (depth + 1) fields ++ newline depth ++ "\x7d"

def printItems (depth : Nat) : List Json → String
  | [] => ""
  | item :: items => "," ++ newline depth ++ print depth item ++ printItems depth items

def printFields (depth : Nat) : List (String × Json) → String
  | [] => ""
  | (key, value) :: fields =>
    "," ++ newline depth ++ printText key ++ ": " ++ print depth value ++ printFields depth fields

end

def pretty (value : Json) : String := value.print 0

end Json

end ProjectAudit
