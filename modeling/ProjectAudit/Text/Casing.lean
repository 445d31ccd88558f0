import ProjectAudit.Text.Search
import ProjectAudit.Text.Words
import ProjectAudit.Unicode.Cased
import ProjectAudit.Unicode.CaseIgnorable
import ProjectAudit.Unicode.LowerCase
import ProjectAudit.Unicode.UpperCase

/-!
# Case and layout of a text

Upper case is taken character by character.  Lower case is too, except for the capital sigma: it
becomes a final sigma where it ends a word, that is, where a cased character stands before it and
none after it, case-ignorable characters on the way not counted.

`normalize` writes the words of a text in upper case with one space between them, and two texts
are compared by it where neither case nor layout matters.
-/

namespace ProjectAudit.Text

def upper (cs : List Char) : List Char := cs.flatMap upperCase

/-- whether a cased character comes first once case-ignorable characters are passed over -/
def casedAhead (cs : List Char) : Bool :=
  match cs.dropWhile isCaseIgnorable with
  | [] => false
  | c :: _ => isCased c

def capitalSigma : Char := '\u03A3'
def smallSigma : Char := '\u03C3'
def finalSigma : Char := '\u03C2'

/-- `c` between what is known of the text before it and the text after it -/
def lowerAt (casedBefore : Bool) (c : Char) (after : List Char) : List Char :=
  if c = capitalSigma then
    if casedBefore && !casedAhead after then [finalSigma] else [smallSigma]
  else lowerCase c

/-- what is known before the character after `c` -/
def casedAfter (casedBefore : Bool) (c : Char) : Bool :=
  if isCaseIgnorable c then casedBefore else isCased c

def lowerFrom : Bool → List Char → List Char
  | _, [] => []
  | casedBefore, c :: cs => lowerAt casedBefore c cs ++ lowerFrom (casedAfter casedBefore c) cs

def lower (cs : List Char) : List Char := lowerFrom false cs

/-! ## comparing without case and layout -/

/-- the words with one space between them -/
def spaced : List (List Char) → List Char
  | [] => []
  | [word] => word
  | word :: next :: later => word ++ ' ' :: spaced (next :: later)

def normalize (cs : List Char) : List Char := upper (spaced (words cs))

/-- neither case nor the layout of blanks matters -/
def occursNormalized (pattern cs : List Char) : Bool := occursIn (normalize pattern) (normalize cs)

def occursIgnoringCase (pattern cs : List Char) : Bool := occursIn (lower pattern) (lower cs)

end ProjectAudit.Text
