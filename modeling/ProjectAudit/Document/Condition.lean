import ProjectAudit.Text.Casing
import ProjectAudit.Text.Lines

/-!
# Conditions on a document

A condition says what the text of a document has to hold.  Conditions are data, so that a
statement about all of them is an induction; `Condition.holds` decides one on a text.
-/

namespace ProjectAudit.Text

/-- one of the needles stands in the text -/
def hasAny (needles : List String) (cs : List Char) : Bool :=
  needles.any fun needle => occursIn needle.toList cs

def hasAll (needles : List String) (cs : List Char) : Bool :=
  needles.all fun needle => occursIn needle.toList cs

def occursAtLeast (times : Nat) (marker : String) (cs : List Char) : Bool :=
  times ≤ occurrences marker.toList cs

end ProjectAudit.Text

namespace ProjectAudit
open Text

inductive Condition where
  | headingWithin (window : Nat)
  | proseAfterTitle (length : Nat)
  | hasAny (needles : List String)
  | hasAll (needles : List String)
  /-- one of the needles, which are in lower case, stands in the text in any case -/
  | mentionsAny (needles : List String)
  | mentionsAll (needles : List String)
  /-- the needles, which are in upper case, stand in the text in any case -/
  | shoutsAll (needles : List String)
  | occurs (marker : String) (times : Nat)
  | both (a b : Condition)
  | either (a b : Condition)
  deriving DecidableEq

def Condition.holds (cs : List Char) : Condition → Bool
  | .headingWithin window => Text.headingWithin window cs
  | .proseAfterTitle length => Text.proseAfterTitle length cs
  | .hasAny needles => Text.hasAny needles cs
  | .hasAll needles => Text.hasAll needles cs
  | .mentionsAny needles => Text.hasAny needles (lower cs)
  | .mentionsAll needles => Text.hasAll needles (lower cs)
  | .shoutsAll needles => Text.hasAll needles (upper cs)
  | .occurs marker times => occursAtLeast times marker cs
  | .both a b => a.holds cs && b.holds cs
  | .either a b => a.holds cs || b.holds cs

/-- a condition under the name and the description it is reported by -/
structure Predicate where
  name : String
  description : String
  condition : Condition
  deriving DecidableEq

end ProjectAudit
