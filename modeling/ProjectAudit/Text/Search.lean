/-!
# Looking for a text inside another

`occursIn` finds a stretch of characters, `occurrences` counts how often it is met when the text
is read from the left and every occurrence is passed over as a whole.
-/

namespace ProjectAudit.Text

def occursIn (pattern : List Char) : List Char → Bool
  | [] => pattern.isEmpty
  | c :: cs => pattern.isPrefixOf (c :: cs) || occursIn pattern cs

theorem occursIn_iff {pattern cs : List Char} : occursIn pattern cs = true ↔ pattern <:+: cs := by
  induction cs with
  | nil => simp [occursIn]
  | cons c cs ih => simp [occursIn, ih, List.infix_cons_iff]

/-- occurrences of a non-empty marker, when `skip` more characters belong to the one before -/
def countFrom (marker : List Char) : Nat → List Char → Nat
  | _, [] => 0
  | skip + 1, _ :: cs => countFrom marker skip cs
  | 0, c :: cs =>
    if marker.isPrefixOf (c :: cs) then countFrom marker (marker.length - 1) cs + 1
    else countFrom marker 0 cs

/-- the empty marker stands before every character and at the end -/
def occurrences (marker cs : List Char) : Nat :=
  if marker.isEmpty then cs.length + 1 else countFrom marker 0 cs

end ProjectAudit.Text
