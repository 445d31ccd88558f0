import ProjectAudit.Unicode.RangeMap

/-!
# How a case mapping treats a run of characters

Most runs are moved as a whole or at every second character, because lower-case and upper-case
letters often alternate; a few characters become several.
-/

namespace ProjectAudit

inductive CaseRule where
  /-- every `step`-th character of the run is moved, the first one to `target` -/
  | shift (step target : Nat)
  /-- the only character of the run becomes these -/
  | expand (chars : List Char)

/-- `offset` is the place of the character `c` in its run -/
def CaseRule.apply (c : Char) (offset : Nat) : CaseRule → List Char
  | .shift step target => if offset % step = 0 then [Char.ofNat (target + offset)] else [c]
  | .expand chars => chars

/-- a character outside every run is its own image -/
def RangeMap.mapChar (m : RangeMap CaseRule) (c : Char) : List Char :=
  match m.find? c.toNat with
  | some run => run.value.apply c (c.toNat - run.first)
  | none => [c]

end ProjectAudit
