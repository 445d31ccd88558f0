import ProjectAudit.Proofs.Catalog.Growth
import ProjectAudit.Proofs.Catalog.Results

/-!
# A text that passes every check

The checks of the catalog do not contradict each other.  Each of them has a sample, a text that
passes it, and adding text breaks no check, so a title, a description and all samples after them
make a text that passes every check (`Suite.passes_specimen`).
-/

namespace ProjectAudit
open Text

/-! ## samples -/

/-- a text that meets the condition unless a title is looked for -/
def Condition.sample : Condition → List Char
  | .headingWithin _ | .proseAfterTitle _ => []
  | .hasAny needles | .mentionsAny needles => (needles.head?.getD "").toList
  | .hasAll needles | .mentionsAll needles | .shoutsAll needles => needles.flatMap (·.toList)
  | .occurs marker times => (List.replicate times marker.toList).flatten
  | .both a b => a.sample ++ b.sample
  | .either a _ => a.sample

/-- a title and the description below it -/
def opening : List Char := "# Todo\nA list of the things that are left to do.\n".toList

namespace ContentCheck

def sample : ContentCheck → List Char
  | .pattern p => p.text.toList
  | .predicate q => q.condition.sample
  | .notEmpty => ['.']

/-- the check can be made and its sample passes it, or the opening if it is about the title -/
def isSampled (check : ContentCheck) : Bool :=
  check.validate.toBool &&
    match check with
    | .predicate _ => check.passes (if check.looksForTitle then opening else check.sample)
    | _ => true

end ContentCheck

theorem Pattern.occursIn_self (p : Pattern) : p.occursIn p.text.toList = true := by
  obtain ⟨text, message, mode⟩ := p
  cases mode with
  | normalized => exact occursIn_iff.2 List.infix_rfl
  | ignoreCase => exact occursIn_iff.2 List.infix_rfl
  | literal => exact occursIn_iff.2 List.infix_rfl

theorem Suite.isSampled_checks (s : Suite) : ∀ check ∈ s.checks, check.isSampled = true := by
  have h : s.checks.all (·.isSampled) = true := by
    cases s <;> decide +kernel
  exact List.all_eq_true.1 h

namespace ContentCheck
variable {check : ContentCheck}

theorem validate_of_isSampled (h : check.isSampled = true) : check.validate = .ok () := by
  have h := (Bool.and_eq_true_iff.1 h).1
  cases hv : check.validate with
  | ok _ => rfl
  | error fault =>
    rw [hv] at h
    cases h

theorem passes_of_isSampled (h : check.isSampled = true) :
    if check.looksForTitle then check.passes opening = true
    else check.passes check.sample = true := by
  cases check with
  | pattern p => exact p.occursIn_self
  | notEmpty => rfl
  | predicate q =>
    have h := (Bool.and_eq_true_iff.1 h).2
    split
    · rename_i ht
      rwa [if_pos ht] at h
    · rename_i ht
      rwa [if_neg ht] at h

end ContentCheck

/-! ## all samples together -/

def specimen : List Char := opening ++ (Suite.all.flatMap Suite.checks).flatMap (·.sample)

/-- every check of the catalog can be made, and one text passes all of them -/
theorem Suite.passes_specimen (s : Suite) :
    ∀ check ∈ s.checks, check.validate = .ok () ∧ check.passes specimen = true := by
  intro check hc
  have hsampled := s.isSampled_checks check hc
  have hs := s.isSigmaFree_checks check hc
  have ht := s.titleIsNamed_checks check hc
  have hpass := ContentCheck.passes_of_isSampled hsampled
  refine ⟨ContentCheck.validate_of_isSampled hsampled, ?_⟩
  unfold specimen
  split at hpass
  · exact ContentCheck.passes_append hs ht (.inl rfl) hpass _
  · rename_i hl
    have hall : check ∈ Suite.all.flatMap Suite.checks :=
      List.mem_flatMap.2 ⟨s, s.mem_all, hc⟩
    obtain ⟨before, later, hsplit⟩ := List.append_of_mem hall
    rw [hsplit, List.flatMap_append, List.flatMap_cons, ← List.append_assoc, ← List.append_assoc]
    exact ContentCheck.passes_append hs ht (.inr (Bool.eq_false_iff.2 hl)) hpass _

end ProjectAudit
