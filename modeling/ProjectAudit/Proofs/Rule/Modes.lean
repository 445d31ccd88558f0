import ProjectAudit.Proofs.Text.Growth
import ProjectAudit.Proofs.Text.Sigma
import ProjectAudit.Rule.Pattern

/-!
# How the modes of comparison are related

A pattern that is found as it is should be found where less is asked for.  Where neither case nor
layout matters it always is, and it stays found whatever stands around the text
(`Text.occursNormalized_stable`).  Where only the case does not matter this holds of a pattern
exactly if each of its capital sigmas is settled in the pattern itself
(`Pattern.test_ignoreCase_of_literal_iff`).
-/

namespace ProjectAudit

/-! ## neither case nor layout -/

namespace Text

/-- less is looked for in more -/
theorem occursNormalized_of_infix {pattern pattern' cs cs' : List Char}
    (hp : pattern' <:+: pattern) (hcs : cs <:+: cs')
    (h : occursNormalized pattern cs = true) : occursNormalized pattern' cs' = true := by
  unfold occursNormalized at h ⊢
  rw [occursIn_iff] at h ⊢
  exact (infix_normalize hp).trans (h.trans (infix_normalize hcs))

theorem occursNormalized_self (cs : List Char) : occursNormalized cs cs = true :=
  occursIn_iff.2 List.infix_rfl

/-- **A pattern that stands in a text is found by its words, whatever stands around the text.**  The
text around may join its first and its last word to others, and the pattern need not begin or end
where a word does. -/
theorem occursNormalized_stable (haystack pattern : String) :
    (occursIn pattern.toList haystack.toList = true →
      occursNormalized pattern.toList haystack.toList = true) ∧
    (occursNormalized pattern.toList haystack.toList = true →
      ∀ before later : String,
        occursNormalized pattern.toList (before ++ haystack ++ later).toList = true) := by
  constructor
  · intro h
    exact occursNormalized_of_infix List.infix_rfl (occursIn_iff.1 h) (occursNormalized_self _)
  · intro h before later
    refine occursNormalized_of_infix List.infix_rfl ?_ h
    rw [String.toList_append, String.toList_append]
    exact List.infix_append _ _ _

/-- the pattern begins and ends inside a word, and its first letter grows to two in upper case -/
theorem occursNormalized_of_street :
    occursIn "ße  4".toList "Straße  42".toList = true ∧
      occursNormalized "ße  4".toList "Straße  42".toList = true ∧
      occursNormalized "ße  4".toList ("Haupt" ++ "Straße  42" ++ "b, Bonn").toList = true := by
  have h : occursIn "ße  4".toList "Straße  42".toList = true := by decide
  obtain ⟨hliteral, hgrowth⟩ := occursNormalized_stable "Straße  42" "ße  4"
  exact ⟨h, hliteral h, hgrowth (hliteral h) "Haupt" "b, Bonn"⟩

end Text

/-! ## without regard to case -/

namespace Pattern
open Text

theorem test_eq_ok_true_iff {p : Pattern} {text : String} :
    p.test text = .ok true ↔ p.isBlank = false ∧ p.occursIn text.toList = true := by
  unfold test validate
  cases p.isBlank <;> simp [bind, Except.bind, pure, Except.pure]

/-- a capital sigma is no blank -/
theorem isBlank_eq_false_of_mem {p : Pattern} (h : capitalSigma ∈ p.text.toList) :
    p.isBlank = false := by
  rw [Bool.eq_false_iff]
  intro hb
  exact absurd (List.all_eq_true.1 hb _ h) (by decide)

/-- **Which patterns are found without regard to case wherever they stand.**  These are the patterns
without a capital sigma, and those in which the text on both sides of a capital sigma is settled by
the pattern.  The two small forms of a sigma are different characters, so another pattern is missed
in some of the texts that hold it. -/
theorem test_ignoreCase_of_literal_iff (text message : String) :
    (∀ haystack, (Pattern.mk text message .literal).test haystack = .ok true →
        (Pattern.mk text message .ignoreCase).test haystack = .ok true) ↔
      ∀ before after, text.toList = before ++ capitalSigma :: after →
        isSettled before after = true := by
  rw [← infix_lower_iff]
  simp only [test_eq_ok_true_iff, occursIn, occursIgnoringCase, occursIn_iff]
  constructor
  · intro h cs hcs
    by_cases hs : capitalSigma ∈ text.toList
    · have hb : (Pattern.mk text message .literal).isBlank = false := isBlank_eq_false_of_mem hs
      have hfound := (h (.ofList cs) ⟨hb, by rwa [String.toList_ofList]⟩).2
      rwa [String.toList_ofList] at hfound
    · refine infix_lower_iff.2 (fun before after he => absurd ?_ hs) cs hcs
      rw [he]
      exact List.mem_append_right _ List.mem_cons_self
  · rintro h haystack ⟨hb, hin⟩
    exact ⟨hb, h _ hin⟩

/-- alpha and sigma stand in alpha, sigma, alpha, but there the sigma does not end a word -/
theorem test_literal_without_ignoreCase :
    (Pattern.mk "ΑΣ" "" .literal).test "ΑΣΑ" = .ok true ∧
      (Pattern.mk "ΑΣ" "" .ignoreCase).test "ΑΣΑ" = .ok false := by
  have hb : (Pattern.mk "ΑΣ" "" .ignoreCase).isBlank = false := by decide +kernel
  have hf : (Pattern.mk "ΑΣ" "" .ignoreCase).occursIn "ΑΣΑ".toList = false := by decide +kernel
  refine ⟨test_eq_ok_true_iff.2 (by decide +kernel), ?_⟩
  rw [test, validate, hb, hf]
  rfl

end Pattern

end ProjectAudit
