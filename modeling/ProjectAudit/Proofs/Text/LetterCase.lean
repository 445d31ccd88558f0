import Mathlib.Data.List.Forall2
import Mathlib.Tactic.MkIffOfInductiveProp
import ProjectAudit.Document.Condition
import ProjectAudit.Proofs.Text.Normalize

/-!
# The case of ASCII letters

Two texts that differ only in the case of letters of ASCII (`IsRecased`) have the same upper case,
the same lower case and the same normal form.  A case mapping looks at a character in five ways, its
own images and what it tells of a sigma nearby, and none of these tells the two forms of a letter of
ASCII apart (`IsSameLetter.mappedAlike`).  So what is found without regard to case is found in both
texts (`found_recased`).
-/

namespace ProjectAudit.Text

/-! ## characters -/

/-- the same character, or the same letter of ASCII in either case -/
def IsSameLetter (c d : Char) : Prop := c = d ∨ c.isAlpha ∧ (d = c.toUpper ∨ d = c.toLower)

instance (c d : Char) : Decidable (IsSameLetter c d) := inferInstanceAs (Decidable (_ ∨ _))

/-- alike in all that a case mapping looks at -/
@[mk_iff]
structure IsMappedAlike (c d : Char) : Prop where
  upper : upperCase c = upperCase d
  lower : lowerCase c = lowerCase d
  cased : isCased c = isCased d
  ignorable : isCaseIgnorable c = isCaseIgnorable d
  sigma : c = capitalSigma ↔ d = capitalSigma

instance (c d : Char) : Decidable (IsMappedAlike c d) :=
  decidable_of_iff _ (isMappedAlike_iff c d).symm

theorem toNat_lt_of_isAlpha {c : Char} (h : c.isAlpha = true) : c.toNat < 0x80 := by
  rcases Bool.or_eq_true_iff.1 (show (c.isUpper || c.isLower) = true from h) with h | h
  · have hle : c.val ≤ 'Z'.val := (of_decide_eq_true h).2
    exact Nat.lt_of_le_of_lt hle (by decide)
  · have hle : c.val ≤ 'z'.val := of_decide_eq_true (Bool.and_eq_true_iff.1 h).2
    exact Nat.lt_of_le_of_lt hle (by decide)

theorem IsSameLetter.mappedAlike {c d : Char} (h : IsSameLetter c d) : IsMappedAlike c d := by
  rcases h with rfl | ⟨ha, hd⟩
  · exact ⟨rfl, rfl, rfl, rfl, Iff.rfl⟩
  · have hall : ∀ n, n < 0x80 → (Char.ofNat n).isAlpha = true →
        IsMappedAlike (Char.ofNat n) (Char.ofNat n).toUpper ∧
          IsMappedAlike (Char.ofNat n) (Char.ofNat n).toLower := by decide +kernel
    obtain ⟨hupper, hlower⟩ := forall_ascii (P := fun c => c.isAlpha = true →
      IsMappedAlike c c.toUpper ∧ IsMappedAlike c c.toLower) hall (toNat_lt_of_isAlpha ha) ha
    rcases hd with rfl | rfl
    · exact hupper
    · exact hlower

/-! ## texts -/

/-- the texts differ in nothing but the case of letters of ASCII -/
def IsRecased (cs ds : List Char) : Prop := List.Forall₂ IsSameLetter cs ds

instance (cs ds : List Char) : Decidable (IsRecased cs ds) :=
  inferInstanceAs (Decidable (List.Forall₂ _ _ _))

section
variable {cs ds : List Char}

theorem upper_congr (h : List.Forall₂ IsMappedAlike cs ds) : upper cs = upper ds := by
  induction h with
  | nil => rfl
  | cons hc _ ih => rw [upper_cons, upper_cons, hc.upper, ih]

theorem casedAhead_congr (h : List.Forall₂ IsMappedAlike cs ds) :
    casedAhead cs = casedAhead ds := by
  induction h with
  | nil => rfl
  | @cons c d cs ds hc _ ih =>
    cases hd : isCaseIgnorable d with
    | true =>
      have hi : isCaseIgnorable c = true := hc.ignorable.trans hd
      rw [casedAhead_cons_of_ignorable hi, casedAhead_cons_of_ignorable hd, ih]
    | false =>
      have hi : isCaseIgnorable c = false := hc.ignorable.trans hd
      rw [casedAhead_cons hi, casedAhead_cons hd, hc.cased]

theorem casedAfter_congr {c d : Char} (h : IsMappedAlike c d) (casedBefore : Bool) :
    casedAfter casedBefore c = casedAfter casedBefore d := by
  rw [casedAfter, casedAfter, h.ignorable, h.cased]

/-- a sigma becomes the same one if what stands after it is alike -/
theorem lowerAt_congr {c d : Char} (hc : IsMappedAlike c d)
    (h : List.Forall₂ IsMappedAlike cs ds) (casedBefore : Bool) :
    lowerAt casedBefore c cs = lowerAt casedBefore d ds := by
  rw [lowerAt, lowerAt, casedAhead_congr h, hc.lower]
  simp only [hc.sigma]

theorem lowerFrom_congr (h : List.Forall₂ IsMappedAlike cs ds) (casedBefore : Bool) :
    lowerFrom casedBefore cs = lowerFrom casedBefore ds := by
  induction h generalizing casedBefore with
  | nil => rfl
  | cons hc hcs ih => rw [lowerFrom, lowerFrom, lowerAt_congr hc hcs, casedAfter_congr hc, ih]

/-- the normal form depends on nothing but the upper case -/
theorem normalize_congr (h : upper cs = upper ds) : normalize cs = normalize ds := by
  rw [normalize_eq_iff, ← words_upper, ← words_upper, h]

namespace IsRecased
variable (h : IsRecased cs ds)
include h

theorem mappedAlike : List.Forall₂ IsMappedAlike cs ds := h.imp fun _ _ => IsSameLetter.mappedAlike

theorem normalize_eq : normalize cs = normalize ds := normalize_congr (upper_congr h.mappedAlike)

theorem lower_eq : lower cs = lower ds := lowerFrom_congr h.mappedAlike false

end IsRecased

end

/-- **The case of ASCII letters does not matter where case is ignored.**  A pattern is found in a
text, with or without regard to the layout of blanks, exactly if it is found after letters of ASCII
have changed their case in either of them, wherever they stand; and needles are mentioned in both
texts or in neither.  This holds beside a capital sigma, too, which becomes one or the other small
sigma by the letters around it. -/
theorem found_recased {text text' pattern pattern' : String}
    (ht : IsRecased text.toList text'.toList) (hp : IsRecased pattern.toList pattern'.toList) :
    occursNormalized pattern.toList text.toList =
        occursNormalized pattern'.toList text'.toList ∧
      occursIgnoringCase pattern.toList text.toList =
        occursIgnoringCase pattern'.toList text'.toList ∧
      ∀ needles : List String,
        (Condition.mentionsAny needles).holds text.toList =
            (Condition.mentionsAny needles).holds text'.toList ∧
          (Condition.mentionsAll needles).holds text.toList =
            (Condition.mentionsAll needles).holds text'.toList := by
  refine ⟨?_, ?_, fun needles => ⟨?_, ?_⟩⟩
  · rw [occursNormalized, occursNormalized, ht.normalize_eq, hp.normalize_eq]
  · rw [occursIgnoringCase, occursIgnoringCase, ht.lower_eq, hp.lower_eq]
  · rw [Condition.holds, Condition.holds, ht.lower_eq]
  · rw [Condition.holds, Condition.holds, ht.lower_eq]

/-- the letter behind the dot, which is passed over, keeps the sigma from being a final one -/
theorem found_recased_of_abbreviation :
    IsRecased "ΑΣ.b".toList "ΑΣ.B".toList ∧ IsRecased "Σ.B".toList "Σ.b".toList ∧
      occursNormalized "Σ.b".toList "ΑΣ.B".toList = true ∧
      occursIgnoringCase "Σ.b".toList "ΑΣ.B".toList = true ∧
      (Condition.mentionsAny ["ς.b", "σ.b"]).holds "ΑΣ.B".toList = true ∧
      (Condition.mentionsAll ["ς.b", "σ.b"]).holds "ΑΣ.B".toList = false := by
  have ht : IsRecased "ΑΣ.b".toList "ΑΣ.B".toList := by decide
  have hp : IsRecased "Σ.B".toList "Σ.b".toList := by decide
  obtain ⟨hnormalized, hignoring, hneedles⟩ := found_recased ht hp
  obtain ⟨hany, hall⟩ := hneedles ["ς.b", "σ.b"]
  refine ⟨ht, hp, ?_, ?_, ?_, ?_⟩
  · rw [← hnormalized]
    decide +kernel
  · rw [← hignoring]
    decide +kernel
  · rw [← hany]
    decide +kernel
  · rw [← hall]
    decide +kernel

end ProjectAudit.Text
