import ProjectAudit.Unicode.Blank
import ProjectAudit.Unicode.LowerCase
import ProjectAudit.Unicode.UpperCase

/-!
# Case mappings and blanks

A case mapping leaves every blank as it is and makes no blank out of another character
(`upperCase_of_isBlank`, `isBlank_of_mem_upperCase`, and the same for `lowerCase`).  For the table
of a mapping this is a check of its runs against the ranges of the blanks.  It drops no character
either (`upperCase_ne_nil`, `lowerCase_ne_nil`).
-/

namespace ProjectAudit

/-- ascending and apart from each other -/
def blankRanges : List (Nat × Nat) :=
  [(0x9, 0xD), (0x20, 0x20), (0x85, 0x85), (0xA0, 0xA0), (0x1680, 0x1680), (0x2000, 0x200A),
   (0x2028, 0x2029), (0x202F, 0x202F), (0x205F, 0x205F), (0x3000, 0x3000)]

theorem isBlank_eq_any (c : Char) :
    isBlank c = blankRanges.any fun range => range.1 ≤ c.toNat && c.toNat ≤ range.2 := by
  rw [Bool.eq_iff_iff]
  unfold isBlank
  simp only [blankRanges, List.any_cons, List.any_nil, Bool.or_eq_true, Bool.and_eq_true,
    decide_eq_true_eq, Bool.false_eq_true, or_false]
  grind

theorem isBlank_iff {c : Char} :
    isBlank c = true ↔ ∃ range ∈ blankRanges, range.1 ≤ c.toNat ∧ c.toNat ≤ range.2 := by
  simp only [isBlank_eq_any, List.any_eq_true, Bool.and_eq_true, decide_eq_true_eq]

/-! ## tables -/

/-- none of the `length + 1` characters from the first image on is in the range -/
def CaseRule.avoids (range : Nat × Nat) (length : Nat) : CaseRule → Bool
  | .shift _ target => target + length < range.1 || range.2 < target
  | .expand chars => chars.all (!isBlank ·)

/-- there is no blank in the run and none among its images -/
def Run.isFreeOfBlanks (run : Run CaseRule) : Bool :=
  blankRanges.all fun range =>
    (run.last < range.1 || range.2 < run.first) &&
      run.value.avoids range (run.last - run.first)

section
variable {runs : List (Run CaseRule)} {c x : Char}

theorem mapChar_of_isBlank (h : runs.all Run.isFreeOfBlanks = true) (hc : isBlank c = true) :
    (RangeMap.ofList runs).mapChar c = [c] := by
  unfold RangeMap.mapChar
  split
  · rename_i run hf
    obtain ⟨hm, hl, hu⟩ := RangeMap.find?_ofList hf
    obtain ⟨range, hr, h1, h2⟩ := isBlank_iff.1 hc
    have hrun := List.all_eq_true.1 (List.all_eq_true.1 h run hm) range hr
    simp only [Bool.and_eq_true, Bool.or_eq_true, decide_eq_true_eq] at hrun
    omega
  · rfl

/-- a number that is no character stands for the first one -/
theorem toNat_ofNat_cases (n : Nat) : (Char.ofNat n).toNat = n ∨ (Char.ofNat n).toNat = 0 := by
  by_cases h : n.isValidChar
  · have he : Char.ofNat n = Char.ofNatAux n h := dif_pos h
    exact .inl (congrArg Char.toNat he)
  · have he : Char.ofNat n = Char.ofNat 0 := dif_neg h
    exact .inr (congrArg Char.toNat he)

theorem isBlank_of_mem_mapChar (h : runs.all Run.isFreeOfBlanks = true)
    (hx : x ∈ (RangeMap.ofList runs).mapChar c) (hb : isBlank x = true) : x = c := by
  unfold RangeMap.mapChar at hx
  split at hx
  · rename_i run hf
    obtain ⟨hm, hl, hu⟩ := RangeMap.find?_ofList hf
    obtain ⟨range, hr, h1, h2⟩ := isBlank_iff.1 hb
    have hrun := List.all_eq_true.1 (List.all_eq_true.1 h run hm) range hr
    have hpos : 0 < range.1 := by
      have hall : ∀ range ∈ blankRanges, 0 < range.1 := by decide
      exact hall range hr
    obtain ⟨-, ha⟩ := Bool.and_eq_true_iff.1 hrun
    cases hv : run.value with
    | shift step target =>
      rw [hv] at ha hx
      simp only [CaseRule.avoids, Bool.or_eq_true, decide_eq_true_eq] at ha
      simp only [CaseRule.apply] at hx
      split at hx
      · rw [List.mem_singleton.1 hx] at h1 h2
        rcases toNat_ofNat_cases (target + (c.toNat - run.first)) with he | he <;> omega
      · exact List.mem_singleton.1 hx
    | expand chars =>
      rw [hv] at ha hx
      have hnb := List.all_eq_true.1 ha x hx
      rw [hb] at hnb
      cases hnb
  · exact List.mem_singleton.1 hx

end

/-- the characters of the run become at least one each -/
def Run.hasImages (run : Run CaseRule) : Bool :=
  match run.value with
  | .shift _ _ => true
  | .expand chars => !chars.isEmpty

theorem mapChar_ne_nil {runs : List (Run CaseRule)} (h : runs.all Run.hasImages = true)
    (c : Char) : (RangeMap.ofList runs).mapChar c ≠ [] := by
  unfold RangeMap.mapChar
  split
  · rename_i run hf
    have hrun := List.all_eq_true.1 h run (RangeMap.find?_ofList hf).1
    unfold Run.hasImages at hrun
    cases hv : run.value with
    | shift step target =>
      rw [CaseRule.apply]
      split <;> exact List.cons_ne_nil _ _
    | expand chars =>
      rw [hv] at hrun
      rw [CaseRule.apply]
      simpa using hrun
  · exact List.cons_ne_nil _ _

theorem isFreeOfBlanks_upperCaseRuns : upperCaseRuns.all Run.isFreeOfBlanks = true := by
  decide +kernel

theorem isFreeOfBlanks_lowerCaseRuns : lowerCaseRuns.all Run.isFreeOfBlanks = true := by
  decide +kernel

theorem hasImages_upperCaseRuns : upperCaseRuns.all Run.hasImages = true := by
  decide +kernel

theorem hasImages_lowerCaseRuns : lowerCaseRuns.all Run.hasImages = true := by
  decide +kernel

/-! ## upper and lower case -/

theorem upperCase_ne_nil (c : Char) : upperCase c ≠ [] := by
  unfold upperCase
  split
  · exact List.cons_ne_nil _ _
  · exact mapChar_ne_nil hasImages_upperCaseRuns c

theorem lowerCase_ne_nil (c : Char) : lowerCase c ≠ [] := by
  unfold lowerCase
  split
  · exact List.cons_ne_nil _ _
  · exact mapChar_ne_nil hasImages_lowerCaseRuns c

/-- what holds of every character of ASCII is checked one by one -/
theorem forall_ascii {P : Char → Prop} (h : ∀ n, n < 0x80 → P (Char.ofNat n)) {c : Char}
    (hc : c.toNat < 0x80) : P c := by
  have hn := h c.toNat hc
  rwa [Char.ofNat_toNat] at hn

theorem upperCase_of_isBlank {c : Char} (h : isBlank c = true) : upperCase c = [c] := by
  unfold upperCase
  split
  · rename_i hc
    have hall : ∀ n, n < 0x80 → isBlank (Char.ofNat n) = true →
        [(Char.ofNat n).toUpper] = [Char.ofNat n] := by decide
    exact forall_ascii (P := fun c => isBlank c = true → [c.toUpper] = [c]) hall hc h
  · exact mapChar_of_isBlank isFreeOfBlanks_upperCaseRuns h

theorem isBlank_of_mem_upperCase {c x : Char} (hx : x ∈ upperCase c) (h : isBlank x = true) :
    x = c := by
  unfold upperCase at hx
  split at hx
  · rename_i hc
    have hall : ∀ n, n < 0x80 → isBlank (Char.ofNat n).toUpper = true →
        (Char.ofNat n).toUpper = Char.ofNat n := by decide
    rw [List.mem_singleton.1 hx] at h ⊢
    exact forall_ascii (P := fun c => isBlank c.toUpper = true → c.toUpper = c) hall hc h
  · exact isBlank_of_mem_mapChar isFreeOfBlanks_upperCaseRuns hx h

theorem lowerCase_of_isBlank {c : Char} (h : isBlank c = true) : lowerCase c = [c] := by
  unfold lowerCase
  split
  · rename_i hc
    have hall : ∀ n, n < 0x80 → isBlank (Char.ofNat n) = true →
        [(Char.ofNat n).toLower] = [Char.ofNat n] := by decide
    exact forall_ascii (P := fun c => isBlank c = true → [c.toLower] = [c]) hall hc h
  · exact mapChar_of_isBlank isFreeOfBlanks_lowerCaseRuns h

theorem isBlank_of_mem_lowerCase {c x : Char} (hx : x ∈ lowerCase c) (h : isBlank x = true) :
    x = c := by
  unfold lowerCase at hx
  split at hx
  · rename_i hc
    have hall : ∀ n, n < 0x80 → isBlank (Char.ofNat n).toLower = true →
        (Char.ofNat n).toLower = Char.ofNat n := by decide
    rw [List.mem_singleton.1 hx] at h ⊢
    exact forall_ascii (P := fun c => isBlank c.toLower = true → c.toLower = c) hall hc h
  · exact isBlank_of_mem_mapChar isFreeOfBlanks_lowerCaseRuns hx h

end ProjectAudit
