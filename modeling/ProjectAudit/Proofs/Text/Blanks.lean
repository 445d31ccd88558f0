import ProjectAudit.Proofs.Text.Casing
import ProjectAudit.Proofs.Text.Lines
import ProjectAudit.Proofs.Text.Search

/-!
# Texts of blanks alone

A text of blanks alone is left as it is by both case mappings, has no words, and has empty lines
only once they are trimmed.  A text with something else in it keeps that through the case mappings
(`isAllBlank_lower`) and has a normal form that is not empty (`normalize_eq_nil_iff`).  So nothing
but blanks is ever found in blanks (`occursIn_eq_false`, `occursNormalized_eq_false`,
`occursIgnoringCase_eq_false`).
-/

namespace ProjectAudit.Text
variable {cs pattern : List Char}

theorem isAllBlank_iff : isAllBlank cs = true ↔ ∀ c ∈ cs, isBlank c = true := List.all_eq_true

theorem isAllBlank_cons (c : Char) (cs : List Char) :
    isAllBlank (c :: cs) = (isBlank c && isAllBlank cs) := List.all_cons

theorem isAllBlank_append (a b : List Char) :
    isAllBlank (a ++ b) = (isAllBlank a && isAllBlank b) := List.all_append

theorem ne_nil_of_isAllBlank_eq_false (h : isAllBlank cs = false) : cs ≠ [] := by
  rintro rfl
  cases h

/-! ## what is found as it is -/

theorem isAllBlank_of_isInfix (h : pattern <:+: cs) (hcs : isAllBlank cs = true) :
    isAllBlank pattern = true :=
  isAllBlank_iff.2 fun c hc => isAllBlank_iff.1 hcs c (h.subset hc)

theorem occursIn_eq_false (hp : isAllBlank pattern = false) (hcs : isAllBlank cs = true) :
    occursIn pattern cs = false := by
  rw [Bool.eq_false_iff] at hp ⊢
  exact fun h => hp (isAllBlank_of_isInfix (occursIn_iff.1 h) hcs)

theorem occurrences_eq_zero (hp : isAllBlank pattern = false) (hcs : isAllBlank cs = true) :
    occurrences pattern cs = 0 := by
  refine Nat.eq_zero_of_not_pos fun hpos => ?_
  obtain ⟨before, later, he, -⟩ := (le_occurrences_iff (ne_nil_of_isAllBlank_eq_false hp)).1 hpos
  have hi : pattern <:+: cs := ⟨before, later, by rw [he, List.append_assoc]⟩
  rw [isAllBlank_of_isInfix hi hcs] at hp
  cases hp

/-! ## case mappings -/

theorem upper_of_isAllBlank (h : isAllBlank cs = true) : upper cs = cs :=
  upper_eq_self fun c hc => upperCase_of_isBlank (List.all_eq_true.1 h c hc)

theorem upper_eq_nil_iff : upper cs = [] ↔ cs = [] := by
  cases cs with
  | nil => exact iff_of_true rfl rfl
  | cons c cs =>
    rw [upper_cons, List.append_eq_nil_iff]
    exact iff_of_false (fun h => upperCase_ne_nil c h.1) (List.cons_ne_nil _ _)

theorem lowerAt_ne_nil (casedBefore : Bool) (c : Char) (after : List Char) :
    lowerAt casedBefore c after ≠ [] := by
  unfold lowerAt
  split
  · split <;> exact List.cons_ne_nil _ _
  · exact lowerCase_ne_nil c

theorem isBlank_of_mem_lowerAt {casedBefore : Bool} {c x : Char} {after : List Char}
    (hx : x ∈ lowerAt casedBefore c after) (h : isBlank x = true) : x = c := by
  unfold lowerAt at hx
  split at hx
  · split at hx <;> rw [List.mem_singleton.1 hx] at h <;> exact absurd h (by decide)
  · exact isBlank_of_mem_lowerCase hx h

theorem isAllBlank_lowerAt (casedBefore : Bool) (c : Char) (after : List Char) :
    isAllBlank (lowerAt casedBefore c after) = isBlank c := by
  cases hc : isBlank c with
  | true => rw [lowerAt_of_isBlank hc, isAllBlank_cons, hc, Bool.true_and]; rfl
  | false =>
    rw [Bool.eq_false_iff]
    intro h
    obtain ⟨x, rest, hx⟩ := List.exists_cons_of_ne_nil (lowerAt_ne_nil casedBefore c after)
    have hmem : x ∈ lowerAt casedBefore c after := hx ▸ List.mem_cons_self
    have hb := isAllBlank_iff.1 h x hmem
    rw [isBlank_of_mem_lowerAt hmem hb, hc] at hb
    cases hb

/-- lower case makes a blank of nothing else, and nothing of no character -/
theorem isAllBlank_lower (cs : List Char) : isAllBlank (lower cs) = isAllBlank cs := by
  have key : ∀ casedBefore, isAllBlank (lowerFrom casedBefore cs) = isAllBlank cs := by
    induction cs with
    | nil => exact fun _ => rfl
    | cons c cs ih =>
      intro casedBefore
      rw [lowerFrom, isAllBlank_append, isAllBlank_lowerAt, ih, isAllBlank_cons]
  exact key false

/-! ## words -/

theorem spaced_words_eq_nil_iff : spaced (words cs) = [] ↔ isAllBlank cs = true := by
  induction cs with
  | nil => exact iff_of_true rfl rfl
  | cons c cs ih =>
    rw [isAllBlank_cons]
    cases hc : isBlank c with
    | true => rw [words_cons_of_isBlank hc, Bool.true_and, ih]
    | false =>
      rw [spaced_words_cons hc]
      exact iff_of_false (List.cons_ne_nil _ _) Bool.false_ne_true

theorem normalize_eq_nil_iff : normalize cs = [] ↔ isAllBlank cs = true := by
  rw [normalize, upper_eq_nil_iff, spaced_words_eq_nil_iff]

/-! ## what is found without regard to case or layout -/

theorem occursNormalized_eq_false (hp : isAllBlank pattern = false)
    (hcs : isAllBlank cs = true) : occursNormalized pattern cs = false := by
  rw [Bool.eq_false_iff] at hp ⊢
  intro h
  have hi := occursIn_iff.1 h
  rw [normalize_eq_nil_iff.2 hcs, List.infix_nil] at hi
  exact hp (normalize_eq_nil_iff.1 hi)

theorem occursIgnoringCase_eq_false (hp : isAllBlank pattern = false)
    (hcs : isAllBlank cs = true) : occursIgnoringCase pattern cs = false :=
  occursIn_eq_false ((isAllBlank_lower pattern).trans hp) ((isAllBlank_lower cs).trans hcs)

/-! ## lines -/

theorem trim_eq_nil_of_mem_lines (h : isAllBlank cs = true) {line : List Char}
    (hl : line ∈ lines cs) : trim line = [] := by
  obtain ⟨piece, hp, hpre⟩ := exists_piece_of_mem_endLines hl
  refine trim_eq_nil fun c hc => isAllBlank_iff.1 h c ?_
  exact mem_of_mem_split hp (hpre.subset hc)

theorem headingWithin_eq_false (h : isAllBlank cs = true) (window : Nat) :
    headingWithin window cs = false := by
  refine List.any_eq_false.2 fun line hl => ?_
  rw [trim_eq_nil_of_mem_lines h (List.mem_of_mem_take hl)]
  exact Bool.false_ne_true

/-- an empty line is neither a title nor prose, so it does not matter whether a title was seen -/
theorem hasProse_eq_false {ls : List (List Char)} (h : ∀ line ∈ ls, trim line = [])
    (length : Nat) (titled : Bool) : hasProse length titled ls = false := by
  induction ls with
  | nil => rfl
  | cons line ls ih =>
    have hlong : (decide (length < byteLength [])) = false := decide_eq_false (Nat.not_lt_zero _)
    rw [hasProse, h line List.mem_cons_self, ih fun l hl => h l (List.mem_cons_of_mem _ hl),
      hlong, Bool.and_false]
    rfl

theorem proseAfterTitle_eq_false (h : isAllBlank cs = true) (length : Nat) :
    proseAfterTitle length cs = false :=
  hasProse_eq_false (fun _ hl => trim_eq_nil_of_mem_lines h hl) length false

end ProjectAudit.Text
