import ProjectAudit.Proofs.Unicode.Case
import ProjectAudit.Text.Casing

/-!
# Case mappings of whole texts

Upper case is taken piece by piece.  Lower case is too, once the two small sigmas are taken for one
(`map_foldSigma_lowerFrom`), so a piece without a small sigma is found in the lower case of any text
around it (`infix_lower_of_isSigmaFree`).
-/

namespace ProjectAudit.Text

/-! ## upper case -/

theorem upper_cons (c : Char) (cs : List Char) : upper (c :: cs) = upperCase c ++ upper cs := rfl

theorem upper_append (a b : List Char) : upper (a ++ b) = upper a ++ upper b := List.flatMap_append

theorem upper_eq_self {cs : List Char} (h : ∀ c ∈ cs, upperCase c = [c]) : upper cs = cs := by
  induction cs with
  | nil => rfl
  | cons c cs ih =>
    rw [upper_cons, h c List.mem_cons_self, ih fun d hd => h d (List.mem_cons_of_mem _ hd),
      List.singleton_append]

theorem infix_upper {cs ds : List Char} (h : cs <:+: ds) : upper cs <:+: upper ds := by
  obtain ⟨a, b, rfl⟩ := h
  rw [upper_append, upper_append]
  exact List.infix_append _ _ _

/-! ## lower case -/

theorem casedAhead_cons_of_ignorable {c : Char} (h : isCaseIgnorable c = true) (cs : List Char) :
    casedAhead (c :: cs) = casedAhead cs := by
  unfold casedAhead
  rw [List.dropWhile_cons_of_pos h]

theorem casedAhead_cons {c : Char} (h : isCaseIgnorable c = false) (cs : List Char) :
    casedAhead (c :: cs) = isCased c := by
  unfold casedAhead
  rw [List.dropWhile_cons, h]
  rfl

theorem lowerAt_of_isBlank {c : Char} (h : isBlank c = true) (casedBefore : Bool)
    (after : List Char) : lowerAt casedBefore c after = [c] := by
  have hc : c ≠ capitalSigma := by
    rintro rfl
    exact absurd h (by decide)
  rw [lowerAt, if_neg hc, lowerCase_of_isBlank h]

/-! ## small sigmas -/

/-- what follows or stands before a capital sigma decides on which small one it becomes, so the
two are taken for one -/
def foldSigma (c : Char) : Char := if c = finalSigma then smallSigma else c

def foldedLower (c : Char) : List Char :=
  if c = capitalSigma then [smallSigma] else (lowerCase c).map foldSigma

theorem map_foldSigma_lowerAt (casedBefore : Bool) (c : Char) (after : List Char) :
    (lowerAt casedBefore c after).map foldSigma = foldedLower c := by
  unfold lowerAt foldedLower
  by_cases hc : c = capitalSigma
  · rw [if_pos hc, if_pos hc]
    split <;> rfl
  · rw [if_neg hc, if_neg hc]

theorem map_foldSigma_lowerFrom (casedBefore : Bool) (cs : List Char) :
    (lowerFrom casedBefore cs).map foldSigma = cs.flatMap foldedLower := by
  induction cs generalizing casedBefore with
  | nil => rfl
  | cons c cs ih =>
    rw [lowerFrom, List.map_append, map_foldSigma_lowerAt, ih, List.flatMap_cons]

/-- with neither of the small sigmas -/
def isSigmaFree (cs : List Char) : Bool := smallSigma ∉ cs && finalSigma ∉ cs

theorem isSigmaFree_iff {p : List Char} :
    isSigmaFree p = true ↔ smallSigma ∉ p ∧ finalSigma ∉ p := by
  unfold isSigmaFree
  rw [Bool.and_eq_true, decide_eq_true_eq, decide_eq_true_eq]

/-- folding the sigmas of a piece without a small one changes nothing -/
theorem map_foldSigma_eq_iff {p q : List Char} (hp : isSigmaFree p = true) :
    q.map foldSigma = p ↔ q = p := by
  obtain ⟨hs, hf⟩ := isSigmaFree_iff.1 hp
  have hid : ∀ cs : List Char, finalSigma ∉ cs → cs.map foldSigma = cs := by
    intro cs hcs
    refine (List.map_congr_left fun c hc => ?_).trans (List.map_id cs)
    have hne : c ≠ finalSigma := by
      rintro rfl
      exact hcs hc
    exact if_neg hne
  constructor
  · rintro rfl
    refine (hid q fun hq => hs ?_).symm
    exact List.mem_map.2 ⟨finalSigma, hq, rfl⟩
  · rintro rfl
    exact hid q hf

theorem infix_map_foldSigma_iff {p cs : List Char} (hp : isSigmaFree p = true) :
    p <:+: cs.map foldSigma ↔ p <:+: cs := by
  constructor
  · rintro ⟨a, b, h⟩
    obtain ⟨xs, b', rfl, hx, -⟩ := List.map_eq_append_iff.1 h.symm
    obtain ⟨a', q, rfl, -, hq⟩ := List.map_eq_append_iff.1 hx
    rw [(map_foldSigma_eq_iff hp).1 hq]
    exact List.infix_append _ _ _
  · intro h
    have hm := h.map foldSigma
    rwa [(map_foldSigma_eq_iff hp).2 rfl] at hm

theorem infix_lower_of_isSigmaFree {p cs : List Char} (hp : isSigmaFree p = true)
    (h : p <:+: lower cs) (before later : List Char) : p <:+: lower (before ++ cs ++ later) := by
  rw [← infix_map_foldSigma_iff hp, lower, map_foldSigma_lowerFrom] at h ⊢
  rw [List.flatMap_append, List.flatMap_append]
  exact h.trans (List.infix_append _ _ _)

end ProjectAudit.Text
