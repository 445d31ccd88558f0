import ProjectAudit.Proofs.Text.Normalize

/-!
# Comparing word by word

Where neither case nor layout matters, a pattern is found in a text exactly if its words in upper
case stand in a row among those of the text (`occursNormalized_iff_aligned`).  Only the outer ends
of the row need not be those of a word, because a space in the normal form of the pattern is met by
a space between two words of the text and by nothing else (`infix_spaced_iff`).
-/

namespace ProjectAudit.Text
variable {ws vs : List (List Char)}

/-- the words stand in a row among those of a text: a single word inside a word of the text, and of
several the first at the end of a word and the last at the beginning of one -/
inductive IsAligned (vs : List (List Char)) : List (List Char) → Prop
  | none : IsAligned vs []
  | one {w v : List Char} (hv : v ∈ vs) (h : w <:+: v) : IsAligned vs [w]
  | more {first last v u : List Char} {before middle after : List (List Char)}
      (hvs : vs = before ++ v :: (middle ++ u :: after)) (hfirst : first <:+ v)
      (hlast : last <+: u) : IsAligned vs (first :: (middle ++ [last]))

/-! ## longer rows of words -/

theorem spaced_append (hws : ws ≠ []) (hvs : vs ≠ []) :
    spaced (ws ++ vs) = spaced ws ++ ' ' :: spaced vs := by
  induction ws with
  | nil => exact absurd rfl hws
  | cons word ws ih =>
    rw [List.cons_append, spaced_cons (List.append_ne_nil_of_right_ne_nil _ hvs)]
    by_cases he : ws = []
    · rw [he]
      rfl
    · rw [ih he, spaced_cons he, List.append_assoc, List.cons_append]

theorem infix_spaced (before ws after : List (List Char)) :
    spaced ws <:+: spaced (before ++ (ws ++ after)) := by
  by_cases hws : ws = []
  · rw [hws]
    exact List.nil_infix
  have hprefix : spaced ws <+: spaced (ws ++ after) := by
    by_cases ha : after = []
    · simp only [ha, List.append_nil, List.prefix_rfl]
    · rw [spaced_append hws ha]
      exact List.prefix_append _ _
  have hsuffix : spaced (ws ++ after) <:+ spaced (before ++ (ws ++ after)) := by
    by_cases hb : before = []
    · simp only [hb, List.nil_append, List.suffix_rfl]
    · rw [spaced_append hb (List.append_ne_nil_of_left_ne_nil hws _)]
      exact (List.suffix_cons _ _).trans (List.suffix_append _ _)
  exact hprefix.isInfix.trans hsuffix.isInfix

theorem infix_spaced_of_mem {v : List Char} (h : v ∈ vs) : v <:+: spaced vs := by
  obtain ⟨before, after, rfl⟩ := List.append_of_mem h
  exact infix_spaced before [v] after

/-- what stands before the first word of a row and after its last stands around the row -/
theorem spaced_append_around (a b first last : List Char) (middle : List (List Char)) :
    spaced ((a ++ first) :: (middle ++ [last ++ b])) =
      a ++ (spaced (first :: (middle ++ [last])) ++ b) := by
  have hne : ∀ word : List Char, middle ++ [word] ≠ [] := fun word =>
    List.append_ne_nil_of_right_ne_nil _ (List.cons_ne_nil _ _)
  have hlast : spaced (middle ++ [last ++ b]) = spaced (middle ++ [last]) ++ b := by
    by_cases hm : middle = []
    · rw [hm]
      rfl
    · rw [spaced_append hm (List.cons_ne_nil _ _), spaced_append hm (List.cons_ne_nil _ _),
        List.append_assoc]
      rfl
  rw [spaced_cons (hne _), spaced_cons (hne _), hlast, List.append_assoc, List.append_assoc]
  rfl

theorem infix_spaced_of_aligned (h : IsAligned vs ws) : spaced ws <:+: spaced vs := by
  cases h with
  | none => exact List.nil_infix
  | one hv h => exact h.trans (infix_spaced_of_mem hv)
  | @more first last v u before middle after hvs hfirst hlast =>
    obtain ⟨a, rfl⟩ := hfirst
    obtain ⟨b, rfl⟩ := hlast
    have hrow : spaced (first :: (middle ++ [last])) <:+:
        spaced ((a ++ first) :: (middle ++ [last ++ b])) := by
      rw [spaced_append_around]
      exact ⟨a, b, List.append_assoc _ _ _⟩
    have hsplit : vs = before ++ ((a ++ first) :: (middle ++ [last ++ b]) ++ after) := by
      simp only [hvs, List.cons_append, List.append_assoc, List.nil_append]
    rw [hsplit]
    exact hrow.trans (infix_spaced before _ after)

/-! ## rows of words that are found -/

/-- the text is cut at its blanks, those around what is found included: the pieces in between are
words of both sides, and the outer ones go on in the text around -/
theorem aligned_of_infix_spaced (hvs : ∀ v ∈ vs, IsWord v) (hws : ∀ w ∈ ws, IsWord w)
    (h : spaced ws <:+: spaced vs) : IsAligned vs ws := by
  by_cases hne : ws = []
  · rw [hne]
    exact .none
  obtain ⟨a, b, hab⟩ := h
  rw [List.append_assoc] at hab
  obtain ⟨piece, pieces, hb⟩ := exists_split isBlank b
  obtain ⟨row, last, hrow, hrowb⟩ := split_append hb (spaced ws)
  rw [split_spaced hne hws] at hrow
  have hvsne : vs ≠ [] := by
    rintro rfl
    have hempty := (List.append_eq_nil_iff.1 (List.append_eq_nil_iff.1 hab).2).1
    have hsplit := split_spaced hne hws
    rw [hempty, split_nil] at hsplit
    exact (hws [] (hsplit ▸ List.mem_cons_self)).1 rfl
  have hcut : split isBlank (a ++ (spaced ws ++ b)) = vs := by
    rw [hab, split_spaced hvsne hvs]
  cases row with
  | nil =>
    obtain ⟨before, l, -, hvs'⟩ := split_append hrowb a
    rw [hcut] at hvs'
    rw [hrow]
    refine .one (v := l ++ (last ++ piece)) ?_ ?_
    · rw [hvs']
      exact List.mem_append_right _ List.mem_cons_self
    · exact ⟨l, piece, List.append_assoc _ _ _⟩
  | cons first middle =>
    obtain ⟨before, l, -, hvs'⟩ := split_append hrowb a
    rw [hcut] at hvs'
    rw [hrow]
    exact .more hvs' (List.suffix_append _ _) (List.prefix_append _ _)

theorem infix_spaced_iff (hvs : ∀ v ∈ vs, IsWord v) (hws : ∀ w ∈ ws, IsWord w) :
    spaced ws <:+: spaced vs ↔ IsAligned vs ws :=
  ⟨aligned_of_infix_spaced hvs hws, infix_spaced_of_aligned⟩

/-- **A pattern is found exactly where its words stand in a row.**  The words of both sides are
those between the blanks, in upper case.  A pattern without a word is found in every text. -/
theorem occursNormalized_iff_aligned (pattern cs : List Char) :
    occursNormalized pattern cs = true ↔
      IsAligned ((words cs).map upper) ((words pattern).map upper) := by
  unfold occursNormalized
  rw [occursIn_iff, normalize_eq, normalize_eq]
  exact infix_spaced_iff (fun _ hv => isWord_of_mem_map_upper hv)
    fun _ hw => isWord_of_mem_map_upper hw

/-- the space in the text is not in the pattern -/
example : occursNormalized "VARCHAR(200)".toList "VARCHAR (200)".toList = false := by
  decide +kernel

end ProjectAudit.Text
