import ProjectAudit.Proofs.Text.Casing
import ProjectAudit.Proofs.Text.Lines

/-!
# What a longer text keeps

* `isInfix_normalize`: the normal form of a text stands in that of any text around it;
* `headingWithin_append`, `proseAfterTitle_append`: a title and the prose below it stay when more
  text follows, although the last line may go on.
-/

namespace ProjectAudit.Text

theorem isInfix_normalize (before cs later : List Char) :
    normalize cs <:+: normalize (before ++ cs ++ later) :=
  infix_upper (isInfix_spaced_words before cs later)

theorem infix_normalize {cs ds : List Char} (h : cs <:+: ds) : normalize cs <:+: normalize ds := by
  obtain ⟨before, later, rfl⟩ := h
  exact isInfix_normalize before cs later

/-! ## lines -/

/-- the lines of a text stay when more text follows, except that the last may go on -/
theorem exists_lines_append (cs later : List Char) : ∃ before last rest,
    lines cs = before ++ last ∧ lines (cs ++ later) = before ++ rest ∧
      (last = [] ∨ ∃ line line' below, last = [line] ∧ rest = line' :: below ∧
        trim line <+: trim line') := by
  obtain ⟨piece, pieces, hl⟩ := exists_split (· = '\n') later
  obtain ⟨before, last, hc, hcl⟩ := split_append hl cs
  refine ⟨before.map dropReturn, endLines [last], endLines ((last ++ piece) :: pieces), ?_, ?_, ?_⟩
  · rw [lines, hc, endLines_append (List.cons_ne_nil _ _)]
  · rw [lines, hcl, endLines_append (List.cons_ne_nil _ _)]
  · by_cases he : last = []
    · rw [he]
      exact .inl rfl
    have hlast : endLines [last] = [last] := by
      rw [endLines, List.isEmpty_eq_false_iff.2 he, if_neg Bool.false_ne_true]
    have hpre := isPrefix_trim_append last piece
    right
    cases pieces with
    | nil =>
      refine ⟨last, last ++ piece, [], hlast, ?_, hpre⟩
      have hne : (last ++ piece).isEmpty = false :=
        List.isEmpty_eq_false_iff.2 (List.append_ne_nil_of_left_ne_nil he _)
      rw [endLines, hne, if_neg Bool.false_ne_true]
    | cons next later =>
      rw [← trim_dropReturn (last ++ piece)] at hpre
      exact ⟨last, dropReturn (last ++ piece), endLines (next :: later), hlast, rfl, hpre⟩

theorem isTitle_of_isPrefix {l l' : List Char} (h : l <+: l') (ht : isTitle l = true) :
    isTitle l' = true := by
  unfold isTitle at ht ⊢
  rw [List.isPrefixOf_iff_prefix] at ht ⊢
  exact ht.trans h

theorem any_take_append {f : List Char → Bool} {n : Nat} {before last rest : List (List Char)}
    (h : ((before ++ last).take n).any f = true)
    (hr : ∀ m, (last.take m).any f = true → (rest.take m).any f = true) :
    ((before ++ rest).take n).any f = true := by
  rw [List.take_append, List.any_append, Bool.or_eq_true] at h ⊢
  exact h.imp_right (hr _)

theorem headingWithin_append {window : Nat} {cs : List Char} (h : headingWithin window cs = true)
    (later : List Char) : headingWithin window (cs ++ later) = true := by
  obtain ⟨before, last, rest, hc, hcl, hlast⟩ := exists_lines_append cs later
  unfold headingWithin at h ⊢
  rw [hc] at h
  rw [hcl]
  refine any_take_append h fun m hm => ?_
  rcases hlast with rfl | ⟨line, line', below, rfl, rfl, hpre⟩
  · rw [List.take_nil] at hm
    cases hm
  · cases m with
    | zero => cases hm
    | succ m =>
      rw [List.take_succ_cons, List.take_nil, List.any_cons, List.any_nil, Bool.or_false] at hm
      rw [List.take_succ_cons, List.any_cons, isTitle_of_isPrefix hpre hm, Bool.true_or]

theorem byteLength_le_of_isPrefix {l l' : List Char} (h : l <+: l') :
    byteLength l ≤ byteLength l' := by
  obtain ⟨later, rfl⟩ := h
  induction l with
  | nil => exact Nat.zero_le _
  | cons c l ih => exact Nat.add_le_add_left ih _

/-- a line that is no heading is none when it goes on, unless it is empty -/
theorem isHeading_of_isPrefix {l l' : List Char} (h : l <+: l') (hne : l ≠ []) :
    isHeading l' = isHeading l := by
  obtain ⟨later, rfl⟩ := h
  obtain ⟨c, l, rfl⟩ := List.exists_cons_of_ne_nil hne
  rfl

theorem isTitle_eq_false {l : List Char} (h : isHeading l = false) : isTitle l = false := by
  cases l with
  | nil => rfl
  | cons c l =>
    have hc : ('#' == c) = false := by
      rwa [isHeading, List.isPrefixOf_cons_cons, List.isPrefixOf_nil_left, Bool.and_true] at h
    rw [isTitle, List.isPrefixOf_cons_cons, hc, Bool.false_and]

theorem hasProse_append {length : Nat} {titled : Bool} {before last rest : List (List Char)}
    (h : hasProse length titled (before ++ last) = true)
    (hr : ∀ titled, hasProse length titled last = true → hasProse length titled rest = true) :
    hasProse length titled (before ++ rest) = true := by
  induction before generalizing titled with
  | nil => exact hr titled h
  | cons line before ih =>
    rw [List.cons_append, hasProse] at h ⊢
    by_cases ht : isTitle (trim line) = true
    · rw [if_pos ht] at h ⊢
      exact ih h
    · rw [if_neg ht, Bool.or_eq_true] at h ⊢
      exact h.imp_right ih

theorem hasProse_of_isPrefix {length : Nat} {titled : Bool} {line line' : List Char}
    {below : List (List Char)} (hpre : trim line <+: trim line')
    (h : hasProse length titled [line] = true) :
    hasProse length titled (line' :: below) = true := by
  rw [hasProse] at h ⊢
  by_cases ht : isTitle (trim line) = true
  · rw [if_pos ht] at h
    cases h
  · rw [if_neg ht, hasProse, Bool.or_false, Bool.and_eq_true, Bool.and_eq_true] at h
    obtain ⟨⟨htitled, hlen⟩, hhead⟩ := h
    have hlen := of_decide_eq_true hlen
    have hhead : isHeading (trim line) = false := by
      rwa [Bool.not_eq_true'] at hhead
    have hne : trim line ≠ [] := by
      intro he
      rw [he] at hlen
      exact Nat.not_lt_zero _ hlen
    have hle := byteLength_le_of_isPrefix hpre
    have hhead' : isHeading (trim line') = false := by
      rw [isHeading_of_isPrefix hpre hne, hhead]
    rw [isTitle_eq_false hhead', hhead', htitled, decide_eq_true (Nat.lt_of_lt_of_le hlen hle)]
    rfl

theorem proseAfterTitle_append {length : Nat} {cs : List Char}
    (h : proseAfterTitle length cs = true) (later : List Char) :
    proseAfterTitle length (cs ++ later) = true := by
  obtain ⟨before, last, rest, hc, hcl, hlast⟩ := exists_lines_append cs later
  unfold proseAfterTitle at h ⊢
  rw [hc] at h
  rw [hcl]
  refine hasProse_append h fun titled ht => ?_
  rcases hlast with rfl | ⟨line, line', below, rfl, rfl, hpre⟩
  · cases ht
  · exact hasProse_of_isPrefix hpre ht

end ProjectAudit.Text
