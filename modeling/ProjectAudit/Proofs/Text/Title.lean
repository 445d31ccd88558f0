import ProjectAudit.Proofs.Text.Lines

/-!
# Titles and the prose below them

The scan for prose remembers whether it has come past a title.  What it finds are two lines, a title
and a line of prose somewhere below it (`hasProse_iff`); a window shows a title exactly if it
reaches beyond the first one (`any_take_iff`).

* `prose_below_title`    what it is to have prose below a title, said of the lines alone;
* `title_moved_down`     lines above a text that are no titles move its window and change no more.
-/

namespace ProjectAudit.Text

/-! ## kinds of lines -/

/-- once it is trimmed, the line starts a heading of the first level -/
def IsTitleLine (line : List Char) : Prop := "# ".toList <+: trim line

/-- once it is trimmed, the line has more bytes than `length` and is no heading of any level -/
def IsProseLine (length : Nat) (line : List Char) : Prop :=
  length < (String.ofList (trim line)).utf8ByteSize ∧ ¬ "#".toList <+: trim line

theorem isTitle_trim_iff {line : List Char} : isTitle (trim line) = true ↔ IsTitleLine line :=
  List.isPrefixOf_iff_prefix

theorem isHeading_iff {line : List Char} : isHeading line = true ↔ "#".toList <+: line :=
  List.isPrefixOf_iff_prefix

theorem byteLength_eq (cs : List Char) : byteLength cs = (String.ofList cs).utf8ByteSize := by
  induction cs with
  | nil => rfl
  | cons c cs ih =>
    rw [String.ofList_cons, String.utf8ByteSize_append, String.utf8ByteSize_singleton, ← ih]
    rfl

/-- prose as the scan tests for it -/
theorem isProseLine_iff {length : Nat} {line : List Char} : IsProseLine length line ↔
    (decide (length < byteLength (trim line)) && !isHeading (trim line)) = true := by
  rw [Bool.and_eq_true, decide_eq_true_eq, Bool.not_eq_true', ← Bool.not_eq_true, isHeading_iff,
    byteLength_eq]
  exact Iff.rfl

/-- a title is a heading, so the scan misses no prose by passing over it -/
theorem IsTitleLine.not_isProseLine {line : List Char} (h : IsTitleLine line) (length : Nat) :
    ¬ IsProseLine length line := by
  have hmark : "#".toList <+: "# ".toList := ⟨[' '], rfl⟩
  exact fun hp => hp.2 (hmark.trans h)

theorem IsProseLine.of_le {length length' : Nat} {line : List Char} (h : IsProseLine length line)
    (hle : length' ≤ length) : IsProseLine length' line :=
  ⟨Nat.lt_of_le_of_lt hle h.1, h.2⟩

/-! ## the scan -/

/-- a title, and a line of prose below it -/
def HasProseBelowTitle (length : Nat) (ls : List (List Char)) : Prop :=
  ∃ i j : Nat, i < j ∧ (∃ title ∈ ls[i]?, IsTitleLine title) ∧
    ∃ prose ∈ ls[j]?, IsProseLine length prose

section
variable {length : Nat} {line : List Char} {later ls : List (List Char)}

theorem hasProseBelowTitle_cons : HasProseBelowTitle length (line :: later) ↔
    (IsTitleLine line ∧ ∃ prose ∈ later, IsProseLine length prose) ∨
      HasProseBelowTitle length later := by
  constructor
  · rintro ⟨i, j, hij, ⟨title, hi, ht⟩, prose, hj, hp⟩
    obtain ⟨j, rfl⟩ := Nat.exists_eq_add_one_of_ne_zero (show j ≠ 0 by omega)
    rw [List.getElem?_cons_succ] at hj
    cases i with
    | zero =>
      cases hi
      exact .inl ⟨ht, prose, List.mem_of_getElem? hj, hp⟩
    | succ i =>
      rw [List.getElem?_cons_succ] at hi
      exact .inr ⟨i, j, by omega, ⟨title, hi, ht⟩, prose, hj, hp⟩
  · rintro (⟨ht, prose, hm, hp⟩ | ⟨i, j, hij, ⟨title, hi, ht⟩, prose, hj, hp⟩)
    · obtain ⟨j, hj⟩ := List.mem_iff_getElem?.1 hm
      exact ⟨0, j + 1, by omega, ⟨line, rfl, ht⟩, prose, hj, hp⟩
    · exact ⟨i + 1, j + 1, by omega, ⟨title, hi, ht⟩, prose, hj, hp⟩

theorem hasProse_true_iff :
    hasProse length true ls = true ↔ ∃ prose ∈ ls, IsProseLine length prose := by
  induction ls with
  | nil => simp [hasProse]
  | cons line later ih =>
    simp only [List.mem_cons, exists_eq_or_imp]
    rw [hasProse]
    by_cases ht : isTitle (trim line) = true
    · have hline := (isTitle_trim_iff.1 ht).not_isProseLine length
      rw [if_pos ht, ih]
      exact (or_iff_right hline).symm
    · rw [if_neg ht, Bool.or_eq_true, Bool.true_and, ← isProseLine_iff, ih]

/-- until it comes to a title the scan only goes on -/
theorem hasProse_iff : hasProse length false ls = true ↔ HasProseBelowTitle length ls := by
  induction ls with
  | nil => simp [hasProse, HasProseBelowTitle]
  | cons line later ih =>
    rw [hasProseBelowTitle_cons, hasProse, ← isTitle_trim_iff]
    by_cases ht : isTitle (trim line) = true
    · rw [if_pos ht, hasProse_true_iff]
      constructor
      · exact fun h => .inl ⟨ht, h⟩
      · rintro (⟨-, h⟩ | ⟨_, _, _, _, prose, hj, hp⟩)
        · exact h
        · exact ⟨prose, List.mem_of_getElem? hj, hp⟩
    · rw [if_neg ht, Bool.false_and, Bool.false_and, Bool.false_or, ih]
      exact (or_iff_right fun h => ht h.1).symm

theorem HasProseBelowTitle.of_le {length' : Nat} (h : HasProseBelowTitle length ls)
    (hle : length' ≤ length) : HasProseBelowTitle length' ls := by
  obtain ⟨i, j, hij, htitle, prose, hj, hp⟩ := h
  exact ⟨i, j, hij, htitle, prose, hj, hp.of_le hle⟩

end

/-! ## the window -/

/-- the beginning of a list shows a hit exactly if it reaches beyond the first one -/
theorem any_take_iff {α : Type} {p : α → Bool} {xs : List α} {n : Nat} (h : ∃ x ∈ xs, p x = true) :
    (xs.take n).any p = true ↔ xs.findIdx p < n := by
  induction xs generalizing n with
  | nil => simp at h
  | cons x xs ih =>
    rw [List.findIdx_cons]
    cases n with
    | zero => simp
    | succ n =>
      rw [List.take_succ_cons, List.any_cons]
      cases hx : p x with
      | true => simp
      | false =>
        have hxs : ∃ x ∈ xs, p x = true := by simpa [hx] using h
        rw [Bool.false_or, ih hxs, cond_false, Nat.succ_lt_succ_iff]

/-- the number of the first line that is a title, counted from zero; that of all lines if none is -/
def firstTitle (cs : List Char) : Nat := (lines cs).findIdx fun line => isTitle (trim line)

/-- **Prose below a title is two lines.**  A text has prose of this length below a title exactly if
one of its lines is a title and a later one is prose.  Where it has long prose it has shorter prose,
and then a window shows a title exactly if it reaches beyond the first one. -/
theorem prose_below_title (cs : List Char) (length : Nat) :
    (proseAfterTitle length cs = true ↔ ∃ i j : Nat, i < j ∧
      (∃ title ∈ (lines cs)[i]?, IsTitleLine title) ∧
      ∃ prose ∈ (lines cs)[j]?, IsProseLine length prose) ∧
    (∀ shorter ≤ length, proseAfterTitle length cs = true → proseAfterTitle shorter cs = true) ∧
    (proseAfterTitle length cs = true →
      (∃ title ∈ (lines cs)[firstTitle cs]?, IsTitleLine title) ∧
      (∀ i < firstTitle cs, ∀ line ∈ (lines cs)[i]?, ¬ IsTitleLine line) ∧
      ∀ window, headingWithin window cs = true ↔ firstTitle cs < window) := by
  refine ⟨hasProse_iff, fun shorter hle h => ?_, fun h => ?_⟩
  · exact hasProse_iff.2 ((hasProse_iff.1 h).of_le hle)
  · obtain ⟨i, -, -, ⟨title, hi, ht⟩, -⟩ := hasProse_iff.1 h
    have hex : ∃ line ∈ lines cs, isTitle (trim line) = true :=
      ⟨title, List.mem_of_getElem? hi, isTitle_trim_iff.2 ht⟩
    have hlt : firstTitle cs < (lines cs).length := List.findIdx_lt_length.2 hex
    refine ⟨⟨_, List.getElem?_eq_getElem hlt, ?_⟩, fun k hk line hline hl => ?_, fun window => ?_⟩
    · exact isTitle_trim_iff.1 (List.findIdx_getElem (w := hlt))
    · obtain ⟨hlen, rfl⟩ := List.getElem?_eq_some_iff.1 hline
      have hno := List.not_of_lt_findIdx hk
      rw [isTitle_trim_iff.2 hl] at hno
      cases hno
    · exact any_take_iff hex

/-! ## lines above -/

section
variable {above below : List (List Char)}

theorem any_isTitle_eq_false (h : ∀ line ∈ above, ¬ IsTitleLine line) (n : Nat) :
    ((above.take n).any fun line => isTitle (trim line)) = false := by
  refine List.any_eq_false.2 fun line hl ht => ?_
  exact h line (List.mem_of_mem_take hl) (isTitle_trim_iff.1 ht)

theorem hasProse_append_of_no_title (h : ∀ line ∈ above, ¬ IsTitleLine line) (length : Nat) :
    hasProse length false (above ++ below) = hasProse length false below := by
  induction above with
  | nil => rfl
  | cons line above ih =>
    have hline : ¬ isTitle (trim line) = true := fun ht =>
      h line List.mem_cons_self (isTitle_trim_iff.1 ht)
    rw [List.cons_append, hasProse, if_neg hline, ih fun l hl => h l (List.mem_cons_of_mem _ hl)]
    rfl

end

theorem headingWithin_pos {window : Nat} {cs : List Char} (h : headingWithin window cs = true) :
    0 < window := by
  refine Nat.pos_of_ne_zero ?_
  rintro rfl
  cases h

/-- **Lines above a text move its window.**  Below whole lines none of which is a title, the window
has to be larger by exactly the number of these lines, and there is prose below a title exactly if
there is some in the text alone. -/
theorem title_moved_down {before : List Char}
    (hended : before = [] ∨ before.getLast? = some '\n')
    (huntitled : ∀ line ∈ lines before, ¬ IsTitleLine line) (cs : List Char) :
    (∀ window, headingWithin window (before ++ cs) = true ↔
      (lines before).length < window ∧
        headingWithin (window - (lines before).length) cs = true) ∧
    ∀ length, proseAfterTitle length (before ++ cs) = proseAfterTitle length cs := by
  have hlines := lines_append_of_ended hended cs
  refine ⟨fun window => ?_, fun length => ?_⟩
  · have hwindow : headingWithin window (before ++ cs) =
        headingWithin (window - (lines before).length) cs := by
      unfold headingWithin
      rw [hlines, List.take_append, List.any_append, any_isTitle_eq_false huntitled,
        Bool.false_or]
    rw [hwindow]
    refine ⟨fun h => ⟨?_, h⟩, And.right⟩
    have hpos := headingWithin_pos h
    omega
  · unfold proseAfterTitle
    rw [hlines, hasProse_append_of_no_title huntitled]

/-- the lines above are empty or no heading of the first level, and their ends differ -/
theorem title_moved_down_by_contents :
    let before := "\r\n## Contents\r\n\n#Title\n".toList
    let cs := " # Title\r\na project\r".toList
    (∀ line ∈ lines before, ¬ IsTitleLine line) ∧ (lines before).length = 4 ∧
      headingWithin 4 (before ++ cs) = false ∧ headingWithin 5 (before ++ cs) = true ∧
      proseAfterTitle 8 (before ++ cs) = true ∧ proseAfterTitle 9 (before ++ cs) = false := by
  intro before cs
  have huntitled : ∀ line ∈ lines before, ¬ IsTitleLine line := by
    unfold IsTitleLine
    decide
  obtain ⟨hwindow, hprose⟩ := title_moved_down (.inr (by decide)) huntitled cs
  refine ⟨huntitled, by decide, ?_, ?_, ?_, ?_⟩
  · rw [Bool.eq_false_iff, ne_eq, hwindow]
    decide
  · rw [hwindow]
    decide
  · rw [hprose]
    decide
  · rw [hprose]
    decide

end ProjectAudit.Text
