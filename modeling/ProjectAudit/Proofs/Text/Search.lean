import ProjectAudit.Text.Search

/-!
# Occurrences that do not overlap

Counting from the left and passing over every occurrence as a whole finds as many occurrences as
can be had without an overlap (`le_occurrences_iff`).  What stands around a text takes none of
them away (`occurrences_le_occurrences_append`).
-/

namespace ProjectAudit.Text
variable {marker cs : List Char}

/-- the text holds the marker `k` times without an overlap -/
def HasTimes (marker : List Char) : Nat → List Char → Prop
  | 0, _ => True
  | k + 1, cs => ∃ before later, cs = before ++ (marker ++ later) ∧ HasTimes marker k later

theorem HasTimes.append_left {k : Nat} (h : HasTimes marker k cs) (before : List Char) :
    HasTimes marker k (before ++ cs) := by
  cases k with
  | zero => trivial
  | succ k =>
    obtain ⟨b, l, rfl, hl⟩ := h
    exact ⟨before ++ b, l, (List.append_assoc _ _ _).symm, hl⟩

theorem HasTimes.append_right {k : Nat} (h : HasTimes marker k cs) (later : List Char) :
    HasTimes marker k (cs ++ later) := by
  induction k generalizing cs with
  | zero => trivial
  | succ k ih =>
    obtain ⟨b, l, rfl, hl⟩ := h
    refine ⟨b, l ++ later, ?_, ih hl⟩
    rw [List.append_assoc, List.append_assoc]

/-- dropping no more than the length of the marker takes away one occurrence at most -/
theorem HasTimes.drop {k j : Nat} (h : HasTimes marker (k + 1) cs) (hj : j ≤ marker.length) :
    HasTimes marker k (cs.drop j) := by
  obtain ⟨before, later, rfl, hl⟩ := h
  have hle : j ≤ (before ++ marker).length := by
    rw [List.length_append]
    omega
  rw [← List.append_assoc, List.drop_append_of_le_length hle]
  exact hl.append_left _

theorem HasTimes.tail {k : Nat} {c : Char} (h : HasTimes marker k (c :: cs))
    (hp : ¬ marker <+: c :: cs) : HasTimes marker k cs := by
  cases k with
  | zero => trivial
  | succ k =>
    obtain ⟨before, later, hcs, hl⟩ := h
    cases before with
    | nil => exact absurd ⟨later, hcs.symm⟩ hp
    | cons d before => exact ⟨before, later, (List.cons.inj hcs).2, hl⟩

theorem hasTimes_nil {k : Nat} (hm : marker ≠ []) (h : HasTimes marker k []) : k = 0 := by
  cases k with
  | zero => rfl
  | succ k =>
    obtain ⟨before, later, he, -⟩ := h
    obtain ⟨-, he⟩ := List.append_eq_nil_iff.1 he.symm
    exact absurd (List.append_eq_nil_iff.1 he).1 hm

/-! ## counting -/

theorem countFrom_eq (marker : List Char) (skip : Nat) (cs : List Char) :
    countFrom marker skip cs = countFrom marker 0 (cs.drop skip) := by
  induction cs generalizing skip with
  | nil => cases skip <;> rfl
  | cons c cs ih =>
    cases skip with
    | zero => rfl
    | succ skip => exact ih skip

theorem countFrom_append (hm : marker ≠ []) (later : List Char) :
    countFrom marker 0 (marker ++ later) = countFrom marker 0 later + 1 := by
  obtain ⟨c, rest, rfl⟩ := List.exists_cons_of_ne_nil hm
  have hp : (c :: rest).isPrefixOf (c :: (rest ++ later)) = true :=
    List.isPrefixOf_iff_prefix.2 (List.prefix_append (c :: rest) later)
  rw [List.cons_append, countFrom, if_pos hp, countFrom_eq, List.length_cons, Nat.add_sub_cancel,
    List.drop_left]

theorem countFrom_cons {c : Char} (h : ¬ marker <+: c :: cs) :
    countFrom marker 0 (c :: cs) = countFrom marker 0 cs := by
  rw [← List.isPrefixOf_iff_prefix] at h
  rw [countFrom, if_neg h]

/-- a text is read from the left: an occurrence is passed over as a whole, and otherwise the text
goes on with its next character -/
theorem marker_induction {P : List Char → Prop} (hm : marker ≠ []) (nil : P [])
    (found : ∀ later, P later → P (marker ++ later))
    (next : ∀ c cs, ¬ marker <+: c :: cs → P cs → P (c :: cs)) (cs : List Char) : P cs := by
  have hpos := List.length_pos_iff.2 hm
  have key : ∀ n, ∀ cs : List Char, cs.length ≤ n → P cs := by
    intro n
    induction n with
    | zero =>
      intro cs hn
      rwa [List.eq_nil_of_length_eq_zero (Nat.le_zero.1 hn)]
    | succ n ih =>
      intro cs hn
      by_cases hp : marker <+: cs
      · obtain ⟨later, rfl⟩ := hp
        rw [List.length_append] at hn
        exact found later (ih later (by omega))
      · cases cs with
        | nil => exact nil
        | cons c cs => exact next c cs hp (ih cs (Nat.le_of_succ_le_succ hn))
  exact key cs.length cs (Nat.le_refl _)

theorem le_countFrom_iff {k : Nat} (hm : marker ≠ []) (cs : List Char) :
    k ≤ countFrom marker 0 cs ↔ HasTimes marker k cs := by
  induction cs using marker_induction hm generalizing k with
  | nil =>
    constructor
    · intro h
      rw [Nat.le_zero.1 h]
      trivial
    · intro h
      rw [hasTimes_nil hm h]
      exact Nat.zero_le _
  | found later ih =>
    rw [countFrom_append hm]
    cases k with
    | zero => exact ⟨fun _ => trivial, fun _ => Nat.zero_le _⟩
    | succ k =>
      rw [Nat.add_le_add_iff_right, ih]
      constructor
      · intro h
        exact ⟨[], later, rfl, h⟩
      · intro h
        have hd := h.drop (Nat.le_refl _)
        rwa [List.drop_left] at hd
  | next c cs hp ih =>
    rw [countFrom_cons hp, ih]
    exact ⟨fun h => h.append_left [c], fun h => h.tail hp⟩

theorem le_occurrences_iff {k : Nat} (hm : marker ≠ []) :
    k ≤ occurrences marker cs ↔ HasTimes marker k cs := by
  have ho : occurrences marker cs = countFrom marker 0 cs := by
    unfold occurrences
    rw [List.isEmpty_eq_false_iff.2 hm, if_neg Bool.false_ne_true]
  rw [ho]
  exact le_countFrom_iff hm cs

example : occurrences ['a', 'a'] ['a', 'a', 'a', 'b', 'a', 'a'] = 2 := by decide

theorem occurrences_le_occurrences_append (marker before cs later : List Char) :
    occurrences marker cs ≤ occurrences marker (before ++ cs ++ later) := by
  by_cases hm : marker = []
  · subst hm
    show cs.length + 1 ≤ (before ++ cs ++ later).length + 1
    rw [List.length_append, List.length_append]
    omega
  · rw [le_occurrences_iff hm]
    have h := (le_occurrences_iff hm).1 (Nat.le_refl (occurrences marker cs))
    exact (h.append_left before).append_right later

end ProjectAudit.Text
