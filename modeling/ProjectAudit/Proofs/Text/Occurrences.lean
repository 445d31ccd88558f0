import ProjectAudit.Document.Condition
import ProjectAudit.Proofs.Text.Search

/-!
# The greatest number of occurrences

A choice of occurrences is a list of places, in any order, at which a marker stands without an
overlap (`IsDisjoint`).  Counting from the left is as good as any choice: the occurrence that is
counted first keeps at most one of the chosen ones from being counted (`length_le_countFrom`).  So
the count is the length of the longest choice (`occursAtLeast_iff_exists_places`).
-/

namespace ProjectAudit.Text
variable {marker before cs : List Char} {places : List Nat}

/-- the marker stands at all of these places, and no two of the occurrences share a character -/
structure IsDisjoint (marker cs : List Char) (places : List Nat) : Prop where
  stands : ∀ i ∈ places, marker <+: cs.drop i
  apart : places.Pairwise fun i j => i + marker.length ≤ j ∨ j + marker.length ≤ i

theorem isDisjoint_nil : IsDisjoint marker cs [] := ⟨by simp, .nil⟩

/-! ## moving the places -/

/-- behind another text -/
theorem IsDisjoint.append (h : IsDisjoint marker cs places) (before : List Char) :
    IsDisjoint marker (before ++ cs) (places.map (before.length + ·)) := by
  refine ⟨?_, List.pairwise_map.2 (h.apart.imp ?_)⟩
  · intro i hi
    obtain ⟨j, hj, rfl⟩ := List.mem_map.1 hi
    rw [List.drop_append]
    have hdrop : before.drop (before.length + j) = [] :=
      List.drop_eq_nil_of_le (Nat.le_add_right _ _)
    rw [hdrop, Nat.add_sub_cancel_left]
    exact h.stands j hj
  · intro i j hij
    omega

/-- and back, for places that do not lie in the text before -/
theorem IsDisjoint.of_append (h : IsDisjoint marker (before ++ cs) places)
    (hle : ∀ i ∈ places, before.length ≤ i) :
    IsDisjoint marker cs (places.map (· - before.length)) := by
  refine ⟨?_, List.pairwise_map.2 (h.apart.imp_of_mem ?_)⟩
  · intro i hi
    obtain ⟨j, hj, rfl⟩ := List.mem_map.1 hi
    have hstands := h.stands j hj
    rwa [List.drop_append, List.drop_eq_nil_of_le (hle j hj)] at hstands
  · intro i j hi hj hij
    have hi := hle i hi
    have hj := hle j hj
    omega

theorem IsDisjoint.filter (h : IsDisjoint marker cs places) (keep : Nat → Bool) :
    IsDisjoint marker cs (places.filter keep) :=
  ⟨fun i hi => h.stands i (List.mem_filter.1 hi).1, h.apart.filter keep⟩

/-! ## counting -/

/-- two occurrences cannot both begin within the length of the marker -/
theorem IsDisjoint.length_near_le_one (h : IsDisjoint marker cs places) :
    (places.filter (· < marker.length)).length ≤ 1 := by
  have hlt : ∀ i ∈ places.filter (· < marker.length), i < marker.length := fun i hi =>
    of_decide_eq_true (List.mem_filter.1 hi).2
  have hapart := (h.filter (· < marker.length)).apart
  cases hn : places.filter (· < marker.length) with
  | nil => exact Nat.zero_le _
  | cons i near =>
    cases near with
    | nil => exact Nat.le_refl _
    | cons j near =>
      rw [hn] at hlt hapart
      have hi := hlt i List.mem_cons_self
      have hj := hlt j (List.mem_cons_of_mem _ List.mem_cons_self)
      have hij := List.rel_of_pairwise_cons hapart List.mem_cons_self
      omega

theorem length_le_countFrom (hm : marker ≠ []) (cs : List Char) :
    ∀ places, IsDisjoint marker cs places → places.length ≤ countFrom marker 0 cs := by
  induction cs using marker_induction hm with
  | nil =>
    intro places h
    cases places with
    | nil => exact Nat.zero_le _
    | cons i places =>
      have hstands := h.stands i List.mem_cons_self
      rw [List.drop_nil] at hstands
      exact absurd (List.prefix_nil.1 hstands) hm
  | found later ih =>
    -- the exchange: what begins within the occurrence that is counted is given up for it
    intro places h
    have hnear := h.length_near_le_one
    have hfar := h.filter (marker.length ≤ ·)
    have hle : ∀ i ∈ places.filter (marker.length ≤ ·), marker.length ≤ i := fun i hi =>
      of_decide_eq_true (List.mem_filter.1 hi).2
    have hlater := ih _ (hfar.of_append hle)
    have hsplit := places.length_eq_countP_add_countP (· < marker.length)
    rw [List.length_map] at hlater
    rw [List.countP_eq_length_filter, List.countP_eq_length_filter] at hsplit
    simp only [decide_eq_true_eq, Nat.not_lt] at hsplit
    rw [countFrom_append hm]
    omega
  | next c cs hp ih =>
    intro places h
    have hle : ∀ i ∈ places, [c].length ≤ i := by
      intro i hi
      cases i with
      | zero => exact absurd (h.stands 0 hi) hp
      | succ i => exact Nat.le_add_left _ _
    have h : IsDisjoint marker ([c] ++ cs) places := h
    have hcs := ih _ (h.of_append hle)
    rw [List.length_map] at hcs
    rwa [countFrom_cons hp]

theorem exists_places_of_hasTimes {k : Nat} (h : HasTimes marker k cs) :
    ∃ places, IsDisjoint marker cs places ∧ places.length = k := by
  induction k generalizing cs with
  | zero => exact ⟨[], isDisjoint_nil, rfl⟩
  | succ k ih =>
    obtain ⟨before, later, rfl, hl⟩ := h
    obtain ⟨places, hplaces, hlength⟩ := ih hl
    have hmoved := hplaces.append (before ++ marker)
    rw [List.append_assoc] at hmoved
    refine ⟨before.length :: places.map ((before ++ marker).length + ·), ⟨?_, ?_⟩, ?_⟩
    · intro i hi
      rcases List.mem_cons.1 hi with rfl | hi
      · rw [List.drop_left]
        exact List.prefix_append _ _
      · exact hmoved.stands i hi
    · refine List.pairwise_cons.2 ⟨?_, hmoved.apart⟩
      intro i hi
      obtain ⟨j, -, rfl⟩ := List.mem_map.1 hi
      rw [List.length_append]
      omega
    · rw [List.length_cons, List.length_map, hlength]

theorem length_le_occurrences (hm : marker ≠ []) (h : IsDisjoint marker cs places) :
    places.length ≤ occurrences marker cs := by
  have hcount := length_le_countFrom hm cs places h
  rw [le_countFrom_iff hm] at hcount
  exact (le_occurrences_iff hm).2 hcount

/-- **Counting from the left finds as many occurrences as can be had.**  A marker that is not empty
occurs at least so many times exactly if so many places can be chosen at which it stands without an
overlap, and the count is the length of a longest choice.  The empty marker stands before every
character and at the end.  Whatever is written before a text and behind it, no occurrence is lost. -/
theorem occursAtLeast_iff_exists_places (text marker : String) (times : Nat) :
    (marker ≠ "" →
      (occursAtLeast times marker text.toList = true ↔
        ∃ places, IsDisjoint marker.toList text.toList places ∧ places.length = times) ∧
      (∃ places, IsDisjoint marker.toList text.toList places ∧
        places.length = occurrences marker.toList text.toList) ∧
      ∀ places, IsDisjoint marker.toList text.toList places →
        places.length ≤ occurrences marker.toList text.toList) ∧
    (occursAtLeast times "" text.toList = true ↔ times ≤ text.length + 1) ∧
    ∀ before later : String, occursAtLeast times marker text.toList = true →
      occursAtLeast times marker (before ++ text ++ later).toList = true := by
  have hcount : ∀ (marker : String) (cs : List Char),
      occursAtLeast times marker cs = true ↔ times ≤ occurrences marker.toList cs :=
    fun _ _ => decide_eq_true_iff
  refine ⟨fun hm => ?_, ?_, fun before later h => ?_⟩
  · have hm : marker.toList ≠ [] := fun he => hm (String.toList_eq_nil_iff.1 he)
    refine ⟨?_, ?_, fun places h => length_le_occurrences hm h⟩
    · rw [hcount, le_occurrences_iff hm]
      constructor
      · exact exists_places_of_hasTimes
      · rintro ⟨places, hplaces, rfl⟩
        exact (le_occurrences_iff hm).1 (length_le_occurrences hm hplaces)
    · exact exists_places_of_hasTimes ((le_occurrences_iff hm).1 (Nat.le_refl _))
  · rw [hcount, ← String.length_toList]
    rfl
  · rw [hcount] at h ⊢
    rw [String.toList_append, String.toList_append]
    exact Nat.le_trans h (occurrences_le_occurrences_append _ _ _ _)

/-- the marker stands at four places, and no three of them are apart -/
theorem occursAtLeast_of_overlaps :
    "aa" ≠ "" ∧ IsDisjoint "aa".toList "aaaaa".toList [3, 0] ∧
      occursAtLeast 2 "aa" "baaaaab".toList = true ∧
      ¬ ∃ places, IsDisjoint "aa".toList "aaaaa".toList places ∧ places.length = 3 := by
  have hm : "aa" ≠ "" := by decide
  have hplaces : IsDisjoint "aa".toList "aaaaa".toList [3, 0] := ⟨by decide, by decide⟩
  obtain ⟨htwo, -, hlonger⟩ := occursAtLeast_iff_exists_places "aaaaa" "aa" 2
  obtain ⟨hthree, -⟩ := occursAtLeast_iff_exists_places "aaaaa" "aa" 3
  refine ⟨hm, hplaces, hlonger "b" "b" ((htwo hm).1.2 ⟨_, hplaces, rfl⟩), fun h => ?_⟩
  exact absurd ((hthree hm).1.2 h) (by decide)

end ProjectAudit.Text
