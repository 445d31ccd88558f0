import ProjectAudit.Document.Condition

/-!
# Needles in two texts

Whether needles stand in a text depends on nothing but which of them do, so a comparison of two
texts needle by needle carries over (`hasAny_mono`, `hasAll_mono` and the two `_congr`).
-/

namespace ProjectAudit.Text
variable {needles : List String} {cs ds : List Char}

theorem hasAny_mono (h : ∀ n ∈ needles, n.toList <:+: cs → n.toList <:+: ds)
    (hh : hasAny needles cs = true) : hasAny needles ds = true := by
  obtain ⟨n, hn, ho⟩ := List.any_eq_true.1 hh
  exact List.any_eq_true.2 ⟨n, hn, occursIn_iff.2 (h n hn (occursIn_iff.1 ho))⟩

theorem hasAll_mono (h : ∀ n ∈ needles, n.toList <:+: cs → n.toList <:+: ds)
    (hh : hasAll needles cs = true) : hasAll needles ds = true := by
  refine List.all_eq_true.2 fun n hn => occursIn_iff.2 (h n hn ?_)
  exact occursIn_iff.1 (List.all_eq_true.1 hh n hn)

theorem hasAny_congr (h : ∀ n ∈ needles, n.toList <:+: cs ↔ n.toList <:+: ds) :
    hasAny needles cs = hasAny needles ds := by
  rw [Bool.eq_iff_iff]
  exact ⟨hasAny_mono fun n hn => (h n hn).1, hasAny_mono fun n hn => (h n hn).2⟩

theorem hasAll_congr (h : ∀ n ∈ needles, n.toList <:+: cs ↔ n.toList <:+: ds) :
    hasAll needles cs = hasAll needles ds := by
  rw [Bool.eq_iff_iff]
  exact ⟨hasAll_mono fun n hn => (h n hn).1, hasAll_mono fun n hn => (h n hn).2⟩

end ProjectAudit.Text
