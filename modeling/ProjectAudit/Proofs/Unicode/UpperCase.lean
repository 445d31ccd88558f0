import ProjectAudit.Proofs.Unicode.Case

/-!
# Upper case is final

A character that comes out of the upper-case mapping is its own upper case
(`upperCase_of_mem_upperCase`).  A character is either left as it is or taken from the images of a
run of the table, and the images of all runs are checked one by one.
-/

namespace ProjectAudit

/-- the characters that a run puts in the place of its own -/
def Run.images (run : Run CaseRule) : List Char :=
  match run.value with
  | .shift step target =>
    (List.range ((run.last - run.first) / step + 1)).map fun k => Char.ofNat (target + k * step)
  | .expand chars => chars

theorem mem_images_shift {first last step target offset : Nat} (hle : offset ≤ last - first)
    (hstep : offset % step = 0) :
    Char.ofNat (target + offset) ∈ Run.images ⟨first, last, .shift step target⟩ := by
  refine List.mem_map.2 ⟨offset / step, ?_, ?_⟩
  · rw [List.mem_range]
    exact Nat.lt_succ_of_le (Nat.div_le_div_right hle)
  · rw [Nat.div_mul_cancel (Nat.dvd_of_mod_eq_zero hstep)]

/-- what is not taken from the table is left as it is -/
theorem mapChar_cases (runs : List (Run CaseRule)) (c : Char) :
    (RangeMap.ofList runs).mapChar c = [c] ∨
      ∀ x ∈ (RangeMap.ofList runs).mapChar c, ∃ run ∈ runs, x ∈ run.images := by
  unfold RangeMap.mapChar
  split
  · rename_i run hf
    obtain ⟨hm, hl, hu⟩ := RangeMap.find?_ofList hf
    obtain ⟨first, last, rule⟩ := run
    cases rule with
    | shift step target =>
      rw [CaseRule.apply]
      split
      · rename_i hstep
        refine .inr fun x hx => ⟨_, hm, ?_⟩
        rw [List.mem_singleton.1 hx]
        exact mem_images_shift (Nat.sub_le_sub_right hu _) hstep
      · exact .inl rfl
    | expand chars => exact .inr fun x hx => ⟨_, hm, hx⟩
  · exact .inl rfl

theorem upperCase_images :
    upperCaseRuns.all (fun run => run.images.all fun x => upperCase x = [x]) = true := by
  decide +kernel

theorem upperCase_of_mem_upperCase {c x : Char} (hx : x ∈ upperCase c) : upperCase x = [x] := by
  by_cases hc : c.toNat < 0x80
  · have hall : ∀ n, n < 0x80 →
        upperCase (Char.ofNat n).toUpper = [(Char.ofNat n).toUpper] := by decide
    rw [upperCase, if_pos hc, List.mem_singleton] at hx
    rw [hx]
    exact forall_ascii (P := fun c => upperCase c.toUpper = [c.toUpper]) hall hc
  · have he : upperCase c = upperCaseMap.mapChar c := if_neg hc
    rcases mapChar_cases upperCaseRuns c with hself | himages
    · have hup : upperCase c = [c] := he.trans hself
      rw [hup, List.mem_singleton] at hx
      rw [hx, hup]
    · obtain ⟨run, hrun, hx⟩ := himages x (he ▸ hx)
      have himage := List.all_eq_true.1 upperCase_images run hrun
      exact of_decide_eq_true (List.all_eq_true.1 himage x hx)

end ProjectAudit
