import ProjectAudit.Catalog.Suite

/-!
# The results of a run

A run has a result for each rule of the suites that are selected, in their order
(`results_runAll`).  No two suites share a name, so the results of a suite are those that carry its
name (`filter_results_runAll`).
-/

namespace ProjectAudit

namespace Report

theorem failedCount_eq_zero_iff {r : Report} : r.failedCount = 0 ↔ r.allPassed = true := by
  rw [failedCount, failures, List.length_eq_zero_iff, List.filter_eq_nil_iff, allPassed,
    List.all_eq_true]
  refine forall₂_congr fun result _ => ?_
  cases result.passed <;> decide

theorem passedCount_eq (r : Report) : r.passedCount = r.results.countP (·.passed) := by
  have h := r.results.length_eq_countP_add_countP (·.passed)
  rw [passedCount, total, failedCount, failures, ← List.countP_eq_length_filter]
  simp only [Bool.not_eq_true, Bool.decide_eq_false] at h
  omega

end Report

namespace Suite

@[simp] theorem selection_nil : selection [] = all := rfl

theorem nodup_selection (only : List String) : (selection only).Nodup :=
  (by decide : all.Nodup).filter _

theorem mem_all (s : Suite) : s ∈ all := by
  cases s <;> decide

theorem name_injective : Function.Injective name := by
  have h : ∀ a ∈ all, ∀ b ∈ all, a.name = b.name → a = b := by decide
  exact fun a b => h a a.mem_all b b.mem_all

end Suite

/-- a result for each rule of each set -/
theorem results_runAll_sets (sets : List RuleSet) (disk : Disk) : (runAll sets disk).results =
    sets.flatMap fun set => set.rules.map (·.result disk set.name) :=
  List.flatMap_map ..

variable {p : Project} {disk : Disk} {only : List String}

theorem results_runAll : (runAll (p.ruleSets disk only) disk).results =
    (Suite.selection only).flatMap fun s => ((s.build p disk).run disk).results := by
  rw [results_runAll_sets, Project.ruleSets, List.flatMap_map]
  rfl

theorem mem_results_runAll {r : RuleResult} : r ∈ (runAll (p.ruleSets disk only) disk).results ↔
    ∃ s ∈ Suite.selection only, ∃ rule ∈ s.rules p disk, rule.result disk s.name = r := by
  rw [results_runAll, List.mem_flatMap]
  exact exists_congr fun s => and_congr_right fun _ => List.mem_map

theorem suite_eq_of_mem_run {s : Suite} {r : RuleResult}
    (h : r ∈ ((s.build p disk).run disk).results) : r.suite = s.name := by
  obtain ⟨rule, -, rfl⟩ := List.mem_map.1 h
  rfl

/-- the results of a suite are kept or dropped together by the name they carry -/
theorem filter_run (keep : String → Bool) (s : Suite) :
    ((s.build p disk).run disk).results.filter (keep ·.suite) =
      if keep s.name then ((s.build p disk).run disk).results else [] := by
  split
  · rename_i hs
    refine List.filter_eq_self.2 fun r hr => ?_
    rwa [suite_eq_of_mem_run hr]
  · rename_i hs
    refine List.filter_eq_nil_iff.2 fun r hr => ?_
    rwa [suite_eq_of_mem_run hr]

theorem filter_results_run {s s' : Suite} :
    ((s'.build p disk).run disk).results.filter (·.suite = s.name) =
      if s' = s then ((s.build p disk).run disk).results else [] := by
  rw [filter_run (· = s.name) s']
  simp only [decide_eq_true_eq, Suite.name_injective.eq_iff]
  split
  · rename_i he
    rw [he]
  · rfl

theorem flatMap_ite_of_mem {α β : Type} [DecidableEq α] {xs : List α} {x : α} {ys : List β}
    (hnodup : xs.Nodup) (hx : x ∈ xs) : (xs.flatMap fun y => if y = x then ys else []) = ys := by
  induction xs with
  | nil => cases hx
  | cons y xs ih =>
    obtain ⟨hy, hnodup⟩ := List.nodup_cons.1 hnodup
    rw [List.flatMap_cons]
    rcases List.mem_cons.1 hx with rfl | hx
    · have hrest : (xs.flatMap fun y => if y = x then ys else []) = [] := by
        refine List.flatMap_eq_nil_iff.2 fun y hys => if_neg ?_
        rintro rfl
        exact hy hys
      rw [if_pos rfl, hrest, List.append_nil]
    · have hne : y ≠ x := by
        rintro rfl
        exact hy hx
      rw [if_neg hne, List.nil_append, ih hnodup hx]

/-- the results of a suite among those of a run -/
theorem filter_results_runAll {s : Suite} (hs : s ∈ Suite.selection only) :
    (runAll (p.ruleSets disk only) disk).results.filter (·.suite = s.name) =
      ((s.build p disk).run disk).results := by
  rw [results_runAll, List.filter_flatMap]
  simp only [filter_results_run]
  exact flatMap_ite_of_mem (Suite.nodup_selection only) hs

end ProjectAudit
