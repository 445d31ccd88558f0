import ProjectAudit.Proofs.Disk.Insert
import ProjectAudit.Proofs.Rule.Precedence

/-!
# Rules that go on passing

A rule that passes has found something, unless it is against something.  So it passes with the same
result as long as what was there is kept (`Rule.result_of_isKept`).
-/

namespace ProjectAudit.Rule
variable {r : Rule} {check : ContentCheck} {disk disk' : Disk} {suite : String}

theorem exists_read_of_passed (hd : r.demand = .content check)
    (hp : (r.result disk suite).passed = true) :
    ∃ text, disk.read r.target.absolute = .ok text := by
  have hpassed := Rule.passed_iff.1 hp
  rcases judge_cases hd disk with ⟨-, p, -, hj⟩ | ⟨-, e, -, hj⟩ | ⟨-, text, hread, -⟩
  · cases hj.symm.trans hpassed
  · cases hj.symm.trans hpassed
  · exact ⟨text, hread⟩

/-- nothing but the name of the rule is in a result without a complaint -/
theorem result_eq_of_passed (h : (r.result disk suite).passed = true)
    (h' : (r.result disk' suite).passed = true) : r.result disk' suite = r.result disk suite := by
  unfold result
  rw [Rule.passed_iff.1 h, Rule.passed_iff.1 h']

theorem passed_of_isKept (h : disk.IsKept disk') (hne : r.demand ≠ .presence .absent)
    (hp : (r.result disk suite).passed = true) : (r.result disk' suite).passed = true := by
  obtain ⟨name, ⟨root, path⟩, demand⟩ := r
  cases demand with
  | content check =>
    obtain ⟨text, hread⟩ := exists_read_of_passed rfl hp
    exact (passed_of_read rfl (h.read hread)).2 ((passed_of_read rfl hread).1 hp)
  | presence expectation =>
    change (((Project.ofRoot root).presence name path expectation).result disk suite).passed =
      true at hp
    show (((Project.ofRoot root).presence name path expectation).result disk' suite).passed = true
    cases expectation with
    | file =>
      obtain ⟨kind, hs, hk⟩ := Project.passed_file_iff.1 hp
      exact Project.passed_file_iff.2 ⟨kind, h.stat hs, hk⟩
    | directory => exact Project.passed_directory_iff.2 (h.stat (Project.passed_directory_iff.1 hp))
    | absent => exact absurd rfl hne

theorem result_of_isKept (h : disk.IsKept disk') (hne : r.demand ≠ .presence .absent)
    (hp : (r.result disk suite).passed = true) : r.result disk' suite = r.result disk suite :=
  result_eq_of_passed hp (passed_of_isKept h hne hp)

end ProjectAudit.Rule
