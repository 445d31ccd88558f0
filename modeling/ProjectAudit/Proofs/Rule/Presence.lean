import ProjectAudit.Catalog.Basic

/-!
# When a rule on presence passes

A rule on presence passes by what the operating system says about its path: something that is no
directory passes for a file, only a directory for a directory, and only a path that leads nowhere
for an absent one.
-/

namespace ProjectAudit

/-- the two ways in which a presence can be judged: a path that cannot be looked at is a fault, and
otherwise what is there meets the expectation or is told -/
theorem Disk.judgePresence_cases (disk : Disk) (target : Target) (expectation : Expectation) :
    (∃ e, disk.stat target.absolute = .error e ∧ e.isAbsence = false ∧
        disk.judgePresence target expectation = .error (.inspection target.display e)) ∨
      ∃ observed, disk.probe target = .ok observed ∧
        disk.judgePresence target expectation = .ok (if expectation.isMet observed then .passed
          else .failed ("expected " ++ target.display ++ " to be " ++ expectation.describe ++
            ", found " ++ observed.describe)) := by
  have hjudge : ∀ observed, disk.probe target = .ok observed →
      disk.judgePresence target expectation = .ok (if expectation.isMet observed then .passed
        else .failed ("expected " ++ target.display ++ " to be " ++ expectation.describe ++
          ", found " ++ observed.describe)) := by
    intro observed ho
    rw [judgePresence, ho]
    show (if expectation.isMet observed = true then pure Verdict.passed
      else pure (.failed _) : Except Fault Verdict) = _
    split <;> rfl
  cases hs : disk.stat target.absolute with
  | ok kind =>
    have hprobe : disk.probe target = .ok (.ofKind kind) := by rw [probe, hs]
    exact .inr ⟨_, hprobe, hjudge _ hprobe⟩
  | error e =>
    cases ha : e.isAbsence with
    | true =>
      have hprobe : disk.probe target = .ok .nothing := by simp only [probe, hs, ha, if_true]
      exact .inr ⟨_, hprobe, hjudge _ hprobe⟩
    | false =>
      have hprobe : disk.probe target = .error (.inspection target.display e) := by
        simp only [probe, hs, ha, Bool.false_eq_true, if_false]
      refine .inl ⟨e, rfl, ha, ?_⟩
      rw [judgePresence, hprobe]
      rfl

theorem Rule.passed_iff {r : Rule} {disk : Disk} {suite : String} :
    (r.result disk suite).passed = true ↔ r.judge disk = .ok .passed := by
  unfold RuleResult.passed Rule.result
  cases r.judge disk with
  | error fault => simp [Verdict.isPassed]
  | ok verdict => cases verdict <;> simp [Verdict.isPassed]

namespace Project
variable {p : Project} {disk : Disk} {suite name path : String}

/-- a presence is judged by what is at the path, or by the absence of anything -/
theorem passed_presence_iff {expectation : Expectation} :
    ((p.presence name path expectation).result disk suite).passed = true ↔
      (∃ kind, disk.stat (Path.join p.root path) = .ok kind ∧
          expectation.isMet (.ofKind kind) = true) ∨
        ∃ e, disk.stat (Path.join p.root path) = .error e ∧ e.isAbsence = true ∧
          expectation.isMet .nothing = true := by
  rw [Rule.passed_iff]
  show disk.judgePresence ⟨p.root, path⟩ expectation = _ ↔ _
  unfold Disk.judgePresence Disk.probe Target.absolute
  cases disk.stat (Path.join p.root path) with
  | error e =>
    cases he : e.isAbsence <;> cases expectation <;>
      simp [bind, Except.bind, pure, Except.pure, he, Expectation.isMet]
  | ok kind =>
    cases kind <;> cases expectation <;>
      simp [bind, Except.bind, pure, Except.pure, Observation.ofKind, Expectation.isMet]

theorem passed_file_iff :
    ((p.presence name path .file).result disk suite).passed = true ↔
      ∃ kind, disk.stat (Path.join p.root path) = .ok kind ∧ kind ≠ .directory := by
  have hk : ∀ kind, Expectation.isMet .file (.ofKind kind) = true ↔ kind ≠ .directory := by
    intro kind
    cases kind <;> decide
  have hn : Expectation.isMet .file .nothing = false := rfl
  rw [passed_presence_iff]
  simp [hk, hn]

theorem passed_directory_iff :
    ((p.presence name path .directory).result disk suite).passed = true ↔
      disk.stat (Path.join p.root path) = .ok .directory := by
  have hk : ∀ kind, Expectation.isMet .directory (.ofKind kind) = true ↔ kind = .directory := by
    intro kind
    cases kind <;> decide
  have hn : Expectation.isMet .directory .nothing = false := rfl
  rw [passed_presence_iff]
  simp [hk, hn]

theorem passed_absent_iff :
    ((p.presence name path .absent).result disk suite).passed = true ↔
      ∃ e, disk.stat (Path.join p.root path) = .error e ∧ e.isAbsence = true := by
  have hk : ∀ kind, Expectation.isMet .absent (.ofKind kind) = false := by
    intro kind
    cases kind <;> rfl
  have hn : Expectation.isMet .absent .nothing = true := rfl
  rw [passed_presence_iff]
  simp [hk, hn]

end Project

end ProjectAudit
