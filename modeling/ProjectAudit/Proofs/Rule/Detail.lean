import ProjectAudit.Proofs.Rule.Precedence

/-!
# Details

A rule that does not pass says why: no fault has an empty message, and no complaint is empty,
whatever the messages, paths and texts it is put together from.  So a result has passed exactly if
its detail is empty (`Rule.passed_iff_detail`).
-/

namespace ProjectAudit

/-! ## texts of rules -/

def ContentCheck.texts : ContentCheck → List String
  | .pattern p => [p.text, p.message]
  | .predicate p => [p.name, p.description]
  | .notEmpty => []

def Demand.texts : Demand → List String
  | .presence _ => []
  | .content check => check.texts

/-- what is said of the rule in reports and catalogs -/
def Rule.texts (r : Rule) : List String := r.name :: r.target.relative :: r.demand.texts

/-! ## faults and complaints -/

theorem Fault.message_ne_empty (fault : Fault) : fault.message ≠ "" := by
  cases fault with
  | inspection path cause =>
    show "failed to inspect " ++ path ++ ": " ++ cause.message ≠ ""
    simp
  | reading path cause =>
    show "failed to read " ++ path ++ ": " ++ cause.message ≠ ""
    simp
  | blankPattern message =>
    show "configuration error: empty pattern (message: " ++ quoted message ++ ")" ≠ ""
    simp
  | noRoot root =>
    show "project root " ++ root ++ " is not a directory" ≠ ""
    simp

theorem ContentCheck.complaint_ne_empty (check : ContentCheck) (path text : String) :
    check.complaint path text ≠ "" := by
  cases check <;> simp [complaint]

theorem Disk.detail_ne_empty_of_judgePresence {disk : Disk} {target : Target}
    {expectation : Expectation} {detail : String}
    (h : disk.judgePresence target expectation = .ok (.failed detail)) : detail ≠ "" := by
  rcases disk.judgePresence_cases target expectation with ⟨e, -, -, hj⟩ | ⟨observed, -, hj⟩
  · cases hj.symm.trans h
  · have hj := Except.ok.inj (hj.symm.trans h)
    split at hj
    · cases hj
    · cases hj
      simp

/-! ## results -/

namespace Rule
variable {r : Rule} {disk : Disk}

theorem detail_of_judge_ok {verdict : Verdict} (h : r.judge disk = .ok verdict) (suite : String) :
    (r.result disk suite).detail = verdict.detail := by
  simp only [RuleResult.detail, result, h]

/-- what prevents a verdict is told instead of one -/
theorem detail_of_judge_error {fault : Fault} (h : r.judge disk = .error fault) (suite : String) :
    (r.result disk suite).detail = fault.message := by
  simp only [RuleResult.detail, result, h, Verdict.detail]

/-- an expectation that is not met is explained -/
theorem detail_ne_empty_of_judge {detail : String} (h : r.judge disk = .ok (.failed detail)) :
    detail ≠ "" := by
  cases hd : r.demand with
  | presence expectation =>
    rw [judge, hd] at h
    exact Disk.detail_ne_empty_of_judgePresence h
  | content check =>
    rcases judge_cases hd disk with ⟨-, p, -, hj⟩ | ⟨-, e, -, hj⟩ | ⟨-, text, -, hj⟩
    · cases hj.symm.trans h
    · cases hj.symm.trans h
    · have hj := Except.ok.inj (hj.symm.trans h)
      split at hj
      · cases hj
      · cases hj
        exact check.complaint_ne_empty _ _

theorem passed_iff_detail (r : Rule) (disk : Disk) (suite : String) :
    (r.result disk suite).passed = true ↔ (r.result disk suite).detail = "" := by
  unfold RuleResult.passed RuleResult.detail result
  cases hj : r.judge disk with
  | error fault => exact iff_of_false Bool.false_ne_true fault.message_ne_empty
  | ok verdict =>
    cases verdict with
    | passed => exact iff_of_true rfl rfl
    | failed detail => exact iff_of_false Bool.false_ne_true (detail_ne_empty_of_judge hj)

end Rule

end ProjectAudit
