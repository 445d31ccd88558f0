import ProjectAudit.Proofs.Rule.Presence

/-!
# The verdict of a rule on content

Once the text of the target is read, it is all that the verdict depends on (`Rule.judge_of_read`).
-/

namespace ProjectAudit

/-- every path leads to a file with this text -/
def Disk.ofText (text : String) : Disk where
  stat _ := .ok .regular
  read _ := .ok text
  list _ := .error .notADirectory

theorem Disk.readTarget_of_ok {disk : Disk} {target : Target} {text : String}
    (h : disk.read target.absolute = .ok text) : disk.readTarget target = .ok text := by
  rw [readTarget, h]

theorem Disk.readTarget_of_error {disk : Disk} {target : Target} {e : FileError}
    (h : disk.read target.absolute = .error e) :
    disk.readTarget target = .error (.reading target.display e) := by
  rw [readTarget, h]

namespace Rule
variable {r : Rule} {check : ContentCheck} {disk : Disk} {text suite : String}

theorem judge_of_read (hd : r.demand = .content check)
    (ht : disk.read r.target.absolute = .ok text) :
    r.judge disk = check.validate.map fun _ =>
      if check.passes text.toList then .passed
      else .failed (check.complaint r.target.display text) := by
  unfold Rule.judge
  rw [hd]
  show disk.judgeContent r.target check = _
  rw [Disk.judgeContent, Disk.readTarget_of_ok ht]
  cases check.validate with
  | error fault => rfl
  | ok _ =>
    show (if check.passes text.toList = true then pure Verdict.passed
      else pure (.failed (check.complaint r.target.display text)) : Except Fault Verdict) = .ok _
    split <;> rfl

theorem passed_of_read (hd : r.demand = .content check)
    (ht : disk.read r.target.absolute = .ok text) :
    (r.result disk suite).passed = true ↔
      check.validate = .ok () ∧ check.passes text.toList = true := by
  rw [Rule.passed_iff, judge_of_read hd ht]
  cases check.validate with
  | error fault => simp [Except.map]
  | ok _ => cases check.passes text.toList <;> simp [Except.map]

end Rule

end ProjectAudit
