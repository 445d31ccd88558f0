import ProjectAudit.Proofs.Disk.Errors
import ProjectAudit.Proofs.Report.Colour
import ProjectAudit.Proofs.Rule.Detail

/-!
# What is shown of a rule

The summary of a rule is put together from its own texts, and the detail of its result from these,
from the message of an error and from the text that was read.  So no sequence for the terminal gets
into them that was not there before (`Rule.hasNoEscape_summary`, `Rule.hasNoEscape_detail`).
-/

namespace ProjectAudit

/-! ## parts of texts -/

@[simp] theorem hasNoEscape_quoted (s : String) : HasNoEscape (quoted s) :=
  not_mem_quoted (by decide) s

theorem Target.hasNoEscape_display {t : Target} (h : HasNoEscape t.relative) :
    HasNoEscape t.display :=
  Path.not_mem_display (by decide) (by decide) h

theorem FileError.IsNamed.hasNoEscape_message {e : FileError} (h : e.IsNamed) :
    HasNoEscape e.message := by
  cases e with
  | other description => exact absurd rfl (h description)
  | _ => decide

theorem Fault.hasNoEscape_inspection {path : String} {e : FileError} (hpath : HasNoEscape path)
    (he : e.IsNamed) : HasNoEscape (Fault.inspection path e).message := by
  show HasNoEscape ("failed to inspect " ++ path ++ ": " ++ e.message)
  simp +decide [hpath, he.hasNoEscape_message]

theorem Fault.hasNoEscape_reading {path : String} {e : FileError} (hpath : HasNoEscape path)
    (he : e.IsNamed) : HasNoEscape (Fault.reading path e).message := by
  show HasNoEscape ("failed to read " ++ path ++ ": " ++ e.message)
  simp +decide [hpath, he.hasNoEscape_message]

theorem Fault.hasNoEscape_blankPattern (message : String) :
    HasNoEscape (Fault.blankPattern message).message := by
  show HasNoEscape ("configuration error: empty pattern (message: " ++ quoted message ++ ")")
  simp +decide

namespace Rule
variable {r : Rule} {disk : Disk} (htexts : ∀ text ∈ r.texts, HasNoEscape text)
include htexts

theorem hasNoEscape_name : HasNoEscape r.name := htexts _ List.mem_cons_self

theorem hasNoEscape_relative : HasNoEscape r.target.relative :=
  htexts _ (List.mem_cons_of_mem _ List.mem_cons_self)

theorem hasNoEscape_targetDisplay : HasNoEscape r.target.display :=
  Target.hasNoEscape_display (hasNoEscape_relative htexts)

theorem hasNoEscape_of_content {check : ContentCheck} (hd : r.demand = .content check) :
    ∀ text ∈ check.texts, HasNoEscape text := by
  intro text ht
  refine htexts text (List.mem_cons_of_mem _ (List.mem_cons_of_mem _ ?_))
  rwa [hd]

theorem hasNoEscape_summary : HasNoEscape r.summary :=
  not_mem_summary (by decide) (hasNoEscape_relative htexts) fun _ hd =>
    hasNoEscape_of_content htexts hd _ (by simp [ContentCheck.texts])

/-! ## details -/

theorem hasNoEscape_complaint {check : ContentCheck} (hd : r.demand = .content check)
    {text : String} (htext : HasNoEscape text) :
    HasNoEscape (check.complaint r.target.display text) := by
  have hpath := hasNoEscape_targetDisplay htexts
  have hcheck := hasNoEscape_of_content htexts hd
  cases check with
  | pattern p =>
    have hpattern : HasNoEscape p.text := hcheck _ (by simp [ContentCheck.texts])
    have hmessage : HasNoEscape p.message := hcheck _ (by simp [ContentCheck.texts])
    simp +decide [ContentCheck.complaint, hpath, hpattern, hmessage, htext]
  | predicate p =>
    have hname : HasNoEscape p.name := hcheck _ (by simp [ContentCheck.texts])
    have hdescription : HasNoEscape p.description := hcheck _ (by simp [ContentCheck.texts])
    simp +decide [ContentCheck.complaint, hpath, hname, hdescription]
  | notEmpty => simp +decide [ContentCheck.complaint, hpath]

/-- what is shown of a presence is the path -/
theorem hasNoEscape_detail_of_presence {expectation : Expectation}
    (hd : r.demand = .presence expectation) (herrors : disk.HasNamedErrors) (suite : String) :
    HasNoEscape (r.result disk suite).detail := by
  have hpath := hasNoEscape_targetDisplay htexts
  have hjudge : r.judge disk = disk.judgePresence r.target expectation := by rw [judge, hd]
  rcases disk.judgePresence_cases r.target expectation with ⟨e, he, -, hj⟩ | ⟨observed, -, hj⟩
  · rw [detail_of_judge_error (hjudge.trans hj)]
    exact Fault.hasNoEscape_inspection hpath (herrors.stat _ e he)
  · rw [detail_of_judge_ok (hjudge.trans hj)]
    split
    · decide
    · have hexpected : HasNoEscape expectation.describe := by cases expectation <;> decide
      have hobserved : HasNoEscape observed.describe := by cases observed <;> decide
      simp +decide [Verdict.detail, hpath, hexpected, hobserved]

theorem hasNoEscape_detail_of_content {check : ContentCheck} (hd : r.demand = .content check)
    (herrors : disk.HasNamedErrors)
    (hread : ∀ text, disk.read r.target.absolute = .ok text → HasNoEscape text) (suite : String) :
    HasNoEscape (r.result disk suite).detail := by
  have hpath := hasNoEscape_targetDisplay htexts
  rcases judge_cases hd disk with ⟨-, p, -, hj⟩ | ⟨-, e, he, hj⟩ | ⟨-, text, ht, hj⟩
  · rw [detail_of_judge_error hj]
    exact Fault.hasNoEscape_blankPattern _
  · rw [detail_of_judge_error hj]
    exact Fault.hasNoEscape_reading hpath (herrors.read _ e he)
  · rw [detail_of_judge_ok hj]
    split
    · decide
    · exact hasNoEscape_complaint htexts hd (hread text ht)

theorem hasNoEscape_detail (herrors : disk.HasNamedErrors)
    (hread : ∀ check, r.demand = .content check →
      ∀ text, disk.read r.target.absolute = .ok text → HasNoEscape text) (suite : String) :
    HasNoEscape (r.result disk suite).detail := by
  cases hd : r.demand with
  | presence expectation => exact hasNoEscape_detail_of_presence htexts hd herrors suite
  | content check => exact hasNoEscape_detail_of_content htexts hd herrors (hread check hd) suite

end Rule

end ProjectAudit
