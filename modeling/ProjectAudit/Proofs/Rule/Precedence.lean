import ProjectAudit.Proofs.Disk.Entry
import ProjectAudit.Proofs.Rule.Content

/-!
# Which fault of a rule on content is reported

A rule on content is judged in three steps: its pattern is validated, the file is read, and the text
is matched, for which a pattern is validated again.  `Disk.judgeByStep` marks each fault with the
step it comes from.  No fault comes from the last step (`Disk.judgeByStep_ne_matching`), so a blank
pattern is reported whatever the disk holds, a file that cannot be read only for the other checks,
and a text that is read is judged as it is (`Rule.content_precedence`).
-/

namespace ProjectAudit

/-! ## checks -/

namespace ContentCheck
variable {check : ContentCheck}

/-- a check for a pattern of blanks alone -/
def isBlank : ContentCheck → Bool
  | .pattern p => p.isBlank
  | _ => false

/-- whether the text passes; a pattern is validated on its own account -/
def test (text : String) : ContentCheck → Except Fault Bool
  | .pattern p => p.test text
  | check => .ok (check.passes text.toList)

theorem validate_of_isBlank (h : check.isBlank = true) :
    ∃ p, check = .pattern p ∧ check.validate = .error (.blankPattern p.message) := by
  cases check with
  | pattern p => exact ⟨p, rfl, if_pos h⟩
  | predicate q => cases h
  | notEmpty => cases h

theorem validate_of_not_isBlank (h : check.isBlank = false) : check.validate = .ok () := by
  cases check with
  | pattern p => exact if_neg (Bool.eq_false_iff.1 h)
  | predicate q => rfl
  | notEmpty => rfl

/-- what is valid at first is valid again -/
theorem test_of_validate (h : check.validate = .ok ()) (text : String) :
    check.test text = .ok (check.passes text.toList) := by
  cases check with
  | pattern p =>
    have hp : p.validate = .ok () := h
    show p.test text = _
    rw [Pattern.test, hp]
    rfl
  | predicate q => rfl
  | notEmpty => rfl

end ContentCheck

/-! ## step by step -/

/-- the steps in which a rule on content is judged -/
inductive JudgingStep where
  | validating
  | reading
  | matching
  deriving DecidableEq

/-- the judgement of a check, in which each fault is marked with the step it comes from -/
def Disk.judgeByStep (disk : Disk) (target : Target) (check : ContentCheck) :
    Except (JudgingStep × Fault) Verdict := do
  check.validate.mapError (JudgingStep.validating, ·)
  let text ← (disk.readTarget target).mapError (JudgingStep.reading, ·)
  if ← (check.test text).mapError (JudgingStep.matching, ·) then
    return .passed
  else
    return .failed (check.complaint target.display text)

namespace Disk
variable {disk : Disk} {target : Target} {check : ContentCheck}

theorem judgeByStep_of_isBlank (h : check.isBlank = true) :
    ∃ p, check = .pattern p ∧
      disk.judgeByStep target check = .error (.validating, .blankPattern p.message) := by
  obtain ⟨p, hp, hv⟩ := check.validate_of_isBlank h
  refine ⟨p, hp, ?_⟩
  rw [judgeByStep, hv]
  rfl

theorem judgeByStep_of_read_error (h : check.isBlank = false) {e : FileError}
    (hr : disk.read target.absolute = .error e) :
    disk.judgeByStep target check = .error (.reading, .reading target.display e) := by
  rw [judgeByStep, check.validate_of_not_isBlank h, readTarget_of_error hr]
  rfl

theorem judgeByStep_of_read (h : check.isBlank = false) {text : String}
    (hr : disk.read target.absolute = .ok text) :
    disk.judgeByStep target check = .ok (if check.passes text.toList then .passed
      else .failed (check.complaint target.display text)) := by
  -- the second validation is of the same pattern, so it comes to the same as the first one
  have hv := check.validate_of_not_isBlank h
  rw [judgeByStep, hv, readTarget_of_ok hr]
  show (check.test text).mapError (JudgingStep.matching, ·) >>= _ = _
  rw [check.test_of_validate hv]
  show (if check.passes text.toList = true then pure Verdict.passed
    else pure (.failed (check.complaint target.display text)) : Except _ Verdict) = _
  split <;> rfl

/-- the three ways in which a judgement can end -/
theorem judgeByStep_cases (disk : Disk) (target : Target) (check : ContentCheck) :
    (check.isBlank = true ∧ ∃ p, check = .pattern p ∧
        disk.judgeByStep target check = .error (.validating, .blankPattern p.message)) ∨
      (check.isBlank = false ∧ ∃ e, disk.read target.absolute = .error e ∧
        disk.judgeByStep target check = .error (.reading, .reading target.display e)) ∨
      (check.isBlank = false ∧ ∃ text, disk.read target.absolute = .ok text ∧
        disk.judgeByStep target check = .ok (if check.passes text.toList then .passed
          else .failed (check.complaint target.display text))) := by
  cases hb : check.isBlank with
  | true => exact .inl ⟨rfl, judgeByStep_of_isBlank hb⟩
  | false =>
    cases hr : disk.read target.absolute with
    | error e => exact .inr (.inl ⟨rfl, e, rfl, judgeByStep_of_read_error hb hr⟩)
    | ok text => exact .inr (.inr ⟨rfl, text, rfl, judgeByStep_of_read hb hr⟩)

/-- a pattern that has been validated is not found blank after the reading -/
theorem judgeByStep_ne_matching {fault : Fault} :
    disk.judgeByStep target check ≠ .error (.matching, fault) := by
  rcases disk.judgeByStep_cases target check with ⟨-, p, -, h⟩ | ⟨-, e, -, h⟩ | ⟨-, text, -, h⟩ <;>
    rw [h] <;> intro hf <;> cases hf

/-- without the marks, this is how a rule on content is judged -/
theorem judgeContent_eq_judgeByStep :
    disk.judgeContent target check = (disk.judgeByStep target check).mapError (·.2) := by
  rcases disk.judgeByStep_cases target check with
    ⟨hb, p, hp, h⟩ | ⟨hb, e, hr, h⟩ | ⟨hb, text, hr, h⟩
  · obtain ⟨q, hq, hv⟩ := check.validate_of_isBlank hb
    obtain rfl : p = q := ContentCheck.pattern.inj (hp.symm.trans hq)
    rw [h, judgeContent, hv]
    rfl
  · rw [h, judgeContent, check.validate_of_not_isBlank hb, readTarget_of_error hr]
    rfl
  · rw [h, judgeContent, check.validate_of_not_isBlank hb, readTarget_of_ok hr]
    show (if check.passes text.toList = true then pure Verdict.passed
      else pure (.failed (check.complaint target.display text)) : Except Fault Verdict) = .ok _
    split <;> rfl

end Disk

/-! ## results -/

namespace Rule
variable {r : Rule} {check : ContentCheck} {disk : Disk} {text : String}

theorem judge_eq_judgeByStep (hd : r.demand = .content check) (disk : Disk) :
    r.judge disk = (disk.judgeByStep r.target check).mapError (·.2) := by
  rw [judge, hd]
  exact Disk.judgeContent_eq_judgeByStep

/-- the three ways in which a rule on content can be judged -/
theorem judge_cases (hd : r.demand = .content check) (disk : Disk) :
    (check.isBlank = true ∧ ∃ p, check = .pattern p ∧
        r.judge disk = .error (.blankPattern p.message)) ∨
      (check.isBlank = false ∧ ∃ e, disk.read r.target.absolute = .error e ∧
        r.judge disk = .error (.reading r.target.display e)) ∨
      (check.isBlank = false ∧ ∃ text, disk.read r.target.absolute = .ok text ∧
        r.judge disk = .ok (if check.passes text.toList then .passed
          else .failed (check.complaint r.target.display text))) := by
  rw [judge_eq_judgeByStep hd]
  rcases disk.judgeByStep_cases r.target check with
    ⟨hb, p, hp, h⟩ | ⟨hb, e, hr, h⟩ | ⟨hb, text, hr, h⟩ <;> rw [h]
  · exact .inl ⟨hb, p, hp, rfl⟩
  · exact .inr (.inl ⟨hb, e, hr, rfl⟩)
  · exact .inr (.inr ⟨hb, text, hr, rfl⟩)

theorem judge_eq_blankPattern_iff (hd : r.demand = .content check) :
    (∃ message, r.judge disk = .error (.blankPattern message)) ↔ check.isBlank = true := by
  rcases judge_cases hd disk with ⟨hb, p, -, h⟩ | ⟨hb, e, -, h⟩ | ⟨hb, text, -, h⟩ <;>
    simp [h, hb]

theorem judge_eq_reading_iff (hd : r.demand = .content check) :
    (∃ path e, r.judge disk = .error (.reading path e)) ↔
      check.isBlank = false ∧ ∃ e, disk.read r.target.absolute = .error e := by
  rcases judge_cases hd disk with ⟨hb, p, -, h⟩ | ⟨hb, e, hr, h⟩ | ⟨hb, text, hr, h⟩
  · simp [h, hb]
  · simp [h, hb, hr]
  · simp [h, hr]

/-- the result does not depend on the disk -/
theorem result_of_isBlank (hd : r.demand = .content check) (h : check.isBlank = true)
    (suite : String) :
    ∃ p, check = .pattern p ∧ ∀ disk, r.result disk suite = ⟨suite, r.name,
      .failed ("configuration error: empty pattern (message: " ++ quoted p.message ++ ")")⟩ := by
  obtain ⟨p, hp, -⟩ := check.validate_of_isBlank h
  refine ⟨p, hp, fun disk => ?_⟩
  rcases judge_cases hd disk with ⟨-, q, hq, hj⟩ | ⟨hb, -⟩ | ⟨hb, -⟩
  · obtain rfl : p = q := ContentCheck.pattern.inj (hp.symm.trans hq)
    rw [result, hj]
    rfl
  · cases h.symm.trans hb
  · cases h.symm.trans hb

theorem result_of_read_error (hd : r.demand = .content check) (h : check.isBlank = false)
    {e : FileError} (hr : disk.read r.target.absolute = .error e) (suite : String) :
    r.result disk suite = ⟨suite, r.name,
      .failed ("failed to read " ++ r.target.display ++ ": " ++ e.message)⟩ := by
  rw [result, judge_eq_judgeByStep hd, Disk.judgeByStep_of_read_error h hr]
  rfl

theorem result_of_read (hd : r.demand = .content check) (h : check.isBlank = false)
    (hr : disk.read r.target.absolute = .ok text) (suite : String) :
    r.result disk suite = ⟨suite, r.name, if check.passes text.toList then .passed
      else .failed (check.complaint r.target.display text)⟩ := by
  rw [result, judge_eq_judgeByStep hd, Disk.judgeByStep_of_read h hr]
  rfl

/-- **The faults of a rule on content come in a fixed order, and nothing that was seen is lost.**
The rule is judged in three steps, of which the last one never fails.  A blank pattern is a
configuration error whatever the disk holds, and the only one; for any other check a fault means
that the file cannot be read, which on the disk of a tree is so unless the path leads to a file of
valid UTF-8.  Otherwise the check alone decides, and the complaint about a pattern that is missing
has the message, the path, the pattern and the whole text. -/
theorem content_precedence (hd : r.demand = .content check) (suite : String) :
    (∀ disk, r.judge disk = (disk.judgeByStep r.target check).mapError (·.2) ∧
      ∀ fault, disk.judgeByStep r.target check ≠ .error (.matching, fault)) ∧
    (∀ disk, (∃ message, r.judge disk = .error (.blankPattern message)) ↔
      check.isBlank = true) ∧
    (check.isBlank = true → ∃ p, check = .pattern p ∧ ∀ disk, r.result disk suite = ⟨suite, r.name,
      .failed ("configuration error: empty pattern (message: " ++ quoted p.message ++ ")")⟩) ∧
    (∀ disk : Disk, (∃ path e, r.judge disk = .error (.reading path e)) ↔
      check.isBlank = false ∧ ∃ e, disk.read r.target.absolute = .error e) ∧
    (check.isBlank = false → ∀ disk : Disk,
      match disk.read r.target.absolute with
      | .error e => r.result disk suite = ⟨suite, r.name,
          .failed ("failed to read " ++ r.target.display ++ ": " ++ e.message)⟩
      | .ok text =>
        (r.result disk suite).passed = check.passes text.toList ∧
          ∀ p, check = .pattern p → p.occursIn text.toList = false →
            (r.result disk suite).detail = p.message ++ "\n  file: " ++ r.target.display ++
              "\n  expected pattern: " ++ p.text ++ "\n  actual content:\n" ++ text) ∧
    ∀ (t : Tree) cwd text, (t.disk cwd).read r.target.absolute = .ok text ↔
      t.resolve cwd r.target.absolute = .ok (.file text.toUTF8) := by
  refine ⟨fun disk => ⟨judge_eq_judgeByStep hd disk, fun _ => Disk.judgeByStep_ne_matching⟩,
    fun disk => judge_eq_blankPattern_iff hd, fun hb => result_of_isBlank hd hb suite,
    fun disk => judge_eq_reading_iff hd, fun hb disk => ?_, fun t cwd text => Tree.read_eq_ok_iff⟩
  split
  · rename_i e hr
    exact result_of_read_error hd hb hr suite
  · rename_i text hr
    rw [result_of_read hd hb hr]
    refine ⟨?_, ?_⟩
    · show (if check.passes text.toList then Verdict.passed else _).isPassed = _
      cases check.passes text.toList <;> rfl
    · rintro p rfl hp
      have hpass : (ContentCheck.pattern p).passes text.toList = false := hp
      rw [hpass]
      rfl

/-- a blank pattern whether the file is missing or no text, and a pattern that no text was read for
or that is missing -/
theorem results_of_dropped_table :
    let name : FileName := .text "down.sql" (by decide)
    let garbled : Tree := ⟨[(name, .file ⟨#[0xff]⟩)]⟩
    let truncating : Tree := ⟨[(name, .file "truncate users;".toUTF8)]⟩
    let rule (pattern : String) : Rule :=
      ⟨"drop", ⟨"/", "down.sql"⟩, .content (.pattern ⟨pattern, "nothing dropped", .literal⟩)⟩
    let blank (t : Tree) := (rule " \n").result (t.disk t.top) "schema"
    let drop (t : Tree) := (rule "DROP TABLE").result (t.disk t.top) "schema"
    (blank .empty).detail =
        "configuration error: empty pattern (message: \"nothing dropped\")" ∧
      blank garbled = blank .empty ∧
      (drop garbled).detail =
        "failed to read down.sql: stream did not contain valid UTF-8" ∧
      (drop truncating).detail = "nothing dropped\n  file: down.sql\n" ++
        "  expected pattern: DROP TABLE\n  actual content:\ntruncate users;" := by
  intro name garbled truncating rule blank drop
  obtain ⟨-, -, hblank, -⟩ := content_precedence (r := rule " \n") rfl "schema"
  obtain ⟨-, -, -, -, hdrop, hread⟩ := content_precedence (r := rule "DROP TABLE") rfl "schema"
  obtain ⟨p, hp, hblank⟩ := hblank (by decide)
  cases hp
  have hpath : (rule "DROP TABLE").target.absolute = "/down.sql" := by decide
  rw [hpath] at hdrop hread
  have hgarbled := hdrop (by decide) (garbled.disk garbled.top)
  have htruncating := hdrop (by decide) (truncating.disk truncating.top)
  have hdecode : String.fromUTF8? ⟨#[0xff]⟩ = none := dif_neg (by decide +kernel)
  have herror : (garbled.disk garbled.top).read "/down.sql" = .error .notUtf8 := by
    show Found.text (.file ⟨#[0xff]⟩) = _
    rw [Found.text, hdecode]
  rw [herror] at hgarbled
  rw [(hread truncating truncating.top "truncate users;").2 rfl] at htruncating
  refine ⟨?_, ?_, ?_, ?_⟩
  · exact (congrArg RuleResult.detail (hblank _)).trans (by decide +kernel)
  · exact (hblank _).trans (hblank _).symm
  · exact (congrArg RuleResult.detail hgarbled).trans (by decide +kernel)
  · exact (htruncating.2 _ rfl (by decide +kernel)).trans (by decide +kernel)

end Rule

end ProjectAudit
