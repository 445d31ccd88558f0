import ProjectAudit.Proofs.Catalog.Checks
import ProjectAudit.Proofs.Document.Needles
import ProjectAudit.Proofs.Rule.Content
import ProjectAudit.Proofs.Text.LineEnd
import ProjectAudit.Report.Text

/-!
# Line ends do not matter

No rule of the catalog looks for a line end.  So a rule on content passes on a text exactly if it
passes on the text with its line ends written another way, and a failure is written alike unless
the text has carriage returns of its own (`Suite.result_returned`).
-/

namespace ProjectAudit
open Text

/-- the text with a carriage return before every line feed -/
def Text.returned (text : String) : String := .ofList (crlf text.toList)

/-! ## checks that look for no line end -/

def Condition.isOneLine : Condition → Bool
  | .headingWithin _ | .proseAfterTitle _ => true
  | .hasAny needles | .hasAll needles | .mentionsAny needles | .mentionsAll needles
  | .shoutsAll needles => needles.all fun needle => Text.isOneLine needle.toList
  | .occurs marker _ => marker ≠ "" && Text.isOneLine marker.toList
  | .both a b | .either a b => a.isOneLine && b.isOneLine

/-- a line end in a pattern that is compared by words is a blank like any other -/
def ContentCheck.isOneLine : ContentCheck → Bool
  | .pattern p =>
    match p.mode with
    | .normalized => true
    | .ignoreCase => Text.isOneLine (lower p.text.toList)
    | .literal => Text.isOneLine p.text.toList
  | .predicate q => q.condition.isOneLine
  | .notEmpty => true

theorem Suite.isOneLine_checks (s : Suite) : ∀ check ∈ s.checks, check.isOneLine = true := by
  have h : s.checks.all (·.isOneLine) = true := by
    cases s <;> decide +kernel
  exact List.all_eq_true.1 h

theorem infix_crlf_of_needles {needles : List String}
    (h : needles.all (fun n => isOneLine n.toList) = true) (cs : List Char) :
    ∀ n ∈ needles, n.toList <:+: crlf cs ↔ n.toList <:+: cs := by
  intro n hn
  exact infix_crlf_iff (List.all_eq_true.1 h n hn) cs

theorem Condition.holds_crlf {condition : Condition} (h : condition.isOneLine = true)
    (cs : List Char) : condition.holds (crlf cs) = condition.holds cs := by
  induction condition with
  | headingWithin window => exact headingWithin_congr (map_trim_lines_crlf cs) window
  | proseAfterTitle length => exact hasProse_congr (map_trim_lines_crlf cs)
  | hasAny needles => exact hasAny_congr (infix_crlf_of_needles h cs)
  | hasAll needles => exact hasAll_congr (infix_crlf_of_needles h cs)
  | mentionsAny needles =>
    show Text.hasAny needles (lower (crlf cs)) = Text.hasAny needles (lower cs)
    rw [lower_crlf]
    exact hasAny_congr (infix_crlf_of_needles h _)
  | mentionsAll needles =>
    show Text.hasAll needles (lower (crlf cs)) = Text.hasAll needles (lower cs)
    rw [lower_crlf]
    exact hasAll_congr (infix_crlf_of_needles h _)
  | shoutsAll needles =>
    show Text.hasAll needles (upper (crlf cs)) = Text.hasAll needles (upper cs)
    rw [upper_crlf]
    exact hasAll_congr (infix_crlf_of_needles h _)
  | occurs marker times =>
    obtain ⟨hne, h1⟩ := Bool.and_eq_true_iff.1 h
    have hl : marker.toList ≠ [] := fun he =>
      of_decide_eq_true hne (String.toList_inj.1 he)
    show occursAtLeast times marker (crlf cs) = occursAtLeast times marker cs
    unfold occursAtLeast
    rw [occurrences_crlf h1 hl]
  | both a b iha ihb =>
    obtain ⟨ha, hb⟩ := Bool.and_eq_true_iff.1 h
    show (a.holds (crlf cs) && b.holds (crlf cs)) = (a.holds cs && b.holds cs)
    rw [iha ha, ihb hb]
  | either a b iha ihb =>
    obtain ⟨ha, hb⟩ := Bool.and_eq_true_iff.1 h
    show (a.holds (crlf cs) || b.holds (crlf cs)) = (a.holds cs || b.holds cs)
    rw [iha ha, ihb hb]

theorem ContentCheck.passes_crlf {check : ContentCheck} (h : check.isOneLine = true)
    (cs : List Char) : check.passes (crlf cs) = check.passes cs := by
  cases check with
  | predicate q => exact Condition.holds_crlf h cs
  | notEmpty =>
    show (!isAllBlank (crlf cs)) = !isAllBlank cs
    rw [isAllBlank_crlf]
  | pattern p =>
    show p.occursIn (crlf cs) = p.occursIn cs
    obtain ⟨text, message, mode⟩ := p
    cases mode with
    | literal => exact occursIn_crlf h cs
    | ignoreCase =>
      show occursIn (lower text.toList) (lower (crlf cs)) = occursIn _ (lower cs)
      rw [lower_crlf]
      exact occursIn_crlf h (lower cs)
    | normalized =>
      show occursNormalized text.toList (crlf cs) = occursNormalized text.toList cs
      unfold occursNormalized Text.normalize
      rw [words_crlf]

/-! ## what is written for a failure -/

/-- the text is quoted behind a line feed, or not at all -/
theorem ContentCheck.lines_complaint (check : ContentCheck) (path : String) :
    (∃ before, ∀ text : String,
      lines (check.complaint path text).toList = before ++ lines text.toList) ∨
    ∃ all, ∀ text : String, check.complaint path text = all := by
  cases check with
  | predicate q => exact .inr ⟨_, fun _ => rfl⟩
  | notEmpty => exact .inr ⟨_, fun _ => rfl⟩
  | pattern p =>
    refine .inl ⟨(split (· = '\n') (p.message ++ "\n  file: " ++ path ++ "\n  expected pattern: " ++
      p.text ++ "\n  actual content:").toList).map dropReturn, fun text => ?_⟩
    rw [← lines_append]
    refine congrArg lines ?_
    have h : "\n  actual content:\n".toList = "\n  actual content:".toList ++ ['\n'] := by rfl
    show (p.message ++ "\n  file: " ++ path ++ "\n  expected pattern: " ++ p.text ++
      "\n  actual content:\n" ++ text).toList = _
    simp only [String.toList_append, h, List.append_assoc, List.singleton_append]

theorem ContentCheck.lines_complaint_returned (check : ContentCheck) (path : String) {text : String}
    (h : '\r' ∉ text.toList) :
    lines (check.complaint path (returned text)).toList =
      lines (check.complaint path text).toList := by
  rcases check.lines_complaint path with ⟨before, hl⟩ | ⟨all, hc⟩
  · rw [hl, hl, returned, String.toList_ofList, lines_crlf h]
  · rw [hc, hc]

theorem RuleResult.failureSpans_congr {a b : RuleResult} (hs : a.suite = b.suite)
    (hn : a.name = b.name) (hp : a.passed = b.passed)
    (hl : lines a.detail.toList = lines b.detail.toList) :
    Report.failureSpans ⟨[a]⟩ = Report.failureSpans ⟨[b]⟩ := by
  have hb : a.failureBlock = b.failureBlock := by
    unfold RuleResult.failureBlock
    rw [hs, hn, hl]
  unfold Report.failureSpans Report.failureBlocks Report.failures
  rw [List.filter_cons, List.filter_cons, hp]
  split
  · rw [List.map_cons, List.map_cons, hb]
  · rfl

/-! ## rules of the catalog -/

/-- for a rule of the catalog, whatever disk its suite was put together on -/
theorem Suite.result_returned {s : Suite} {p : Project} {built disk disk' : Disk} {r : Rule}
    {check : ContentCheck} {text : String} (hr : r ∈ s.rules p built)
    (hd : r.demand = .content check) (ht : disk.read r.target.absolute = .ok text)
    (ht' : disk'.read r.target.absolute = .ok (returned text)) :
    (r.result disk' s.name).passed = (r.result disk s.name).passed ∧
      ('\r' ∉ text.toList → ∀ colour,
        renderSpans colour (Report.failureSpans ⟨[r.result disk' s.name]⟩) =
          renderSpans colour (Report.failureSpans ⟨[r.result disk s.name]⟩)) := by
  have hone := s.isOneLine_checks check (mem_checks hr hd)
  have hpass : check.passes (returned text).toList = check.passes text.toList := by
    rw [returned, String.toList_ofList, ContentCheck.passes_crlf hone]
  have hp : (r.result disk' s.name).passed = (r.result disk s.name).passed := by
    rw [Bool.eq_iff_iff, Rule.passed_of_read hd ht, Rule.passed_of_read hd ht', hpass]
  refine ⟨hp, fun hcr colour => congrArg (renderSpans colour) ?_⟩
  refine RuleResult.failureSpans_congr rfl rfl hp ?_
  unfold RuleResult.detail Rule.result
  rw [Rule.judge_of_read hd ht, Rule.judge_of_read hd ht', hpass]
  cases check.validate with
  | error fault => rfl
  | ok _ =>
    show lines (Verdict.detail (if check.passes text.toList = true then .passed else
      .failed (check.complaint r.target.display (returned text)))).toList =
        lines (Verdict.detail (if check.passes text.toList = true then .passed else
          .failed (check.complaint r.target.display text))).toList
    split
    · rfl
    · exact check.lines_complaint_returned r.target.display hcr

/-- a column is missing from a script of two lines -/
theorem result_returned_columnRule :
    let r := Catalog.Schema.columnRule (.ofRoot ".") "ID"
    let disk := Disk.ofText "title\ncompleted\n"
    let disk' := Disk.ofText "title\r\ncompleted\r\n"
    (r.result disk' "schema").passed = (r.result disk "schema").passed ∧
      ∀ colour, renderSpans colour (Report.failureSpans ⟨[r.result disk' "schema"]⟩) =
        renderSpans colour (Report.failureSpans ⟨[r.result disk "schema"]⟩) := by
  intro r disk disk'
  have hr : r ∈ Suite.schema.rules (.ofRoot ".") disk := by
    refine List.mem_append_left _ (List.mem_append_right _ ?_)
    exact List.mem_map_of_mem (by decide)
  have ht : disk.read r.target.absolute = .ok "title\ncompleted\n" := rfl
  have ht' : disk'.read r.target.absolute = .ok (returned "title\ncompleted\n") := rfl
  obtain ⟨hp, hs⟩ := Suite.result_returned hr rfl ht ht'
  exact ⟨hp, hs (by decide)⟩

end ProjectAudit
