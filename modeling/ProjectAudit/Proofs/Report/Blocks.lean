import ProjectAudit.Proofs.Report.Failures

/-!
# Reading failure blocks back

The text of the failures is read from its last line up (`readBlocks`): an indented line belongs to
the detail of the heading above it, and a heading with a single line closes its block.  No line of a
detail is taken for a heading or for the blank line between two blocks, because all of them are
indented.  So the blocks are recovered, and the text says no less than they do
(`failureText_unambiguous`).
-/

namespace ProjectAudit
open Text

/-! ## reading -/

/-- what stands before a line of a detail -/
def indent : List Char := [' ', ' ', ' ', ' ']

/-- the first closing bracket of a heading ends the suite, and a space follows it -/
def FailureBlock.ofHeading (heading : String) (lines : List String) : FailureBlock :=
  let names := heading.toList.drop (headingMark false).length
  ⟨.ofList (names.takeWhile (· ≠ ']')), .ofList ((names.dropWhile (· ≠ ']')).drop 2), lines⟩

/-- a line, above lines of a detail that wait for their heading and blocks that are complete -/
def addLine (line : String) (read : List String × List FailureBlock) :
    List String × List FailureBlock :=
  if indent.isPrefixOf line.toList then
    (.ofList (line.toList.drop indent.length) :: read.1, read.2)
  else if isHeadingLine false line then ([], .ofHeading line read.1 :: read.2)
  else read

def readBlocks (text : String) : List FailureBlock := ((textLines text).foldr addLine ([], [])).2

/-! ## the lines of a block -/

namespace RuleResult

/-- the heading is a single line from which both names can be told -/
structure HasPlainHeading (r : RuleResult) : Prop where
  bracket : ']' ∉ r.suite.toList
  suite : '\n' ∉ r.suite.toList
  name : '\n' ∉ r.name.toList

instance (r : RuleResult) : Decidable r.HasPlainHeading :=
  decidable_of_iff (']' ∉ r.suite.toList ∧ '\n' ∉ r.suite.toList ∧ '\n' ∉ r.name.toList)
    ⟨fun ⟨bracket, suite, name⟩ => ⟨bracket, suite, name⟩, fun h => ⟨h.bracket, h.suite, h.name⟩⟩

variable {r : RuleResult}

theorem toList_heading (r : RuleResult) : (r.heading false).toList =
    (headingMark false).toList ++ (r.suite.toList ++ ']' :: ' ' :: r.name.toList) := by
  simp [heading, headingMark, Span.render, Span.red, Span.bold]

theorem ofHeading_heading (h : ']' ∉ r.suite.toList) (lines : List String) :
    FailureBlock.ofHeading (r.heading false) lines = ⟨r.suite, r.name, lines⟩ := by
  have hpass : ∀ c ∈ r.suite.toList, decide (c ≠ ']') = true := by
    intro c hc
    rw [decide_eq_true_eq]
    rintro rfl
    exact h hc
  have hsuite : (r.suite.toList ++ ']' :: ' ' :: r.name.toList).takeWhile (· ≠ ']') =
      r.suite.toList := by
    rw [List.takeWhile_append_of_pos hpass]
    simp
  have hname : (r.suite.toList ++ ']' :: ' ' :: r.name.toList).dropWhile (· ≠ ']') =
      ']' :: ' ' :: r.name.toList := by
    rw [List.dropWhile_append_of_pos hpass]
    simp
  have hnames : (r.heading false).toList.drop (headingMark false).length =
      r.suite.toList ++ ']' :: ' ' :: r.name.toList := by
    rw [toList_heading, ← String.length_toList, List.drop_left]
  simp only [FailureBlock.ofHeading, hnames, hsuite, hname, List.drop_succ_cons, List.drop_zero,
    String.ofList_toList]

theorem addLine_heading (h : ']' ∉ r.suite.toList) (lines : List String)
    (blocks : List FailureBlock) :
    addLine (r.heading false) (lines, blocks) = ([], ⟨r.suite, r.name, lines⟩ :: blocks) := by
  have hindent : indent.isPrefixOf (r.heading false).toList = false := by
    rw [toList_heading]
    rfl
  have hmark : isHeadingLine false (r.heading false) = true := by
    rw [isHeadingLine, List.isPrefixOf_iff_prefix, toList_heading]
    exact List.prefix_append _ _
  rw [addLine, hindent, if_neg Bool.false_ne_true, if_pos hmark, ofHeading_heading h]

theorem addLine_detail (line : String) (lines : List String) (blocks : List FailureBlock) :
    addLine ("    " ++ line) (lines, blocks) = (line :: lines, blocks) := by
  have ht : ("    " ++ line).toList = indent ++ line.toList := String.toList_append
  have hindent : indent.isPrefixOf (indent ++ line.toList) = true :=
    List.isPrefixOf_iff_prefix.2 (List.prefix_append _ _)
  rw [addLine, ht, if_pos hindent, List.drop_left, String.ofList_toList]

theorem foldr_addLine_details (lines : List String) (blocks : List FailureBlock) :
    (lines.map ("    " ++ ·)).foldr addLine ([], blocks) = (lines, blocks) := by
  induction lines with
  | nil => rfl
  | cons line lines ih => rw [List.map_cons, List.foldr_cons, ih, addLine_detail]

/-- from the end of a block to its beginning -/
theorem foldr_addLine_blockLines (h : ']' ∉ r.suite.toList) (blocks : List FailureBlock) :
    (r.blockLines false).foldr addLine ([], blocks) = ([], r.failureBlock :: blocks) := by
  rw [blockLines, List.foldr_cons, List.foldr_cons, foldr_addLine_details, addLine_heading h]
  rfl

theorem newline_not_mem_blockLines (h : r.HasPlainHeading) :
    ∀ line ∈ r.blockLines false, '\n' ∉ line.toList := by
  intro line hline
  rcases List.mem_cons.1 hline with rfl | hline
  · decide
  rcases List.mem_cons.1 hline with rfl | hline
  · rw [newline_mem_heading, not_or]
    exact ⟨h.suite, h.name⟩
  · obtain ⟨detail, hd, rfl⟩ := List.mem_map.1 hline
    have hdetail := newline_not_mem_detail hd
    simpa using hdetail

end RuleResult

/-! ## the text of the failures -/

theorem foldr_addLine_flatMap {rs : List RuleResult} (h : ∀ r ∈ rs, r.HasPlainHeading) :
    (rs.flatMap (·.blockLines false)).foldr addLine ([], []) =
      ([], rs.map (·.failureBlock)) := by
  induction rs with
  | nil => rfl
  | cons r rs ih =>
    have hrs := ih fun s hs => h s (List.mem_cons_of_mem _ hs)
    have hr := (h r List.mem_cons_self).bracket
    rw [List.flatMap_cons, List.foldr_append, hrs, RuleResult.foldr_addLine_blockLines hr,
      List.map_cons]

theorem Report.readBlocks_failureText {report : Report}
    (h : ∀ r ∈ report.failures, r.HasPlainHeading) :
    readBlocks report.failureText = report.failureBlocks := by
  have hlines : ∀ line ∈ report.failures.flatMap (·.blockLines false), '\n' ∉ line.toList := by
    intro line hline
    obtain ⟨r, hr, hline⟩ := List.mem_flatMap.1 hline
    exact RuleResult.newline_not_mem_blockLines (h r hr) line hline
  have hend : [""].foldr addLine ([], []) = ([], []) := by decide
  unfold readBlocks failureText
  rw [renderSpans_failureSpans, textLines_joinLines hlines, List.foldr_append, hend,
    foldr_addLine_flatMap h]
  rfl

/-- **The text of the failures is unambiguous.**  Where the headings of two reports are plain, the
suite, the rule and the lines of the detail of every failure are read back from the text in their
order, whatever the details say.  So the texts of the two reports are the same exactly if they agree
on all of these. -/
theorem Report.failureText_unambiguous {report other : Report}
    (h : ∀ r ∈ report.failures, r.HasPlainHeading)
    (ho : ∀ r ∈ other.failures, r.HasPlainHeading) :
    let shown := fun r : RuleResult =>
      FailureBlock.mk r.suite r.name ((Text.lines r.detail.toList).map .ofList)
    readBlocks report.failureText = report.failures.map shown ∧
      (report.failureText = other.failureText ↔
        report.failures.map shown = other.failures.map shown) := by
  intro shown
  have hread : readBlocks report.failureText = report.failures.map shown :=
    readBlocks_failureText h
  have hother : readBlocks other.failureText = other.failures.map shown :=
    readBlocks_failureText ho
  refine ⟨hread, fun he => ?_, fun he => ?_⟩
  · rw [← hread, he, hother]
  · have hblocks : report.failureBlocks = other.failureBlocks := he
    rw [failureText, failureText, failureSpans, failureSpans, hblocks]

/-- the detail of one report has lines like those of a blank line and a heading -/
theorem Report.failureText_of_quoted_heading :
    let quoting : Report := ⟨[⟨"schema", "a", .failed "b\r\n\nFAIL [schema] c"⟩]⟩
    let other : Report := ⟨[⟨"schema", "a", .failed "b\r"⟩, ⟨"schema", "c", .failed ""⟩]⟩
    ((∀ r ∈ quoting.failures, r.HasPlainHeading) ∧ ∀ r ∈ other.failures, r.HasPlainHeading) ∧
      readBlocks quoting.failureText = [⟨"schema", "a", ["b", "", "FAIL [schema] c"]⟩] ∧
      quoting.failureText ≠ other.failureText := by
  intro quoting other
  have hq : ∀ r ∈ quoting.failures, r.HasPlainHeading := by decide
  have ho : ∀ r ∈ other.failures, r.HasPlainHeading := by decide
  obtain ⟨hread, heq⟩ := failureText_unambiguous hq ho
  refine ⟨⟨hq, ho⟩, hread.trans (by decide), fun he => ?_⟩
  exact absurd (heq.1 he) (by decide)

end ProjectAudit
