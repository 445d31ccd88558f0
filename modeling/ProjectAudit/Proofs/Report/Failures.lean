import ProjectAudit.Proofs.Catalog.Names
import ProjectAudit.Proofs.Report.Lines
import ProjectAudit.Proofs.Text.Lines

/-!
# Failure blocks and their headings

A failure is written as a blank line, a heading with the suite and the name of the rule, and the
detail line by line.  The detail is indented, so no line of it looks like a heading, whatever text
it quotes: read back line by line, all that looks like a heading is a line of one
(`headings_failureSpans`).  So every failure has a heading, and the headings are those of the
failures exactly if no script that is found has a line feed in its name (`headings_runAll_iff`).
-/

namespace ProjectAudit
open Text Migration

variable {colour : Bool}

/-! ## the lines of a block -/

namespace RuleResult

/-- the heading of a block, without its end -/
def heading (colour : Bool) (r : RuleResult) : String :=
  (Span.red "FAIL").render colour ++ " [" ++ r.suite ++ "] " ++ (Span.bold r.name).render colour

/-- a blank line, the heading and the lines of the detail -/
def blockLines (colour : Bool) (r : RuleResult) : List String :=
  "" :: r.heading colour :: r.failureBlock.lines.map ("    " ++ ·)

theorem renderSpans_failureBlock (r : RuleResult) :
    renderSpans colour r.failureBlock.spans = joinLines (r.blockLines colour) := by
  have hplain : ∀ text, (Span.plain text).render colour = text := fun text => by
    cases colour <;> rfl
  have hdetail : ∀ ls : List String,
      renderSpans colour (ls.map fun line => .plain ("    " ++ line ++ "\n")) =
        joinLines (ls.map ("    " ++ ·)) := by
    intro ls
    unfold renderSpans joinLines
    rw [List.map_map, List.map_map]
    refine congrArg String.join (List.map_congr_left fun line _ => ?_)
    exact hplain _
  unfold FailureBlock.spans blockLines
  rw [renderSpans_append, hdetail, joinLines_cons, joinLines_cons]
  simp [renderSpans, hplain, heading, failureBlock, String.append_assoc]

theorem newline_not_mem_detail {r : RuleResult} {line : String}
    (h : line ∈ r.failureBlock.lines) : '\n' ∉ line.toList := by
  obtain ⟨cs, hcs, rfl⟩ := List.mem_map.1 h
  rw [String.toList_ofList]
  exact newline_not_mem_of_mem_lines hcs

theorem newline_mem_heading {r : RuleResult} :
    '\n' ∈ (r.heading colour).toList ↔ '\n' ∈ r.suite.toList ∨ '\n' ∈ r.name.toList := by
  simp [heading, newline_mem_render, Span.red, Span.bold]

end RuleResult

theorem Report.renderSpans_failureSpans (report : Report) :
    renderSpans colour report.failureSpans =
      joinLines (report.failures.flatMap (·.blockLines colour)) := by
  unfold failureSpans failureBlocks
  rw [List.flatMap_map, renderSpans_flatMap, joinLines_flatMap]
  simp only [RuleResult.renderSpans_failureBlock]

/-! ## what looks like a heading -/

/-- what a heading begins with -/
def headingMark (colour : Bool) : String := (Span.red "FAIL").render colour ++ " ["

def isHeadingLine (colour : Bool) (line : String) : Bool :=
  (headingMark colour).toList.isPrefixOf line.toList

/-- the lines of a text that look like the heading of a block -/
def headings (colour : Bool) (text : String) : List String :=
  (textLines text).filter (isHeadingLine colour)

/-- a heading is neither empty nor indented -/
theorem isHeadingLine_eq_false {line : String}
    (h : line = "" ∨ line.toList.head? = some ' ') : isHeadingLine colour line = false := by
  rw [Bool.eq_false_iff]
  intro hp
  obtain ⟨later, hl⟩ := List.isPrefixOf_iff_prefix.1 hp
  have hmark : ((headingMark colour).toList ++ later).head? ≠ none ∧
      ((headingMark colour).toList ++ later).head? ≠ some ' ' := by
    cases colour <;> simp [headingMark, Span.render, Span.red, rendition]
  rw [hl] at hmark
  rcases h with rfl | h
  · exact hmark.1 rfl
  · exact hmark.2 h

/-- of the lines of a block only those of its heading look like a heading -/
theorem flatMap_headings_blockLines (r : RuleResult) :
    (r.blockLines colour).flatMap (headings colour) = headings colour (r.heading colour) := by
  have hempty : headings colour "" = [] := by
    cases colour <;> decide
  have hdetail : (r.failureBlock.lines.map ("    " ++ ·)).flatMap (headings colour) = [] := by
    refine List.flatMap_eq_nil_iff.2 fun line hline => ?_
    obtain ⟨detail, hd, rfl⟩ := List.mem_map.1 hline
    have hn : '\n' ∉ ("    " ++ detail).toList := by
      simp [RuleResult.newline_not_mem_detail hd]
    have hindent : ("    " ++ detail).toList.head? = some ' ' := by simp
    rw [headings, textLines_eq_singleton hn,
      List.filter_cons_of_neg (Bool.eq_false_iff.1 (isHeadingLine_eq_false (.inr hindent))),
      List.filter_nil]
  rw [RuleResult.blockLines, List.flatMap_cons, List.flatMap_cons, hempty, hdetail,
    List.nil_append, List.append_nil]

/-- what looks like a heading is a line of one -/
theorem headings_failureSpans (report : Report) :
    headings colour (renderSpans colour report.failureSpans) =
      report.failures.flatMap fun r => headings colour (r.heading colour) := by
  have hempty : [""].filter (isHeadingLine colour) = [] := by
    cases colour <;> decide
  rw [report.renderSpans_failureSpans, headings, textLines_joinLines_eq, List.filter_append, hempty,
    List.append_nil, List.filter_flatMap, List.flatMap_assoc]
  exact List.flatMap_congr fun r _ => flatMap_headings_blockLines r

theorem headings_heading {r : RuleResult} (h : '\n' ∉ (r.heading colour).toList) :
    headings colour (r.heading colour) = [r.heading colour] := by
  have hmark : isHeadingLine colour (r.heading colour) = true := by
    refine List.isPrefixOf_iff_prefix.2 ?_
    simp [headingMark, RuleResult.heading]
  rw [headings, textLines_eq_singleton h, List.filter_cons_of_pos hmark, List.filter_nil]

/-- the first line of a heading looks like one, whatever the name of the rule -/
theorem headings_heading_ne_nil (r : RuleResult) : headings colour (r.heading colour) ≠ [] := by
  have hmark : '\n' ∉ (headingMark colour).toList := by
    cases colour <;> decide
  have hsplit : r.heading colour =
      headingMark colour ++ (r.suite ++ "] " ++ (Span.bold r.name).render colour) := by
    simp [RuleResult.heading, headingMark, String.append_assoc]
  obtain ⟨line, later, hlines⟩ := exists_textLines_append hmark
    (r.suite ++ "] " ++ (Span.bold r.name).render colour)
  have hline : isHeadingLine colour (headingMark colour ++ line) = true := by
    refine List.isPrefixOf_iff_prefix.2 ?_
    simp
  rw [hsplit, headings, hlines, List.filter_cons_of_pos hline]
  exact List.cons_ne_nil _ _

/-! ## reports -/

/-- no element is dropped if each has something to show for it -/
theorem length_le_length_flatMap {α β : Type} {xs : List α} {f : α → List β}
    (h : ∀ x ∈ xs, f x ≠ []) : xs.length ≤ (xs.flatMap f).length := by
  induction xs with
  | nil => exact Nat.le_refl _
  | cons x xs ih =>
    have hx := List.length_pos_iff.2 (h x List.mem_cons_self)
    have hxs := ih fun y hy => h y (List.mem_cons_of_mem _ hy)
    rw [List.flatMap_cons, List.length_append, List.length_cons]
    omega

namespace Report
variable (report : Report)

/-- no failure is without a heading -/
theorem failedCount_le_length_headings :
    report.failedCount ≤ (headings colour (renderSpans colour report.failureSpans)).length := by
  rw [headings_failureSpans]
  exact length_le_length_flatMap fun r _ => headings_heading_ne_nil r

/-- a failure whose heading goes on in a line that looks like another one makes one too many -/
theorem failedCount_lt_length_headings {r : RuleResult} (hr : r ∈ report.failures)
    (h : 1 < (headings colour (r.heading colour)).length) :
    report.failedCount < (headings colour (renderSpans colour report.failureSpans)).length := by
  obtain ⟨before, later, hsplit⟩ := List.append_of_mem hr
  have hone : ∀ rs : List RuleResult,
      rs.length ≤ (rs.flatMap fun r => headings colour (r.heading colour)).length :=
    fun rs => length_le_length_flatMap fun r _ => headings_heading_ne_nil r
  have hbefore := hone before
  have hlater := hone later
  rw [headings_failureSpans, failedCount, hsplit, List.flatMap_append, List.flatMap_cons]
  simp only [List.length_append, List.length_cons]
  omega

/-- the headings are those of the failures unless one of these fills more than a line -/
theorem headings_eq_iff :
    headings colour (renderSpans colour report.failureSpans) =
        report.failures.map (·.heading colour) ↔
      ∀ r ∈ report.failures, '\n' ∉ (r.heading colour).toList := by
  constructor
  · intro h r hr
    have hmem : r.heading colour ∈ headings colour (renderSpans colour report.failureSpans) := by
      rw [h]
      exact List.mem_map_of_mem hr
    exact not_mem_of_mem_textLines (List.mem_filter.1 hmem).1
  · intro h
    rw [headings_failureSpans, List.map_eq_flatMap]
    exact List.flatMap_congr fun r hr => headings_heading (h r hr)

end Report

/-! ## runs of the catalog -/

section
variable {t : Tree} {cwd : Place} {root : String} {only : List String}

theorem newline_not_mem_suite {p : Project} {disk : Disk} {r : RuleResult}
    (hr : r ∈ (runAll (p.ruleSets disk only) disk).results) : '\n' ∉ r.suite.toList := by
  obtain ⟨s, -, rule, -, rfl⟩ := mem_results_runAll.1 hr
  show '\n' ∉ s.name.toList
  cases s <;> decide

/-- the rule against a misnamed script is among those that fail -/
theorem misnamed_mem_failures {n : String} (hs : Suite.migrations ∈ Suite.selection only)
    (h : HasScript (t.disk cwd) (Project.ofRoot root).migrationsDirectory n)
    (hc : ¬ FollowsConvention n) :
    (misnamedRule (.ofRoot root) n).result (t.disk cwd) Suite.migrations.name ∈
      (runAll ((Project.ofRoot root).ruleSets (t.disk cwd) only) (t.disk cwd)).failures := by
  have hrule := Catalog.Migrations.misnamedRule_mem_rules h hc
  refine List.mem_filter.2 ⟨mem_results_runAll.2 ⟨_, hs, _, hrule, rfl⟩, ?_⟩
  rw [misnamedRule, not_passed_absent_pathOf h]
  rfl

end

/-- **One failure, one heading.**  On the disk of any file tree, every failure has a line that looks
like a heading, and these lines are the headings of the failures, in order and with the whole names
of the suite and the rule, exactly if no script that is found has a line feed in its name. -/
theorem headings_runAll_iff (t : Tree) (cwd : Place) (root : String) (only : List String)
    (colour : Bool) :
    let p := Project.ofRoot root
    let disk := t.disk cwd
    let report := runAll (p.ruleSets disk only) disk
    let text := renderSpans colour report.failureSpans
    report.failedCount ≤ (headings colour text).length ∧
      (headings colour text = report.failures.map (·.heading colour) ↔
        (Suite.migrations ∈ Suite.selection only →
          ∀ n, HasScript disk p.migrationsDirectory n → '\n' ∉ n.toList)) := by
  intro p disk report text
  refine ⟨report.failedCount_le_length_headings, ?_⟩
  rw [report.headings_eq_iff]
  constructor
  · intro h hs n hscript hn
    have hc : ¬ FollowsConvention n := by
      rintro ⟨m, hm, rfl⟩
      exact newline_not_mem_fileName hm hn
    have hname : '\n' ∈ (misnamedRule p n).name.toList := newline_mem_name_misnamedRule.2 hn
    exact h _ (misnamed_mem_failures hs hscript hc) (RuleResult.newline_mem_heading.2 (.inr hname))
  · intro h r hr hn
    have hmem : r ∈ report.results := (List.mem_filter.1 hr).1
    rcases RuleResult.newline_mem_heading.1 hn with hn | hn
    · exact newline_not_mem_suite hmem hn
    · exact newline_not_mem_names_iff.2 h r hmem hn

/-- the second line of the name looks like a heading -/
theorem headings_of_forged_script :
    let name : FileName := .text "a\nFAIL [b.sql" (by decide)
    let migrations : Node := .directory [(name, .file .empty)]
    let database : Node := .directory [(.text "migrations" (by decide), migrations)]
    let t : Tree := ⟨[(.text "database" (by decide), database)]⟩
    let report := runAll ((Project.ofRoot "/").ruleSets (t.disk t.top) ["migrations"])
      (t.disk t.top)
    report.failedCount < (headings false report.failureText).length := by
  intro name migrations database t report
  have hentry : (t.disk t.top).HasEntry (Project.ofRoot "/").migrationsDirectory
      "a\nFAIL [b.sql" .regular :=
    Tree.hasEntry_disk (by decide) needsSlash_migrationsDirectory rfl
  have hc : ¬ FollowsConvention "a\nFAIL [b.sql" := by
    rw [followsConvention_iff]
    decide +kernel
  refine report.failedCount_lt_length_headings
    (misnamed_mem_failures (by decide) ⟨hentry, by decide⟩ hc) ?_
  decide +kernel

end ProjectAudit
