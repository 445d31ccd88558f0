import Mathlib.Data.List.Basic
import ProjectAudit.Proofs.Catalog.Results
import ProjectAudit.Proofs.Text.Split
import ProjectAudit.Report.Text

/-!
# The lines of a run that is shown as text

All that is shown for a run is made from its report (`renderSpans_runSpans`): the counts beside the
title of a suite are those of its results, and the totals are those of the report.  Read back line
by line, the marked lines are those of the results in order exactly if no result has a line feed in
its name (`markedLines_eq_iff`).
-/

namespace ProjectAudit
open Text

/-! ## colour -/

namespace Emphasis

/-- what is written before an emphasised text -/
def on (e : Emphasis) (colour : Bool) : String := if colour then rendition e.start else ""

/-- what is written after an emphasised text -/
def off (e : Emphasis) (colour : Bool) : String := if colour then rendition e.stop else ""

end Emphasis

theorem Span.render_emphasised (e : Emphasis) (text : String) (colour : Bool) :
    (Span.mk (some e) text).render colour = e.on colour ++ text ++ e.off colour := by
  cases colour <;> simp [render, Emphasis.on, Emphasis.off]

/-! ## the lines -/

/-- each of the lines is ended by a line feed -/
def joinLines (lines : List String) : String := String.join (lines.map (· ++ "\n"))

/-- the line of a result, without its end -/
def RuleResult.line (colour : Bool) (r : RuleResult) : String :=
  if r.passed then "  " ++ (Span.green "✓").render colour ++ " " ++ r.name
  else "  " ++ (Span.red "✗").render colour ++ " " ++ (Span.red r.name).render colour

namespace Report

/-- the results that carry the name of the suite -/
def resultsOf (report : Report) (s : Suite) : List RuleResult :=
  report.results.filter (·.suite = s.name)

def titleLine (colour : Bool) (report : Report) (s : Suite) : String :=
  (Span.bold s.title).render colour ++ " " ++
    (Span.dimmed ("(" ++ toString ((report.resultsOf s).countP (·.passed)) ++ "/" ++
      toString (report.resultsOf s).length ++ ")")).render colour

/-- a blank line, the title with the counts, and the results -/
def suiteLines (colour : Bool) (report : Report) (s : Suite) : List String :=
  "" :: report.titleLine colour s :: (report.resultsOf s).map (·.line colour)

def totalsLines (colour : Bool) (report : Report) : List String :=
  let total := toString report.total
  if report.failedCount = 0 then
    [Emphasis.green.on colour, "All " ++ total ++ "/" ++ total ++ " rules passed.",
      Emphasis.green.off colour]
  else
    [Emphasis.red.on colour, toString report.failedCount ++ "/" ++ total ++ " rule(s) failed.",
      Emphasis.red.off colour]

/-- what is shown for a run of these suites that has come to this report -/
def lines (colour : Bool) (suites : List Suite) (report : Report) : List String :=
  [Emphasis.bold.on colour, "=== Project Conformance ===" ++ Emphasis.bold.off colour] ++
    suites.flatMap (report.suiteLines colour) ++
    [Emphasis.bold.on colour, "--- Summary ---" ++ Emphasis.bold.off colour] ++
    report.totalsLines colour

end Report

/-! ## what is shown -/

section
variable {colour : Bool}

theorem joinLines_cons (line : String) (ls : List String) :
    joinLines (line :: ls) = line ++ "\n" ++ joinLines ls := by
  simp [joinLines]

theorem joinLines_append (ls ks : List String) :
    joinLines (ls ++ ks) = joinLines ls ++ joinLines ks := by
  simp [joinLines]

/-- put together part by part -/
theorem join_map_flatMap {α β : Type} (xs : List α) (f : α → List β) (g : β → String) :
    String.join ((xs.flatMap f).map g) =
      String.join (xs.map fun x => String.join ((f x).map g)) := by
  induction xs with
  | nil => rfl
  | cons x xs ih =>
    rw [List.flatMap_cons, List.map_append, String.join_append, ih, List.map_cons, String.join_cons]

theorem joinLines_flatMap {α : Type} (xs : List α) (f : α → List String) :
    joinLines (xs.flatMap f) = String.join (xs.map fun x => joinLines (f x)) :=
  join_map_flatMap xs f _

theorem renderSpans_append (a b : List Span) :
    renderSpans colour (a ++ b) = renderSpans colour a ++ renderSpans colour b := by
  simp [renderSpans]

theorem renderSpans_flatMap {α : Type} (xs : List α) (f : α → List Span) :
    renderSpans colour (xs.flatMap f) = String.join (xs.map fun x => renderSpans colour (f x)) :=
  join_map_flatMap xs f _

theorem renderSpans_result (r : RuleResult) :
    renderSpans colour r.spans = joinLines [r.line colour] := by
  unfold RuleResult.spans RuleResult.line
  split <;> simp [renderSpans, joinLines, Span.render, Span.plain, String.append_assoc]

theorem renderSpans_results (results : List RuleResult) :
    renderSpans colour (results.flatMap (·.spans)) = joinLines (results.map (·.line colour)) := by
  have h : joinLines (results.flatMap fun r => [r.line colour]) = _ := joinLines_flatMap _ _
  rw [List.map_eq_flatMap, h, renderSpans_flatMap]
  simp only [renderSpans_result]

theorem renderSpans_header : renderSpans colour headerSpans = joinLines
    [Emphasis.bold.on colour, "=== Project Conformance ===" ++ Emphasis.bold.off colour] := by
  cases colour <;> decide

/-- the emphasis is put on and off in lines of its own -/
theorem render_framed (e : Emphasis) (line : String) :
    renderSpans colour [⟨some e, "\n" ++ line ++ "\n"⟩, .plain "\n"] =
      joinLines [e.on colour, line, e.off colour] := by
  have hplain : (Span.plain "\n").render colour = "\n" := by cases colour <;> rfl
  simp [renderSpans, joinLines, Span.render_emphasised, hplain, String.append_assoc]

theorem renderSpans_totals (report : Report) :
    renderSpans colour [report.totalsSpan, .plain "\n"] =
      joinLines (report.totalsLines colour) := by
  have hall : "\nAll " = "\n" ++ "All " := by decide
  have hpassed : " rules passed.\n" = " rules passed." ++ "\n" := by decide
  have hfailed : " rule(s) failed.\n" = " rule(s) failed." ++ "\n" := by decide
  unfold Report.totalsSpan Report.totalsLines
  split
  · rw [← render_framed, hall, hpassed]
    simp only [Span.green, String.append_assoc]
  · rw [← render_framed, hfailed]
    simp only [Span.red, String.append_assoc]

theorem renderSpans_summary (report : Report) : renderSpans colour report.summarySpans =
    joinLines ([Emphasis.bold.on colour, "--- Summary ---" ++ Emphasis.bold.off colour] ++
      report.totalsLines colour) := by
  have h : renderSpans colour [.bold "\n--- Summary ---", .plain "\n"] = joinLines
      [Emphasis.bold.on colour, "--- Summary ---" ++ Emphasis.bold.off colour] := by
    cases colour <;> decide
  rw [joinLines_append, ← h, ← renderSpans_totals, ← renderSpans_append]
  rfl

end

/-! ## a run of the catalog -/

variable {p : Project} {disk : Disk} {only : List String} {colour : Bool}

theorem renderSpans_suite {s : Suite} (hs : s ∈ Suite.selection only) :
    let report := runAll (p.ruleSets disk only) disk
    renderSpans colour ((s.build p disk).reportSpans ((s.build p disk).run disk)) =
      joinLines (report.suiteLines colour s) := by
  intro report
  have hresults : report.resultsOf s = ((s.build p disk).run disk).results :=
    filter_results_runAll hs
  have hplain : ∀ text, (Span.plain text).render colour = text := fun text => by
    cases colour <;> rfl
  have htitle : ∀ title count : Span,
      renderSpans colour [.plain "\n", title, .plain " ", count, .plain "\n"] =
        joinLines ["", title.render colour ++ " " ++ count.render colour] := by
    intro title count
    simp [joinLines, renderSpans, hplain, String.append_assoc]
  unfold RuleSet.reportSpans Report.suiteLines Report.titleLine
  rw [renderSpans_append, renderSpans_results, htitle, Report.passedCount_eq, hresults,
    ← joinLines_append]
  rfl

theorem renderSpans_suites :
    let report := runAll (p.ruleSets disk only) disk
    renderSpans colour ((p.ruleSets disk only).flatMap fun set => set.reportSpans (set.run disk)) =
      joinLines ((Suite.selection only).flatMap (report.suiteLines colour)) := by
  intro report
  rw [renderSpans_flatMap, joinLines_flatMap, Project.ruleSets, List.map_map]
  exact congrArg String.join (List.map_congr_left fun s hs => renderSpans_suite hs)

/-- the text of a run says nothing that its report does not say -/
theorem renderSpans_runSpans :
    renderSpans colour (runSpans (p.ruleSets disk only) disk) =
      joinLines ((runAll (p.ruleSets disk only) disk).lines colour (Suite.selection only)) := by
  unfold runSpans Report.lines
  rw [renderSpans_append, renderSpans_append, renderSpans_header, renderSpans_suites,
    renderSpans_summary, ← joinLines_append, ← joinLines_append, ← List.append_assoc]

/-! ## marked lines -/

/-- what the line of a result begins with -/
def marker (colour passed : Bool) : String :=
  "  " ++ (if passed then Span.green "✓" else Span.red "✗").render colour ++ " "

def isMarked (colour : Bool) (line : String) : Bool :=
  [true, false].any fun passed => (marker colour passed).toList.isPrefixOf line.toList

/-- a text line by line, with what follows the last line feed -/
def textLines (text : String) : List String := (split (· = '\n') text.toList).map .ofList

/-- the lines that look like the line of a result -/
def markedLines (colour : Bool) (text : String) : List String :=
  (textLines text).filter (isMarked colour)

theorem not_mem_of_mem_textLines {text line : String} (h : line ∈ textLines text) :
    '\n' ∉ line.toList := by
  obtain ⟨piece, hp, rfl⟩ := List.mem_map.1 h
  rw [String.toList_ofList]
  intro hc
  have hsep := not_sep_of_mem_split hp hc
  exact of_decide_eq_false hsep rfl

theorem not_newline_of_not_mem {cs : List Char} (h : '\n' ∉ cs) :
    ∀ c ∈ cs, decide (c = '\n') = false :=
  fun _ hc => decide_eq_false fun he => h (he ▸ hc)

/-- a text without a line feed is one line -/
theorem textLines_eq_singleton {text : String} (h : '\n' ∉ text.toList) :
    textLines text = [text] := by
  rw [textLines, split_of_no_sep (not_newline_of_not_mem h), List.map_singleton,
    String.ofList_toList]

/-- a text without a line feed goes on with the first line of the next text -/
theorem exists_textLines_append {text : String} (h : '\n' ∉ text.toList) (next : String) :
    ∃ line later, textLines (text ++ next) = (text ++ line) :: later := by
  obtain ⟨piece, pieces, hp⟩ := exists_split (· = '\n') next.toList
  have hsplit := split_append_of_no_sep (not_newline_of_not_mem h) hp
  refine ⟨.ofList piece, pieces.map .ofList, ?_⟩
  rw [textLines, String.toList_append, hsplit, List.map_cons, String.ofList_append,
    String.ofList_toList]

/-- what is put together from texts, each with a line end, has the lines of the texts -/
theorem textLines_joinLines_eq (texts : List String) :
    textLines (joinLines texts) = texts.flatMap textLines ++ [""] := by
  induction texts with
  | nil => rfl
  | cons text texts ih =>
    have ht : (joinLines (text :: texts)).toList =
        text.toList ++ '\n' :: (joinLines texts).toList := by
      simp [joinLines_cons]
    rw [textLines, ht, split_append_sep (by rfl), List.map_append, List.flatMap_cons,
      List.append_assoc, ← ih]
    rfl

theorem textLines_joinLines {ls : List String} (h : ∀ line ∈ ls, '\n' ∉ line.toList) :
    textLines (joinLines ls) = ls ++ [""] := by
  have hone : ls.flatMap textLines = ls.flatMap fun line => [line] :=
    List.flatMap_congr fun line hl => textLines_eq_singleton (h line hl)
  rw [textLines_joinLines_eq, hone, List.flatMap_singleton']

theorem isMarked_line (r : RuleResult) : isMarked colour (r.line colour) = true := by
  refine List.any_eq_true.2 ⟨r.passed, by cases r.passed <;> decide, ?_⟩
  rw [List.isPrefixOf_iff_prefix]
  unfold marker RuleResult.line
  split <;> simp

/-- a marked line is indented -/
theorem head?_of_isMarked {line : String} (h : isMarked colour line = true) :
    line.toList.head? = some ' ' := by
  obtain ⟨passed, -, hp⟩ := List.any_eq_true.1 h
  obtain ⟨later, hl⟩ := List.isPrefixOf_iff_prefix.1 hp
  rw [← hl, marker]
  simp

theorem isMarked_eq_false {line : String} (h : line.toList.head? ≠ some ' ') :
    isMarked colour line = false :=
  Bool.eq_false_iff.2 fun hm => h (head?_of_isMarked hm)

theorem isMarked_empty : isMarked colour "" = false := isMarked_eq_false (by decide)

/-! ### numbers -/

theorem not_mem_toDigits {c : Char} (hc : c.isDigit = false) (n : Nat) : c ∉ Nat.toDigits 10 n :=
  fun h => Bool.false_ne_true
    (hc.symm.trans (Nat.isDigit_of_mem_toDigits (by decide) (by decide) h))

theorem newline_not_mem_toDigits (n : Nat) : '\n' ∉ Nat.toDigits 10 n :=
  not_mem_toDigits (by decide) n

theorem exists_toList_toString (n : Nat) : ∃ c cs, (toString n).toList = c :: cs ∧ c ≠ ' ' := by
  obtain ⟨c, cs, h⟩ := List.exists_cons_of_ne_nil (Nat.toDigits_ne_nil (n := n) (b := 10))
  refine ⟨c, cs, Nat.toList_repr.trans h, ?_⟩
  rintro rfl
  cases Nat.isDigit_of_mem_toDigits (by decide) (by decide) (h ▸ List.mem_cons_self)

/-! ### line feeds -/

theorem newline_mem_render {span : Span} :
    '\n' ∈ (span.render colour).toList ↔ '\n' ∈ span.text.toList := by
  obtain ⟨emphasis, text⟩ := span
  cases colour <;> cases emphasis <;> simp [Span.render, rendition, newline_not_mem_toDigits]

theorem newline_mem_line {r : RuleResult} :
    '\n' ∈ (r.line colour).toList ↔ '\n' ∈ r.name.toList := by
  unfold RuleResult.line
  split <;> simp [newline_mem_render, Span.green, Span.red]

namespace Report
variable (report : Report)

theorem newline_not_mem_titleLine (s : Suite) : '\n' ∉ (report.titleLine colour s).toList := by
  have htitle : '\n' ∉ s.title.toList := by
    cases s <;> decide
  simp [titleLine, newline_mem_render, Span.bold, Span.dimmed, newline_not_mem_toDigits, htitle]

theorem newline_not_mem_totalsLines :
    ∀ line ∈ report.totalsLines colour, '\n' ∉ line.toList := by
  have hon : ∀ e : Emphasis, '\n' ∉ (e.on colour).toList := fun e => by
    cases colour <;> cases e <;> decide
  have hoff : ∀ e : Emphasis, '\n' ∉ (e.off colour).toList := fun e => by
    cases colour <;> cases e <;> decide
  unfold totalsLines
  split <;> simp [hon, hoff, newline_not_mem_toDigits]

/-! ### lines that belong to no result -/

theorem isMarked_emphasis (colour : Bool) (e : Emphasis) :
    isMarked colour (e.on colour) = false ∧ isMarked colour (e.off colour) = false := by
  cases colour <;> cases e <;> decide

theorem isMarked_titleLine (s : Suite) : isMarked colour (report.titleLine colour s) = false := by
  refine isMarked_eq_false ?_
  unfold titleLine
  cases colour <;> cases s <;> simp [Span.render, Span.bold, Suite.title, rendition]

theorem isMarked_totalsLines :
    ∀ line ∈ report.totalsLines colour, isMarked colour line = false := by
  unfold totalsLines
  split
  · obtain ⟨hon, hoff⟩ := isMarked_emphasis colour .green
    simp only [List.forall_mem_cons]
    exact ⟨hon, isMarked_eq_false (by simp), hoff, fun _ h => nomatch h⟩
  · obtain ⟨hon, hoff⟩ := isMarked_emphasis colour .red
    obtain ⟨c, cs, hcs, hc⟩ := exists_toList_toString report.failedCount
    simp only [List.forall_mem_cons]
    refine ⟨hon, isMarked_eq_false ?_, hoff, fun _ h => nomatch h⟩
    simpa only [String.toList_append, hcs, List.cons_append, List.head?_cons, ne_eq,
      Option.some.injEq] using hc

/-! ### the marked lines of a run -/

/-- the results by suite, as they are shown -/
def shownResults (suites : List Suite) : List RuleResult := suites.flatMap report.resultsOf

theorem filter_isMarked_suiteLines (s : Suite) :
    (report.suiteLines colour s).filter (isMarked colour) =
      (report.resultsOf s).map (·.line colour) := by
  have hresults : ((report.resultsOf s).map (·.line colour)).filter (isMarked colour) =
      (report.resultsOf s).map (·.line colour) :=
    List.filter_eq_self.2 fun line h => by
      obtain ⟨r, -, rfl⟩ := List.mem_map.1 h
      exact isMarked_line r
  rw [suiteLines, List.filter_cons_of_neg (Bool.eq_false_iff.1 isMarked_empty),
    List.filter_cons_of_neg (Bool.eq_false_iff.1 (report.isMarked_titleLine s)), hresults]

theorem filter_isMarked_lines (suites : List Suite) :
    (report.lines colour suites).filter (isMarked colour) =
      (report.shownResults suites).map (·.line colour) := by
  have hheader : [Emphasis.bold.on colour, "=== Project Conformance ===" ++
      Emphasis.bold.off colour].filter (isMarked colour) = [] := by
    cases colour <;> decide
  have hsummary : [Emphasis.bold.on colour, "--- Summary ---" ++
      Emphasis.bold.off colour].filter (isMarked colour) = [] := by
    cases colour <;> decide
  have htotals : (report.totalsLines colour).filter (isMarked colour) = [] :=
    List.filter_eq_nil_iff.2 fun line h => Bool.eq_false_iff.1 (report.isMarked_totalsLines line h)
  unfold lines
  rw [List.filter_append, List.filter_append, List.filter_append, hheader, hsummary, htotals,
    List.filter_flatMap, List.append_nil, List.append_nil, List.nil_append, shownResults,
    List.map_flatMap]
  simp only [filter_isMarked_suiteLines]

theorem newline_not_mem_lines {suites : List Suite}
    (h : ∀ r ∈ report.shownResults suites, '\n' ∉ r.name.toList) :
    ∀ line ∈ report.lines colour suites, '\n' ∉ line.toList := by
  have hheader : ∀ line ∈ [Emphasis.bold.on colour, "=== Project Conformance ===" ++
      Emphasis.bold.off colour], '\n' ∉ line.toList := by
    cases colour <;> decide
  have hsummary : ∀ line ∈ [Emphasis.bold.on colour, "--- Summary ---" ++
      Emphasis.bold.off colour], '\n' ∉ line.toList := by
    cases colour <;> decide
  unfold lines
  simp only [List.forall_mem_append]
  refine ⟨⟨⟨hheader, ?_⟩, hsummary⟩, report.newline_not_mem_totalsLines⟩
  intro line hline
  obtain ⟨s, hs, hline⟩ := List.mem_flatMap.1 hline
  rcases List.mem_cons.1 hline with rfl | hline
  · decide
  · rcases List.mem_cons.1 hline with rfl | hline
    · exact report.newline_not_mem_titleLine s
    · obtain ⟨r, hr, rfl⟩ := List.mem_map.1 hline
      exact fun hn => h r (List.mem_flatMap.2 ⟨s, hs, hr⟩) (newline_mem_line.1 hn)

/-- **The marked lines are the lines of the results unless a name has a line feed.** -/
theorem markedLines_eq_iff (suites : List Suite) :
    markedLines colour (joinLines (report.lines colour suites)) =
        (report.shownResults suites).map (·.line colour) ↔
      ∀ r ∈ report.shownResults suites, '\n' ∉ r.name.toList := by
  constructor
  · intro h r hr hn
    have hm : r.line colour ∈ markedLines colour (joinLines (report.lines colour suites)) := by
      rw [h]
      exact List.mem_map_of_mem hr
    exact not_mem_of_mem_textLines (List.mem_filter.1 hm).1 (newline_mem_line.2 hn)
  · intro h
    rw [markedLines, textLines_joinLines (report.newline_not_mem_lines h), List.filter_append,
      filter_isMarked_lines, List.filter_cons_of_neg (Bool.eq_false_iff.1 isMarked_empty),
      List.filter_nil, List.append_nil]

end Report

/-- the results are those of the suites one after the other -/
theorem shownResults_runAll :
    (runAll (p.ruleSets disk only) disk).shownResults (Suite.selection only) =
      (runAll (p.ruleSets disk only) disk).results := by
  rw [Report.shownResults, results_runAll]
  exact List.flatMap_congr fun s hs => filter_results_runAll hs

end ProjectAudit
