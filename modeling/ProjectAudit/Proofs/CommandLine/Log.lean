import ProjectAudit.Proofs.CommandLine.Arguments
import ProjectAudit.Proofs.CommandLine.Formats
import ProjectAudit.Proofs.Rule.Detail

/-!
# The log and the report

The lines that are logged for a suite can be made from its rules and their results: for each rule a
warning if it could not be judged, which tells what the detail of the result tells, then the result,
and at the end the counts (`Suite.map_line_events`).  With the option for the whole log all of them
are written, and without it the warnings; nothing else changes (`log_mirrors_report`).
-/

namespace ProjectAudit

/-! ## lines -/

def isWarningLine (line : String) : Bool := " WARN ".toList.isPrefixOf line.toList

/-- the beginning of a line is enough to tell -/
theorem isWarningLine_append {start : String} (h : 6 ≤ start.toList.length) (rest : String) :
    isWarningLine (start ++ rest) = isWarningLine start := by
  rw [Bool.eq_iff_iff, isWarningLine, isWarningLine, List.isPrefixOf_iff_prefix,
    List.isPrefixOf_iff_prefix, String.toList_append]
  exact ⟨fun hp => List.prefix_of_prefix_length_le hp (List.prefix_append _ _) h,
    fun hp => hp.trans (List.prefix_append _ _)⟩

theorem Event.isWarningLine_line (e : Event) : isWarningLine e.line = e.isWarning := by
  cases e <;> unfold line <;> simp only [String.append_assoc] <;>
    exact (isWarningLine_append (by decide) _).trans rfl

namespace RuleResult

/-- the line of a rule that could not be judged -/
def faultLine (r : RuleResult) : String :=
  " WARN rule could not be evaluated rule=" ++ quoted r.name ++ " error=" ++ r.detail

def verdictLine (r : RuleResult) : String :=
  "DEBUG evaluated rule suite=" ++ r.suite ++ " rule=" ++ r.name ++ " passed=" ++
    if r.passed then "true" else "false"

theorem line_ruleJudged (r : RuleResult) :
    (Event.ruleJudged r.suite r.name r.passed).line = r.verdictLine := by
  unfold Event.line
  rfl

/-- the warning tells what the detail tells -/
theorem line_ruleNotJudged {r : RuleResult} {fault : Fault} (h : r.detail = fault.message) :
    (Event.ruleNotJudged r.name fault).line = r.faultLine := by
  unfold Event.line faultLine
  rw [h]

end RuleResult

/-- the lines of a rule that has this result -/
def Rule.logLines (disk : Disk) (rule : Rule) (r : RuleResult) : List String :=
  match rule.judge disk with
  | .ok _ => [r.verdictLine]
  | .error _ => [r.faultLine, r.verdictLine]

namespace Report

/-- the line of a suite that all results are there for -/
def finishedLine (report : Report) (s : Suite) : String :=
  " INFO suite finished suite=" ++ s.name ++
    " passed=" ++ toString ((report.resultsOf s).countP (·.passed)) ++
    " total=" ++ toString (report.resultsOf s).length

/-- the lines of a suite with these rules: rule by rule, then the counts -/
def suiteLog (report : Report) (disk : Disk) (rules : List Rule) (s : Suite) : List String :=
  (List.zipWith (Rule.logLines disk) rules (report.resultsOf s)).flatten ++
    [report.finishedLine s]

end Report

/-- the warning that scripts are not looked for, if the suite that looks for them is selected -/
def Migration.discoveryLog (p : Project) (disk : Disk) (suites : List Suite) : List String :=
  match scripts p disk with
  | .ok _ => []
  | .error cause =>
    if .migrations ∈ suites then
      [" WARN could not list migrations; skipping discovery dir=" ++ p.migrationsDirectory ++
        " error=" ++ cause.message]
    else []

/-! ## events -/

theorem RuleSet.map_line_ruleEvents (set : RuleSet) (disk : Disk) (rule : Rule) :
    (set.ruleEvents disk rule).map (·.line) = rule.logLines disk (rule.result disk set.name) := by
  have hdone := (rule.result disk set.name).line_ruleJudged
  unfold ruleEvents Rule.logLines
  cases hj : rule.judge disk with
  | ok verdict => exact congrArg (· :: []) hdone
  | error fault =>
    have hfault := RuleResult.line_ruleNotJudged (Rule.detail_of_judge_error hj set.name)
    exact congr (congrArg List.cons hfault) (congrArg (· :: []) hdone)

variable {p : Project} {disk : Disk} {only : List String}

/-- the log of a suite is made from its results in the report -/
theorem Suite.map_line_events {s : Suite} (hs : s ∈ Suite.selection only) :
    ((s.build p disk).events disk).map (·.line) =
      (runAll (p.ruleSets disk only) disk).suiteLog disk (s.rules p disk) s := by
  have hresults : (runAll (p.ruleSets disk only) disk).resultsOf s =
      ((s.build p disk).run disk).results := filter_results_runAll hs
  have hrun : ((s.build p disk).run disk).results =
      (s.rules p disk).map (·.result disk s.name) := rfl
  have hrules : ((s.rules p disk).flatMap ((s.build p disk).ruleEvents disk)).map (·.line) =
      (List.zipWith (Rule.logLines disk) (s.rules p disk)
        ((s.rules p disk).map (·.result disk s.name))).flatten := by
    rw [List.map_flatMap, List.zipWith_map_right, List.zipWith_self, List.flatMap_def]
    congr 1
    exact List.map_congr_left fun rule _ => (s.build p disk).map_line_ruleEvents disk rule
  unfold RuleSet.events Report.suiteLog Report.finishedLine
  rw [List.map_append, Report.passedCount_eq, hresults, hrun]
  exact congrArg (· ++ _) hrules

/-- only one suite has something to warn of before its rules are judged -/
theorem Project.map_line_buildEvents : (p.buildEvents disk only).map (·.line) =
    Migration.discoveryLog p disk (Suite.selection only) := by
  have hevents : Suite.buildEvents p disk = fun s =>
      if s = .migrations then Catalog.Migrations.events p disk else [] := by
    funext s
    cases s <;> rfl
  have hbuild : p.buildEvents disk only =
      if .migrations ∈ Suite.selection only then Catalog.Migrations.events p disk else [] := by
    rw [buildEvents, hevents]
    split
    · rename_i hs
      exact flatMap_ite_of_mem (Suite.nodup_selection only) hs
    · rename_i hs
      refine List.flatMap_eq_nil_iff.2 fun s hmem => if_neg ?_
      rintro rfl
      exact hs hmem
  rw [hbuild, Catalog.Migrations.events, Migration.discoveryLog]
  cases Migration.scripts p disk with
  | ok names => split <;> rfl
  | error cause =>
    split
    · simp only [List.map_cons, List.map_nil]
      unfold Event.line
      rfl
    · rfl

namespace CommandLine

/-! ## runs -/

theorem logLines_withVerbose (o : Options) (events : List Event) :
    o.withVerbose.logLines events = events.map (·.line) := by
  have hall : (events.filter fun e => o.withVerbose.verbose || e.isWarning) = events :=
    List.filter_eq_self.2 fun _ _ => rfl
  rw [Options.logLines, hall]

theorem logLines_of_false {o : Options} (hv : o.verbose = false) (events : List Event) :
    o.logLines events = (events.map (·.line)).filter isWarningLine := by
  have hline : isWarningLine ∘ (·.line) = Event.isWarning := funext Event.isWarningLine_line
  rw [Options.logLines, hv, List.filter_map, hline]
  rfl

/-- nothing but the log tells whether the whole log is asked for -/
theorem run_withVerbose (o : Options) (disk : Disk) (cwd : String) (colour : Bool) :
    let quiet := o.run disk cwd colour
    let loud := o.withVerbose.run disk cwd colour
    loud.code = quiet.code ∧ loud.stdout = quiet.stdout ∧ loud.stderr = quiet.stderr ∧
      (o.verbose = false → quiet.log = loud.log.filter isWarningLine) := by
  have hsame : o.withVerbose.project disk cwd = o.project disk cwd := rfl
  have hlog := fun (hv : o.verbose = false) events => (logLines_of_false hv events).trans
    (congrArg (·.filter isWarningLine) (logLines_withVerbose o events).symm)
  unfold Options.run
  rw [hsame]
  cases o.project disk cwd with
  | error failure => exact ⟨rfl, rfl, rfl, fun _ => rfl⟩
  | ok p =>
    have hlist : o.withVerbose.list = o.list := rfl
    simp only [hlist]
    cases o.list with
    | true => exact ⟨rfl, rfl, rfl, fun hv => hlog hv _⟩
    | false => exact ⟨rfl, rfl, rfl, fun hv => hlog hv _⟩

/-- what is logged for a whole run -/
theorem map_line_events {p : Project} {disk : Disk} {only : List String} :
    (p.buildEvents disk only ++ (p.ruleSets disk only).flatMap (·.events disk)).map (·.line) =
      Migration.discoveryLog p disk (Suite.selection only) ++
        (Suite.selection only).flatMap fun s =>
          (runAll (p.ruleSets disk only) disk).suiteLog disk (s.rules p disk) s := by
  rw [List.map_append, Project.map_line_buildEvents, List.map_flatMap, Project.ruleSets,
    List.flatMap_map]
  exact congrArg (_ ++ ·) (List.flatMap_congr fun s hs => Suite.map_line_events hs)

/-- **The log mirrors the report and influences nothing.**  Where `-v` can be added to arguments that
are accepted, and in front it always can be unless it is there already, the code, the report and the
failures stay as they are, and the log without it has the warnings of the log with it.  The log with
it is a warning if the scripts cannot be listed, and then for each suite, rule by rule, a warning
with the detail of the result exactly if the rule could not be judged and a line with the suite, the
name and the verdict of the result, and at the end the counts of the results of the suite. -/
theorem log_mirrors_report {before later : List String} {o : Options}
    (hargs : parse? (before ++ later) = some (.audit o)) (hruns : o.list = false)
    (disk : Disk) (cwd : String) (colour : Bool) :
    (o.verbose = false →
      parse? ("-v" :: (before ++ later)) = some (.audit { o with verbose := true })) ∧
    ∀ request, parse? (before ++ "-v" :: later) = some request →
      let quiet := (Request.audit o).run disk cwd colour
      let loud := request.run disk cwd colour
      loud.code = quiet.code ∧ loud.stdout = quiet.stdout ∧ loud.stderr = quiet.stderr ∧
        quiet.log = loud.log.filter isWarningLine ∧
        match o.rootDirectory disk cwd with
        | none => loud.log = []
        | some root =>
          let p := Project.ofRoot root
          let suites := Suite.selection o.suites
          let report := runAll (p.ruleSets disk o.suites) disk
          loud.stderr = renderSpans colour report.failureSpans ∧
            (o.format = some .json → loud.stdout = report.toJson.pretty ++ "\n") ∧
            (∀ s ∈ suites, (report.resultsOf s).length = (s.rules p disk).length) ∧
            loud.log = Migration.discoveryLog p disk suites ++
              suites.flatMap fun s => report.suiteLog disk (s.rules p disk) s := by
  refine ⟨parse?_verbose_cons hargs, fun request hrequest => ?_⟩
  obtain ⟨hv, rfl⟩ := parse?_insert_verbose hargs hrequest
  intro quiet loud
  obtain ⟨hcode, hstdout, hstderr, hlog⟩ := run_withVerbose o disk cwd colour
  refine ⟨hcode, hstdout, hstderr, hlog hv, ?_⟩
  split
  · rename_i hroot
    obtain ⟨failure, hf⟩ : ∃ failure, o.withVerbose.project disk cwd = .error failure := by
      have hproject := o.project_eq disk cwd
      rwa [hroot] at hproject
    show (o.withVerbose.run disk cwd colour).log = []
    rw [Options.run, hf]
  · rename_i root hroot
    intro p suites report
    have hloud : loud = o.withVerbose.judged disk p colour :=
      judged_of_rootDirectory (o := o.withVerbose) hruns hroot
    refine ⟨congrArg Outcome.stderr hloud, fun hf => ?_, fun s hs => ?_, ?_⟩
    · have hformat : o.withVerbose.format = some .json := hf
      rw [hloud, Options.judged, hformat]
      rfl
    · have hresults : report.resultsOf s = ((s.build p disk).run disk).results :=
        filter_results_runAll hs
      rw [hresults]
      exact List.length_map _
    · rw [hloud]
      exact (logLines_withVerbose o _).trans map_line_events

/-- the scripts cannot be listed, and no rule on them can be judged -/
theorem log_mirrors_report_of_link_loop :
    let database : FileName := .text "database" (by decide)
    let link : FileName := .text "migrations" (by decide)
    let t : Tree := ⟨[(database, .directory [(link, .link "migrations")])]⟩
    let o : Options := ⟨some "/", none, ["migrations"], false, false⟩
    let loud := o.withVerbose.run (t.disk t.top) "/" false
    parse? (["--root-dir", "/"] ++ ["--suite", "migrations"]) = some (.audit o) ∧
      parse? (["--root-dir", "/"] ++ "-v" :: ["--suite", "migrations"]) =
        some (.audit o.withVerbose) ∧
      (o.run (t.disk t.top) "/" false).log = loud.log.filter isWarningLine ∧
      ∃ later, loud.log =
        (" WARN could not list migrations; skipping discovery dir=/database/migrations error=" ++
          "Too many levels of symbolic links (os error 40)") :: later := by
  intro database link t o loud
  have hargs : parse? (["--root-dir", "/"] ++ ["--suite", "migrations"]) = some (.audit o) := by
    decide +kernel
  have hverbose : parse? (["--root-dir", "/"] ++ "-v" :: ["--suite", "migrations"]) =
      some (.audit o.withVerbose) := by
    decide +kernel
  have hroot : o.rootDirectory (t.disk t.top) "/" = some "/" := by
    have hdirectory : (t.disk t.top).isDirectory "/" = true := rfl
    simp [Options.rootDirectory, o, hdirectory]
  have hscripts : Migration.scripts (.ofRoot "/") (t.disk t.top) = .error .tooManyLinks := rfl
  have hselected : Suite.migrations ∈ Suite.selection o.suites := by decide
  have hdiscovery : Migration.discoveryLog (.ofRoot "/") (t.disk t.top)
      (Suite.selection o.suites) =
        [" WARN could not list migrations; skipping discovery dir=/database/migrations error=" ++
          "Too many levels of symbolic links (os error 40)"] := by
    rw [Migration.discoveryLog, hscripts]
    simp only [if_pos hselected]
    decide
  obtain ⟨-, hrun⟩ := log_mirrors_report hargs rfl (t.disk t.top) "/" false
  obtain ⟨-, -, -, hquiet, hlog⟩ := hrun _ hverbose
  rw [hroot] at hlog
  obtain ⟨-, -, -, hlog⟩ := hlog
  rw [hdiscovery, List.singleton_append] at hlog
  exact ⟨hargs, hverbose, hquiet, _, hlog⟩

end CommandLine

end ProjectAudit
