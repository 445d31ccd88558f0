import ProjectAudit.CommandLine.Run
import ProjectAudit.Proofs.Catalog.Names
import ProjectAudit.Proofs.Report.Lines

/-!
# Runs in either format

A run comes to the same verdict in both formats, writes the same failures, and shows as text what
its report as JSON says (`formats_agree`).
-/

namespace ProjectAudit.CommandLine
open Migration

/-- the root directory that is given or else discovered, if it is one -/
def Options.rootDirectory (o : Options) (disk : Disk) (cwd : String) : Option String :=
  (o.root <|> (Project.discover disk cwd).map (·.root)).filter disk.isDirectory

/-- there is a project to look at exactly if there is a root directory -/
theorem Options.project_eq (o : Options) (disk : Disk) (cwd : String) :
    match o.rootDirectory disk cwd with
    | none => ∃ failure, o.project disk cwd = .error failure
    | some root => o.project disk cwd = .ok (.ofRoot root) := by
  have hroot : (o.root.map Project.ofRoot <|> Project.discover disk cwd) =
      (o.root <|> (Project.discover disk cwd).map (·.root)).map Project.ofRoot := by
    unfold Project.discover
    cases o.root with
    | some root => rfl
    | none =>
      cases (Path.ancestors cwd).find? fun directory => disk.isPresent (Path.join directory ".git")
      <;> rfl
  unfold rootDirectory Options.project
  rw [hroot]
  cases (o.root <|> (Project.discover disk cwd).map (·.root)) with
  | none => exact ⟨_, rfl⟩
  | some root =>
    have hvalidate : (Project.ofRoot root).validate disk =
        if disk.isDirectory root then .ok () else .error (.noRoot root) := rfl
    cases hd : disk.isDirectory root with
    | true => simp [hvalidate, hd, Option.filter]
    | false => simp [hvalidate, hd, Option.filter]

theorem exitCode_eq (report : Report) :
    exitCode (report.failedCount = 0) = exitCode report.allPassed := by
  congr 1
  rw [Bool.eq_iff_iff, decide_eq_true_eq]
  exact Report.failedCount_eq_zero_iff

section
variable {o : Options} {disk : Disk} {cwd root : String} {colour : Bool}

theorem judged_of_rootDirectory (hl : o.list = false)
    (h : o.rootDirectory disk cwd = some root) :
    o.run disk cwd colour = o.judged disk (.ofRoot root) colour := by
  have hp := o.project_eq disk cwd
  rw [h] at hp
  have hp : o.project disk cwd = .ok (.ofRoot root) := hp
  rw [Options.run, hp]
  show (if o.list then _ else _) = _
  rw [hl, if_neg Bool.false_ne_true]

theorem stdout_judged (hf : o.format = some .text) {p : Project} :
    (o.judged disk p colour).stdout = joinLines
      ((runAll (p.ruleSets disk o.suites) disk).lines colour (Suite.selection o.suites)) := by
  unfold Options.judged
  rw [hf]
  exact renderSpans_runSpans

/-- read back line by line, the text shows one marked line for each result exactly if no script that
is found has a line feed in its name -/
theorem markedLines_judged_iff (hf : o.format = some .text) {p : Project} :
    markedLines colour (o.judged disk p colour).stdout =
        (runAll (p.ruleSets disk o.suites) disk).results.map (·.line colour) ↔
      (Suite.migrations ∈ Suite.selection o.suites →
        ∀ n, HasScript disk p.migrationsDirectory n → '\n' ∉ n.toList) := by
  rw [stdout_judged hf, ← newline_not_mem_names_iff, ← shownResults_runAll]
  exact Report.markedLines_eq_iff _ _

theorem markedLines_ne (hl : o.list = false) (hf : o.format = some .text)
    (h : o.rootDirectory disk cwd = some root) (hs : Suite.migrations ∈ Suite.selection o.suites)
    {n : String} (hn : HasScript disk (Project.ofRoot root).migrationsDirectory n)
    (hnewline : '\n' ∈ n.toList) :
    markedLines colour (o.run disk cwd colour).stdout ≠
      (runAll ((Project.ofRoot root).ruleSets disk o.suites) disk).results.map (·.line colour) := by
  rw [judged_of_rootDirectory hl h]
  exact fun he => (markedLines_judged_iff hf).1 he hs n hn hnewline

end

/-- **The formats agree.**  Without a root directory nothing is judged and the code is 2.  Otherwise
the code is that of the verdict on all results, the failures are written alike, and the text is made
from the report that is written as JSON: a title and the number of results that passed for each
suite, a marked line for each result, and the totals.  The marked lines can be told from the others
and stand for one result each exactly if no script that is found has a line feed in its name. -/
theorem formats_agree (o : Options) (disk : Disk) (cwd : String) (colour : Bool) :
    let text := Options.run { o with list := false, format := some .text } disk cwd colour
    let json := Options.run { o with list := false, format := some .json } disk cwd colour
    match o.rootDirectory disk cwd with
    | none => text = json ∧ json.code = 2 ∧ json.stdout = "" ∧ json.log = []
    | some root =>
      let p := Project.ofRoot root
      let suites := Suite.selection o.suites
      let report := runAll (p.ruleSets disk o.suites) disk
      json.stdout = report.toJson.pretty ++ "\n" ∧
        (json.code = if ∀ r ∈ report.results, r.passed = true then 0 else 1) ∧
        text.code = json.code ∧ text.stderr = json.stderr ∧
        text.stdout = joinLines (report.lines colour suites) ∧
        report.shownResults suites = report.results ∧
        (markedLines colour text.stdout = report.results.map (·.line colour) ↔
          (Suite.migrations ∈ suites →
            ∀ n, HasScript disk p.migrationsDirectory n → '\n' ∉ n.toList)) := by
  intro text json
  split
  · rename_i hroot
    have hproject := o.project_eq disk cwd
    rw [hroot] at hproject
    obtain ⟨failure, hf⟩ := hproject
    have hrun : ∀ format, Options.run { o with list := false, format } disk cwd colour =
        ⟨2, "", "Error: " ++ failure.message ++ "\n", []⟩ := by
      intro format
      have hp : Options.project { o with list := false, format } disk cwd = .error failure := hf
      rw [Options.run, hp]
    exact ⟨(hrun _).trans (hrun _).symm, congrArg Outcome.code (hrun _),
      congrArg Outcome.stdout (hrun _), congrArg Outcome.log (hrun _)⟩
  · rename_i root hroot
    intro p suites report
    have hrun : ∀ format, Options.run { o with list := false, format } disk cwd colour =
        Options.judged { o with list := false, format } disk p colour :=
      fun _ => judged_of_rootDirectory rfl hroot
    have htext : text = _ := hrun (some .text)
    have hjson : json = _ := hrun (some .json)
    have hcode : json.code = exitCode report.allPassed := congrArg Outcome.code hjson
    refine ⟨congrArg Outcome.stdout hjson, ?_, ?_, ?_, ?_, shownResults_runAll, ?_⟩
    · rw [hcode, exitCode, Report.allPassed]
      simp only [List.all_eq_true]
    · exact (congrArg Outcome.code htext).trans ((exitCode_eq report).trans hcode.symm)
    · exact (congrArg Outcome.stderr htext).trans (congrArg Outcome.stderr hjson).symm
    · rw [htext]
      exact stdout_judged rfl
    · rw [htext]
      exact markedLines_judged_iff rfl

/-- the second line of the name looks like the line of a rule that passed -/
theorem markedLines_of_forged_script :
    let name : FileName := .text "a\n  ✓ b.sql" (by decide)
    let migrations : Node := .directory [(name, .file .empty)]
    let database : Node := .directory [(.text "migrations" (by decide), migrations)]
    let t : Tree := ⟨[(.text "database" (by decide), database)]⟩
    let o : Options := ⟨some "/", some .text, ["migrations"], false, false⟩
    let report := runAll ((Project.ofRoot "/").ruleSets (t.disk t.top) o.suites) (t.disk t.top)
    parse? ["--root-dir", "/", "--format", "text", "--suite", "migrations"] = some (.audit o) ∧
      o.rootDirectory (t.disk t.top) "/" = some "/" ∧
      markedLines false (o.run (t.disk t.top) "/" false).stdout ≠
        report.results.map (·.line false) := by
  intro name migrations database t o report
  have hroot : o.rootDirectory (t.disk t.top) "/" = some "/" := by
    have hdirectory : (t.disk t.top).isDirectory "/" = true := rfl
    simp [Options.rootDirectory, o, hdirectory]
  have hname : IsEntryName "a\n  ✓ b.sql" := by decide
  have hentry : (t.disk t.top).HasEntry (Project.ofRoot "/").migrationsDirectory
      "a\n  ✓ b.sql" .regular :=
    Tree.hasEntry_disk hname needsSlash_migrationsDirectory rfl
  exact ⟨by decide +kernel, hroot,
    markedLines_ne rfl rfl hroot (by decide) ⟨hentry, by decide⟩ (by decide)⟩

end ProjectAudit.CommandLine
