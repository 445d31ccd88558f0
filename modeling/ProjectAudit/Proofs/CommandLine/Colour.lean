import ProjectAudit.Proofs.Catalog.Shown
import ProjectAudit.Proofs.CommandLine.Formats

/-!
# Runs with and without colour

Colour is asked for where spans are rendered, once for each output stream, and nowhere else.  The
texts of the spans come from the catalog, from the names of the scripts that are found and from the
texts that are checked.  If no sequence for the terminal comes from there, a run with colour differs
from one without by such sequences alone (`colour_only_adds_colour`).
-/

namespace ProjectAudit.CommandLine

/-! ## runs -/

section
variable {o : Options} {disk : Disk} {p : Project} (h : p.HasNoEscapes disk o.suites)
include h

theorem withoutColour_stdout_listed :
    withoutColour (o.listed disk p).stdout = (o.listed disk p).stdout := by
  refine withoutColour_eq_self ?_
  unfold Options.listed
  split
  · exact Json.hasNoEscape_line _
  · exact h.catalogText

theorem withoutColour_stdout_judged :
    withoutColour (o.judged disk p true).stdout = (o.judged disk p false).stdout := by
  unfold Options.judged
  split
  · exact withoutColour_eq_self (Json.hasNoEscape_line _)
  · exact withoutColour_renderSpans h.runSpans true

/-- a text begins with a header, which is emphasised -/
theorem stdout_judged_ne (hf : o.format ≠ some .json) :
    (o.judged disk p true).stdout ≠ (o.judged disk p false).stdout := by
  have hheader : Span.bold "\n=== Project Conformance ===" ∈
      runSpans (p.ruleSets disk o.suites) disk := by
    simp [runSpans, headerSpans]
  unfold Options.judged
  split
  · contradiction
  · exact renderSpans_ne h.runSpans ⟨_, hheader, rfl⟩

theorem withoutColour_stderr_judged (herrors : disk.HasNamedErrors) :
    withoutColour (o.judged disk p true).stderr = (o.judged disk p false).stderr :=
  withoutColour_renderSpans (h.failureSpans herrors) true

end

theorem hasNoEscape_helpText : HasNoEscape helpText := by
  have hbytes : 0x1B ∉ helpText.toUTF8.data.toList := by decide +kernel
  exact fun h => hbytes (mem_bytes_of_mem h (by decide))

theorem hasNoEscape_versionText : HasNoEscape versionText := by decide

/-- colour is not asked for but to write the text of a run and the failures -/
theorem run_of_project {o : Options} {disk : Disk} {cwd : String} {p : Project}
    (h : o.project disk cwd = .ok p) (colour : Bool) :
    o.run disk cwd colour = if o.list then o.listed disk p else o.judged disk p colour := by
  rw [Options.run, h]

/-- **Colour adds nothing but colour.**  Whatever is asked for, a run with colour has the code and
the log of the run without, and it writes the same where nothing is judged and the same catalog or
report as JSON.  If no sequence for the terminal comes from the files of the project, then both
streams without all such sequences, the failures included, are those of the run without colour. -/
theorem colour_only_adds_colour (request : Request) (t : Tree) (here : Place) (cwd : String) :
    let plain := request.run (t.disk here) cwd false
    let coloured := request.run (t.disk here) cwd true
    coloured.code = plain.code ∧ coloured.log = plain.log ∧
      match request with
      | .help | .version => coloured = plain ∧ withoutColour plain.stdout = plain.stdout
      | .audit o =>
        (o.list = true ∨ o.format = some .json → coloured.stdout = plain.stdout) ∧
          match o.rootDirectory (t.disk here) cwd with
          | none => coloured = plain ∧ plain.stdout = ""
          | some root => (Project.ofRoot root).HasNoEscapes (t.disk here) o.suites →
              withoutColour coloured.stdout = plain.stdout ∧
                withoutColour coloured.stderr = plain.stderr := by
  intro plain coloured
  cases request with
  | help => exact ⟨rfl, rfl, rfl, withoutColour_eq_self hasNoEscape_helpText⟩
  | version => exact ⟨rfl, rfl, rfl, withoutColour_eq_self hasNoEscape_versionText⟩
  | audit o =>
    have hproject := o.project_eq (t.disk here) cwd
    show _ ∧ _ ∧ _ ∧ _
    split
    · rename_i hroot
      rw [hroot] at hproject
      obtain ⟨failure, hf⟩ := hproject
      have hrun : ∀ colour, o.run (t.disk here) cwd colour =
          ⟨2, "", "Error: " ++ failure.message ++ "\n", []⟩ := fun colour => by
        rw [Options.run, hf]
      have heq : coloured = plain := (hrun true).trans (hrun false).symm
      exact ⟨congrArg Outcome.code heq, congrArg Outcome.log heq,
        fun _ => congrArg Outcome.stdout heq, heq, congrArg Outcome.stdout (hrun false)⟩
    · rename_i root hroot
      rw [hroot] at hproject
      have hplain : plain = _ := run_of_project hproject false
      have hcoloured : coloured = _ := run_of_project hproject true
      rw [hplain, hcoloured]
      cases hl : o.list with
      | true =>
        refine ⟨rfl, rfl, fun _ => rfl, fun hfree => ?_⟩
        exact ⟨withoutColour_stdout_listed hfree, withoutColour_eq_self (s := "") (by decide)⟩
      | false =>
        refine ⟨rfl, rfl, fun hsame => ?_, fun hfree => ?_⟩
        · have hf : o.format = some .json := hsame.resolve_left Bool.false_ne_true
          show (o.judged _ _ true).stdout = (o.judged _ _ false).stdout
          rw [Options.judged, Options.judged, hf]
        · exact ⟨withoutColour_stdout_judged hfree,
            withoutColour_stderr_judged hfree (t.hasNamedErrors_disk here)⟩

/-- a README of blanks, and nothing else of what is looked for -/
theorem colour_only_adds_colour_of_blank_readme :
    let readme : FileName := .text "README.md" (by decide)
    let t : Tree := ⟨[(readme, .file " \n".toUTF8)]⟩
    let o : Options := ⟨some "/", none, ["layout"], false, false⟩
    let plain := o.run (t.disk t.top) "/" false
    let coloured := o.run (t.disk t.top) "/" true
    parse? ["--root-dir", "/", "--suite", "layout"] = some (.audit o) ∧
      (Project.ofRoot "/").HasNoEscapes (t.disk t.top) o.suites ∧
      plain.code = 1 ∧ coloured.stdout ≠ plain.stdout ∧
      withoutColour coloured.stdout = plain.stdout ∧
      withoutColour coloured.stderr = plain.stderr := by
  intro readme t o plain coloured
  have hroot : o.rootDirectory (t.disk t.top) "/" = some "/" := by
    have hdirectory : (t.disk t.top).isDirectory "/" = true := rfl
    simp [Options.rootDirectory, o, hdirectory]
  have hread : (t.disk t.top).read "/README.md" = .ok " \n" := Tree.read_eq_ok_iff.2 rfl
  have hlayout : ∀ r ∈ Catalog.Layout.rules (.ofRoot "/"), r.check?.isSome →
      r.target.absolute = "/README.md" := by decide +kernel
  have hfree : (Project.ofRoot "/").HasNoEscapes (t.disk t.top) o.suites := by
    refine ⟨fun n hn => ?_, fun set hset r hr check hd text ht => ?_⟩
    · have hlist : (t.disk t.top).list (Project.ofRoot "/").migrationsDirectory =
          .error .notFound := rfl
      exact absurd hn.1 (Disk.not_hasEntry_of_list_error hlist)
    · obtain ⟨s, hs, rfl⟩ := Project.mem_ruleSets.1 hset
      have hselection : Suite.selection o.suites = [.layout] := by decide
      rw [hselection, List.mem_singleton] at hs
      subst hs
      have hcheck := Option.isSome_of_eq_some (Rule.check?_eq_some_iff.2 hd)
      rw [hlayout r hr hcheck, hread] at ht
      cases ht
      decide
  obtain ⟨-, -, -, hcolour⟩ := colour_only_adds_colour (.audit o) t t.top "/"
  rw [hroot] at hcolour
  obtain ⟨hstdout, hstderr⟩ := hcolour hfree
  have hcode : plain.code = 1 := by decide +kernel
  have hrun : ∀ colour, (o.run (t.disk t.top) "/" colour).stdout =
      (o.judged (t.disk t.top) (.ofRoot "/") colour).stdout := fun colour =>
    congrArg Outcome.stdout (judged_of_rootDirectory rfl hroot)
  have hne : coloured.stdout ≠ plain.stdout := by
    show (o.run _ _ true).stdout ≠ (o.run _ _ false).stdout
    rw [hrun, hrun]
    exact stdout_judged_ne hfree (by decide)
  exact ⟨by decide +kernel, hfree, hcode, hne, hstdout, hstderr⟩

end ProjectAudit.CommandLine
