import ProjectAudit.Proofs.Catalog.Checks
import ProjectAudit.Proofs.Disk.SamePlace
import ProjectAudit.Proofs.Migration.Unlisted
import ProjectAudit.Proofs.Migration.Verdict

/-!
# Migrations that are listed elsewhere

What is discovered is listed in the migration directory of the project, but the rules for it look
into `database/migrations` below the root.  So the result for a misnamed script says whether
anything stands under its name there (`misnamed_result_iff`): a failure wherever both paths lead to
the same directory, and no failure where the script stands in another one alone.
-/

namespace ProjectAudit
open Migration

theorem Disk.probe_eq_nothing_iff {disk : Disk} {target : Target} :
    disk.probe target = .ok .nothing ↔
      ∃ e, disk.stat target.absolute = .error e ∧ e.isAbsence = true := by
  constructor
  · intro h
    rcases probe_eq_ok h (by decide) with ⟨kind, hs, -⟩ | habsent
    · rw [probe, hs] at h
      cases kind <;> cases h
    · exact habsent
  · rintro ⟨e, hs, he⟩
    rw [probe, hs]
    exact if_pos he

namespace Migration
variable {p : Project} {n n' path : String}

theorem name_misnamedRule_inj : (misnamedRule p n).name = (misnamedRule p n').name ↔ n = n' :=
  String.append_left_inj _

/-- one name ends in the extension of a script, and the other does not -/
theorem name_misnamedRule_ne_file : (misnamedRule p n).name ≠ (p.file path).name := by
  intro h
  have hlast := congrArg (fun s : String => s.toList.getLast?) h
  simp [misnamedRule, Project.file, Project.presence] at hlast

end Migration

namespace Catalog.Migrations
variable {p : Project} {disk : Disk} {rule : Rule} {n : String}

/-! ## the rule against a script is known by its name -/

/-- the bytes are checked, since they are at hand without reading the names -/
theorem name_ne_of_mem_fixedRules (hr : rule ∈ fixedRules p) :
    rule.name ≠ n ++ " follows NNN_description.(up|down).sql" := by
  have hall : (Suite.migrations.fixedRules (.ofRoot "")).all (fun r =>
      !" follows NNN_description.(up|down).sql".toUTF8.data.toList.isSuffixOf
        r.name.toUTF8.data.toList) = true := by
    decide +kernel
  have hr : rule ∈ Suite.migrations.fixedRules p := hr
  rw [Suite.fixedRules_eq_map] at hr
  obtain ⟨r, hmem, rfl⟩ := List.mem_map.1 hr
  intro hname
  have hname : r.name = n ++ " follows NNN_description.(up|down).sql" := hname
  have hsuffix := List.all_eq_true.1 hall r hmem
  rw [hname, toList_data_toUTF8, toList_data_toUTF8, String.toList_append, utf8_append,
    List.isSuffixOf_iff_suffix.2 (List.suffix_append _ _)] at hsuffix
  cases hsuffix

theorem eq_misnamedRule_of_name (hr : rule ∈ rules p disk)
    (hname : rule.name = n ++ " follows NNN_description.(up|down).sql") :
    rule = misnamedRule p n := by
  have hname : rule.name = (misnamedRule p n).name := hname
  rcases mem_rules_cases hr with hr | ⟨m, -, -, rfl⟩ | ⟨m, -, -, rfl⟩
  · exact absurd hname (name_ne_of_mem_fixedRules hr)
  · rw [name_misnamedRule_inj.1 hname]
  · exact absurd hname.symm name_misnamedRule_ne_file

/-! ## the verdict on a script that is listed -/

/-- what is listed is there where the rules look if both paths lead to the same directory -/
theorem not_passed_misnamedRule_of_same {t : Tree} {cwd : Place} {suite : String}
    (h : HasScript (t.disk cwd) p.migrationsDirectory n)
    (hsame : t.resolve cwd (Path.join p.root directory) = t.resolve cwd p.migrationsDirectory) :
    ((misnamedRule p n).result (t.disk cwd) suite).passed = false := by
  obtain ⟨⟨listing, hn, hl, -, hs⟩, -⟩ := h
  obtain ⟨place, hplace⟩ := Tree.exists_resolve_of_list hl
  rw [Bool.eq_false_iff]
  intro hp
  obtain ⟨e, he, habsent⟩ := Project.passed_absent_iff.1 hp
  have he : (t.disk cwd).stat (Path.join p.root (pathOf n)) = .error e := he
  have hpath : Path.join p.root (pathOf n) = Path.join (Path.join p.root directory) n :=
    join_pathOf hn
  rw [hpath] at he
  have hthere := Tree.isAbsence_eq_false_of_same hn hplace (hsame.trans hplace) hs he
  rw [habsent] at hthere
  cases hthere

/-- **A misnamed script is listed in one directory and judged in another.**  The suite has a result
for every misnamed script of the migration directory.  It passes exactly if nothing stands under
the name of the script in `database/migrations` below the root, and so it fails wherever the
migration directory is that directory. -/
theorem misnamed_result_iff (t : Tree) (cwd : Place) (p : Project) :
    let disk := t.disk cwd
    let results := ((Suite.migrations.build p disk).run disk).results
    ∀ n, HasScript disk p.migrationsDirectory n → ¬ FollowsConvention n →
      (∃ r ∈ results, r.name = n ++ " follows NNN_description.(up|down).sql") ∧
      ∀ r ∈ results, r.name = n ++ " follows NNN_description.(up|down).sql" →
        (r.passed = true ↔ disk.probe (p.target ("database/migrations/" ++ n)) = .ok .nothing) ∧
        (t.resolve cwd (Path.join p.root "database/migrations") =
          t.resolve cwd p.migrationsDirectory → r.passed = false) := by
  intro disk results n hscript hc
  have hrule : misnamedRule p n ∈ Suite.migrations.rules p disk :=
    misnamedRule_mem_rules hscript hc
  refine ⟨⟨_, List.mem_map.2 ⟨_, hrule, rfl⟩, rfl⟩, fun r hr hname => ?_⟩
  obtain ⟨rule, hmem, rfl⟩ := List.mem_map.1 hr
  obtain rfl := eq_misnamedRule_of_name hmem hname
  refine ⟨?_, not_passed_misnamedRule_of_same hscript⟩
  rw [Disk.probe_eq_nothing_iff]
  exact Project.passed_absent_iff

/-- the migration directory is a link to the directory that the rules look into -/
theorem misnamed_result_of_linked_directory :
    let name : FileName := .text "seed.sql" (by decide)
    let migrations : Node := .directory [(name, .file .empty)]
    let database : Node := .directory [(.text "migrations" (by decide), migrations)]
    let link : Node := .link "database/migrations"
    let t : Tree := ⟨[(.text "database" (by decide), database), (.text "sql" (by decide), link)]⟩
    ∃ r ∈ ((Suite.migrations.build ⟨"/", "/sql"⟩ (t.disk t.top)).run (t.disk t.top)).results,
      r.name = "seed.sql follows NNN_description.(up|down).sql" ∧ r.passed = false := by
  intro name migrations database link t
  have hscript : HasScript (t.disk t.top) "/sql" "seed.sql" :=
    ⟨Tree.hasEntry_disk (by decide) ⟨'l', by decide⟩ rfl, by decide⟩
  have hc : ¬ FollowsConvention "seed.sql" := by
    rw [followsConvention_iff]
    decide +kernel
  obtain ⟨⟨r, hr, hname⟩, hall⟩ := misnamed_result_iff t t.top ⟨"/", "/sql"⟩ _ hscript hc
  exact ⟨r, hr, hname, (hall r hr hname).2 rfl⟩

/-- a script in the directory that is listed, and nothing where the rules look -/
theorem misnamed_passes_elsewhere :
    let name : FileName := .text "seed.sql" (by decide)
    let scripts : Node := .directory [(name, .file .empty)]
    let t : Tree := ⟨[(.text "scripts" (by decide), scripts)]⟩
    let p : Project := ⟨"/", "/scripts"⟩
    HasScript (t.disk t.top) p.migrationsDirectory "seed.sql" ∧ ¬ FollowsConvention "seed.sql" ∧
      ∀ r ∈ ((Suite.migrations.build p (t.disk t.top)).run (t.disk t.top)).results,
        r.name = "seed.sql follows NNN_description.(up|down).sql" → r.passed = true := by
  intro name scripts t p
  have hscript : HasScript (t.disk t.top) "/scripts" "seed.sql" :=
    ⟨Tree.hasEntry_disk (by decide) ⟨'s', by decide⟩ rfl, by decide⟩
  have hc : ¬ FollowsConvention "seed.sql" := by
    rw [followsConvention_iff]
    decide +kernel
  refine ⟨hscript, hc, fun r hr hname => ?_⟩
  obtain ⟨rule, hmem, rfl⟩ := List.mem_map.1 hr
  have hname : rule.name = "seed.sql" ++ " follows NNN_description.(up|down).sql" := hname
  obtain rfl := eq_misnamedRule_of_name hmem hname
  have hpath : Path.join p.root (pathOf "seed.sql") = "/database/migrations/seed.sql" := by decide
  refine Project.passed_absent_iff.2 ⟨.notFound, ?_, rfl⟩
  rw [hpath]
  rfl

end Catalog.Migrations

end ProjectAudit
