import ProjectAudit.Proofs.Catalog.Conforming

/-!
# Misnamed scripts and the audit

A misnamed script whose name is a text fails the audit.  A name that is no text is passed over
wherever a directory is listed (`collect_decoded`), so a file under such a name changes nothing in
the report, whatever it ends in (`audit_decoded`).
-/

namespace ProjectAudit

/-! ## what remains of a disk if only texts are names -/

/-- without the names that are no texts -/
def Listing.texts (listing : Listing) : Listing :=
  ⟨listing.names.filter (·.text?.isSome), listing.nodup.filter _⟩

/-- what can be asked for by a text is the same -/
def Disk.decoded (disk : Disk) : Disk where
  stat := disk.stat
  read := disk.read
  list path := (disk.list path).map Listing.texts

theorem Disk.collect_decoded (disk : Disk) (directory extension : String) :
    disk.decoded.collect directory extension = disk.collect directory extension := by
  have hl : disk.decoded.list directory = (disk.list directory).map Listing.texts := rfl
  unfold collect
  rw [hl]
  cases disk.list directory with
  | error e => rfl
  | ok listing =>
    refine congrArg (fun names : List String => Except.ok (names.mergeSort byteLE)) ?_
    show (listing.names.filter (·.text?.isSome)).filterMap (disk.fileWith? directory extension) = _
    rw [List.filterMap_filter]
    refine List.filterMap_congr fun name _ => ?_
    cases name with
    | text name isName => rfl
    | undecoded bytes isName => rfl

theorem Suite.rules_decoded (p : Project) (disk : Disk) (s : Suite) :
    s.rules p disk.decoded = s.rules p disk := by
  cases s with
  | migrations =>
    show Catalog.Migrations.rules p disk.decoded = Catalog.Migrations.rules p disk
    unfold Catalog.Migrations.rules Migration.scripts
    rw [Disk.collect_decoded]
  | _ => rfl

theorem Suite.run_decoded (p : Project) (disk : Disk) (s : Suite) :
    (s.build p disk.decoded).run disk.decoded = (s.build p disk).run disk := by
  show Report.mk ((s.rules p disk.decoded).map _) = Report.mk ((s.rules p disk).map _)
  rw [Suite.rules_decoded]
  rfl

/-- nothing is reported about names that are no texts -/
theorem Project.audit_decoded (p : Project) (disk : Disk) :
    p.audit disk.decoded = p.audit disk := by
  show Report.concat ((Suite.all.map (Suite.build p disk.decoded)).map (·.run disk.decoded)) =
    Report.concat ((Suite.all.map (Suite.build p disk)).map (·.run disk))
  rw [List.map_map, List.map_map]
  exact congrArg Report.concat (List.map_congr_left fun s _ => s.run_decoded p disk)

/-! ## files under misnamed names -/

namespace Migration

theorem isSuffix_sql_iff {cs : List Char} :
    utf8 ".sql".toList <:+ utf8 cs ↔ ".sql".toList <:+ cs :=
  utf8_isSuffix_iff (by decide)

/-- a file whose name is a text and ends in the bytes of the extension is a script -/
theorem hasScript_of_hasFile {t : Tree} {cwd : Place} {directory n : String} {hn : IsEntryName n}
    (hd : Path.NeedsSlash directory) (h : t.HasFile cwd directory (.text n hn))
    (hsql : utf8 ".sql".toList <:+ (FileName.text n hn).bytes) :
    HasScript (t.disk cwd) directory n :=
  ⟨Tree.hasEntry_of_hasFile hd h, isSuffix_sql_iff.1 hsql⟩

end Migration

namespace Project
open Migration

/-- **A misnamed script fails the audit if its name is a text.**  The script is any file of the
migration directory whose name, in bytes, ends as a script does but is not the name of one; its name
is a part of the name of the rule that fails. -/
theorem audit_fails_of_misnamed {t : Tree} {cwd : Place} {root : String} {name : FileName}
    (h : t.HasFile cwd (Project.ofRoot root).migrationsDirectory name)
    (hsql : utf8 ".sql".toList <:+ name.bytes)
    (hform : ∀ m : MigrationName, m.IsWellFormed → name.bytes ≠ utf8 m.fileName.toList) :
    (∀ n, name.text? = some n →
      ∃ r ∈ ((Project.ofRoot root).audit (t.disk cwd)).results,
        r.name = n ++ " follows NNN_description.(up|down).sql" ∧ r.passed = false) ∧
    (Project.ofRoot root).audit (t.disk cwd).decoded =
      (Project.ofRoot root).audit (t.disk cwd) := by
  refine ⟨fun n hname => ?_, audit_decoded _ _⟩
  obtain ⟨hn, rfl⟩ := FileName.text?_eq_some_iff.1 hname
  have hs := hasScript_of_hasFile needsSlash_migrationsDirectory h hsql
  have hc : ¬ FollowsConvention n := by
    rintro ⟨m, hm, rfl⟩
    exact hform m hm rfl
  have hrule := Catalog.Migrations.misnamedRule_mem_rules hs hc
  refine ⟨_, mem_results_runAll.2 ⟨.migrations, by simp [Suite.all], _, hrule, rfl⟩, rfl, ?_⟩
  exact not_passed_absent_pathOf hs

/-- a dump among the migrations -/
theorem audit_fails_of_dump :
    let name : FileName := .text "dump.sql" (by decide)
    let t := Tree.sample [(name, .file .empty)]
    ∃ r ∈ ((Project.ofRoot "/").audit (t.disk t.top)).results,
      r.name = "dump.sql follows NNN_description.(up|down).sql" ∧ r.passed = false := by
  intro name t
  have hroute : Tree.route "/database/migrations" = .ok (Route.ofText _) := rfl
  have h : t.HasFile t.top (Project.ofRoot "/").migrationsDirectory name :=
    ⟨by decide +kernel, _, _, hroute, rfl⟩
  have hsql : utf8 ".sql".toList <:+ name.bytes := isSuffix_sql_iff.2 (by decide)
  have hform : ∀ m : MigrationName, m.IsWellFormed → name.bytes ≠ utf8 m.fileName.toList := by
    intro m hm he
    have hc : FollowsConvention "dump.sql" := ⟨m, hm, (utf8_toList_inj.1 he).symm⟩
    exact absurd (followsConvention_iff.1 hc) (by decide +kernel)
  exact (audit_fails_of_misnamed h hsql hform).1 "dump.sql" rfl

/-- a file that ends as a script does, but under a name that is no text -/
theorem audit_passes_of_undecoded_script :
    let name : FileName := .undecoded [0xFF, 0x2E, 0x73, 0x71, 0x6C] (by decide)
    let t := Tree.sample [(name, .file .empty)]
    t.HasFile t.top (Project.ofRoot "/").migrationsDirectory name ∧
      utf8 ".sql".toList <:+ name.bytes ∧
      (∀ m : MigrationName, m.IsWellFormed → name.bytes ≠ utf8 m.fileName.toList) ∧
      ((Project.ofRoot "/").audit (t.disk t.top)).allPassed = true := by
  intro name t
  have hroute : Tree.route "/database/migrations" = .ok (Route.ofText _) := rfl
  refine ⟨⟨by decide +kernel, _, _, hroute, rfl⟩, ⟨[0xFF], by decide⟩, ?_, ?_⟩
  · intro m _
    exact ne_utf8_of_isRawName (by decide) _
  · refine allPassed_sample fun entry he => ?_
    rw [List.mem_singleton.1 he]
    rfl

end Project

end ProjectAudit
