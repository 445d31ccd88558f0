import ProjectAudit.Proofs.Migration.Added
import ProjectAudit.Proofs.Migration.Unlisted

/-!
# The audit after one script more

Where every rule passes, a new script in the migration directory changes the report by its own
results: all others stay as they are, in their order, and there is exactly one failure
(`Project.audit_addFile`).
-/

namespace ProjectAudit

/-! ## reports with more results -/

namespace Report

/-- the new report has more results in one place, and the others are those of the old one in their
order -/
def IsExtended (old new : Report) (added : List RuleResult) : Prop :=
  ∃ before after, old.results = before ++ after ∧ new.results = before ++ added ++ after

namespace IsExtended
variable {old new : Report} {added : List RuleResult} (h : old.IsExtended new added)
include h

theorem total : new.total = old.total + added.length := by
  obtain ⟨before, after, hold, hnew⟩ := h
  simp only [Report.total, hold, hnew, List.length_append]
  omega

theorem failures (hpass : old.allPassed = true) : new.failures = added.filter (!·.passed) := by
  obtain ⟨before, after, hold, hnew⟩ := h
  rw [allPassed, hold, List.all_append, Bool.and_eq_true] at hpass
  have hnone : ∀ {results : List RuleResult}, results.all (·.passed) = true →
      results.filter (!·.passed) = [] := by
    intro results hall
    refine List.filter_eq_nil_iff.2 fun r hr => ?_
    simp [List.all_eq_true.1 hall r hr]
  rw [Report.failures, hnew, List.filter_append, List.filter_append, hnone hpass.1, hnone hpass.2,
    List.nil_append, List.append_nil]

end IsExtended

end Report

namespace Project
open Migration
variable {p : Project} {disk disk' : Disk}

theorem passed_of_allPassed {s : Suite} {r : Rule} (h : (p.audit disk).allPassed = true)
    (hr : r ∈ s.rules p disk) : (r.result disk s.name).passed = true := by
  have hmem : r.result disk s.name ∈ (p.audit disk).results :=
    mem_results_runAll.2 ⟨s, s.mem_all, r, hr, rfl⟩
  exact List.all_eq_true.1 h _ hmem

/-- the results of one suite -/
def judged (p : Project) (disk : Disk) (s : Suite) : List RuleResult :=
  (s.rules p disk).map (·.result disk s.name)

theorem results_audit (p : Project) (disk : Disk) : (p.audit disk).results =
    p.judged disk .layout ++ p.judged disk .migrations ++
      (p.judged disk .schema ++ p.judged disk .docs) := by
  have h : (p.audit disk).results = Suite.all.flatMap (p.judged disk) := results_runAll
  rw [h, Suite.all]
  simp only [List.flatMap_cons, List.flatMap_nil, List.append_nil, List.append_assoc]

/-- where the old results stay, more rules on migrations are all that is new -/
theorem isExtended_audit {before added after : List Rule}
    (hsame : ∀ s : Suite, ∀ r ∈ s.rules p disk, r.result disk' s.name = r.result disk s.name)
    (hr : Suite.migrations.rules p disk = before ++ after)
    (hr' : Suite.migrations.rules p disk' = before ++ added ++ after) :
    (p.audit disk).IsExtended (p.audit disk')
      (added.map (·.result disk' Suite.migrations.name)) := by
  have hother : ∀ s : Suite, s.rules p disk' = s.rules p disk →
      p.judged disk' s = p.judged disk s := by
    intro s hs
    rw [judged, judged, hs]
    exact List.map_congr_left (hsame s)
  have hrules := hsame .migrations
  rw [hr] at hrules
  have hbefore := List.map_congr_left fun r h => hrules r (List.mem_append_left after h)
  have hafter := List.map_congr_left fun r h => hrules r (List.mem_append_right before h)
  have hold : p.judged disk .migrations = before.map (·.result disk Suite.migrations.name) ++
      after.map (·.result disk Suite.migrations.name) := by
    rw [judged, hr, List.map_append]
  have hnew : p.judged disk' .migrations = before.map (·.result disk Suite.migrations.name) ++
      added.map (·.result disk' Suite.migrations.name) ++
      after.map (·.result disk Suite.migrations.name) := by
    rw [judged, hr', List.map_append, List.map_append, hbefore, hafter]
  refine ⟨p.judged disk .layout ++ before.map (·.result disk Suite.migrations.name),
    after.map (·.result disk Suite.migrations.name) ++
      (p.judged disk .schema ++ p.judged disk .docs), ?_, ?_⟩
  · rw [results_audit, hold]
    simp only [List.append_assoc]
  · rw [results_audit, hnew, hother .layout rfl, hother .schema rfl, hother .docs rfl]
    simp only [List.append_assoc]

end Project

/-! ## a new script on a tree -/

namespace Migration
variable {t : Tree} {cwd cwd' here : Place} {root n : String} {isName : IsEntryName n}
  {content : ByteArray}

theorem isScriptAdded_addFile (hcwd : t.HasPlace cwd)
    (hs : Tree.IsSamePlace t (t.addFile here (.text n isName) content) cwd cwd')
    (hp : t.resolve cwd (Project.ofRoot root).migrationsDirectory = .ok (.directory here))
    (hroom : here.HasRoomFor (Project.ofRoot root).migrationsDirectory n isName)
    (hsql : ".sql".toList <:+ n.toList)
    (hlinks : ∀ name target, here.entries.lookup name ≠ some (.link target)) :
    IsScriptAdded (t.disk cwd) ((t.addFile here (.text n isName) content).disk cwd')
      (Project.ofRoot root).migrationsDirectory n := by
  have hd : Path.NeedsSlash (Project.ofRoot root).migrationsDirectory :=
    needsSlash_migrationsDirectory
  have hkept := (Tree.isWithin_addFile content (hcwd.of_resolve hp) hroom.isNew).isKept hs
  have hself := Tree.stat_addFile_self hd hcwd hs hp hroom
  refine ⟨hkept, fun kind h => ?_, fun m => ⟨?_, ?_⟩⟩
  · obtain ⟨_, hmem⟩ := Tree.mem_of_hasEntry hp h
    obtain ⟨entry, hentry, hname⟩ := List.mem_map.1 hmem
    have hne := List.lookup_eq_none_iff.1 hroom.isNew entry hentry
    rw [hname] at hne
    simp at hne
  · rintro ⟨hentry, hsql'⟩
    by_cases he : m = n
    · exact .inl he
    · obtain ⟨hm, hstat⟩ := (Tree.hasEntry_iff hd).1 hentry
      rw [Tree.stat_addFile_of_ne hm he hcwd hs hp hroom.isNew (hlinks _)] at hstat
      exact .inr ⟨(Tree.hasEntry_iff hd).2 ⟨hm, hstat⟩, hsql'⟩
  · rintro (rfl | ⟨hentry, hsql'⟩)
    · exact ⟨(Tree.hasEntry_iff hd).2 ⟨isName, hself⟩, hsql⟩
    · obtain ⟨hm, hstat⟩ := (Tree.hasEntry_iff hd).1 hentry
      exact ⟨(Tree.hasEntry_iff hd).2 ⟨hm, hkept.stat hstat⟩, hsql'⟩

/-- what is no directory in a tree is a file -/
theorem hasScript_of_hasNonDirectory
    (h : HasNonDirectory (t.disk cwd) (Project.ofRoot root).migrationsDirectory n)
    (hsql : ".sql".toList <:+ n.toList) :
    HasScript (t.disk cwd) (Project.ofRoot root).migrationsDirectory n := by
  obtain ⟨kind, hk, hentry⟩ := h
  obtain ⟨-, hstat⟩ := (Tree.hasEntry_iff needsSlash_migrationsDirectory).1 hentry
  obtain ⟨found, -, hfound⟩ := Tree.stat_eq_ok_iff.1 hstat
  have hregular : kind = .regular := by
    cases found with
    | file content => exact hfound.symm
    | directory place => exact absurd hfound.symm hk
  exact ⟨hregular ▸ hentry, hsql⟩

end Migration

namespace Catalog.Migrations
open Migration
variable {t : Tree} {cwd : Place} {root : String}

/-- where all rules pass, every migration that is known or found has both its scripts -/
theorem hasNonDirectory_of_passed {m : MigrationName} {suite : String}
    (hpass : ∀ r ∈ rules (.ofRoot root) (t.disk cwd), (r.result (t.disk cwd) suite).passed = true)
    (hm : m.IsWellFormed)
    (h : m.stem ∈ knownStems ∨
      HasMigration (t.disk cwd) (Project.ofRoot root).migrationsDirectory m.stem) :
    HasNonDirectory (t.disk cwd) (Project.ofRoot root).migrationsDirectory m.fileName :=
  (passed_file_pathOf_iff hm.isEntryName).1 (hpass _ (file_mem_rules h))

/-- where all rules pass, there is a migration directory -/
theorem exists_directory_of_passed {suite : String}
    (hpass : ∀ r ∈ rules (.ofRoot root) (t.disk cwd), (r.result (t.disk cwd) suite).passed = true) :
    ∃ here, t.resolve cwd (Project.ofRoot root).migrationsDirectory = .ok (.directory here) := by
  have hdir := Project.passed_directory_iff.1 (hpass _ (directory_mem_rules _ _))
  obtain ⟨found, hr, hk⟩ := Tree.stat_eq_ok_iff.1 hdir
  cases found with
  | file content => cases hk
  | directory here => exact ⟨here, hr⟩

theorem pairRules_eq (p : Project) (m : MigrationName) : pairRules p m.stem =
    [p.file (pathOf (MigrationName.fileName { m with direction := .up })),
      p.file (pathOf (MigrationName.fileName { m with direction := .down }))] := by
  rw [fileName_up, fileName_down]
  rfl

/-- one of the two fails if only the other one passes -/
theorem filter_pairRules {p : Project} {disk : Disk} {suite : String} {m : MigrationName}
    (hthere : ((p.file (pathOf m.fileName)).result disk suite).passed = true)
    (hmissing : ((p.file (pathOf m.counterpart.fileName)).result disk suite).passed = false) :
    ((pairRules p m.stem).map (·.result disk suite)).filter (!·.passed) =
      [(p.file (pathOf m.counterpart.fileName)).result disk suite] := by
  rw [pairRules_eq, List.map_cons, List.map_cons, List.map_nil]
  have hone : ∀ a b : RuleResult, a.passed = true → b.passed = false →
      [a, b].filter (!·.passed) = [b] ∧ [b, a].filter (!·.passed) = [b] := by
    intro a b ha hb
    simp [ha, hb]
  obtain ⟨serial, description, direction⟩ := m
  cases direction with
  | up => exact (hone _ _ hthere hmissing).1
  | down => exact (hone _ _ hthere hmissing).2

end Catalog.Migrations

/-! ## the audit -/

namespace Migration
variable {t t' : Tree} {cwd cwd' : Place} {disk : Disk} {root suite : String} {m : MigrationName}

/-- a script that begins a migration is without its counterpart -/
theorem not_passed_counterpart
    (h : IsScriptAdded disk (t'.disk cwd') (Project.ofRoot root).migrationsDirectory m.fileName)
    (hm : m.IsWellFormed)
    (hnew : ¬ HasMigration disk (Project.ofRoot root).migrationsDirectory m.stem) :
    (((Project.ofRoot root).file (pathOf m.counterpart.fileName)).result (t'.disk cwd')
      suite).passed = false := by
  rw [Bool.eq_false_iff]
  intro hp
  have hentry := (passed_file_pathOf_iff hm.counterpart.isEntryName).1 hp
  have hscript := hasScript_of_hasNonDirectory hentry (MigrationName.isSuffix_fileName _)
  have hold := ((h.hasScript_iff _).1 hscript).resolve_left
    (MigrationName.fileName_counterpart_ne hm)
  exact hnew ⟨m.counterpart, hm.counterpart, hold, rfl⟩

/-- what passed in the audit of a tree is not against anything, so it stays -/
theorem result_of_allPassed {disk' : Disk} (hkept : (t.disk cwd).IsKept disk')
    (hpass : ((Project.ofRoot root).audit (t.disk cwd)).allPassed = true) {s : Suite} {r : Rule}
    (hr : r ∈ s.rules (.ofRoot root) (t.disk cwd)) :
    r.result disk' s.name = r.result (t.disk cwd) s.name := by
  have hp := Project.passed_of_allPassed hpass hr
  refine Rule.result_of_isKept hkept (fun hd => ?_) hp
  obtain ⟨-, n, hscript, -, rfl⟩ := Suite.exists_misnamed_of_absent hr hd
  rw [misnamedRule, not_passed_absent_pathOf hscript] at hp
  cases hp

end Migration

namespace Project
open Migration

/-- **One fault, one failure.**  Where every rule passes there is a migration directory.  If none of
its entries is a link and a new script is put into it, every old result stays as it is and in its
place.  A misnamed script adds one result, the failure of the rule against it.  Any other script
adds the results for the two scripts of its migration: its own passes, and the other one is the only
failure. -/
theorem audit_addFile {t : Tree} {cwd : Place} {root : String} (hcwd : t.HasPlace cwd)
    (hpass : ((Project.ofRoot root).audit (t.disk cwd)).allPassed = true) :
    let p := Project.ofRoot root
    let old := p.audit (t.disk cwd)
    ∃ here, t.resolve cwd p.migrationsDirectory = .ok (.directory here) ∧
      ∀ (n : String) (isName : IsEntryName n) (content : ByteArray),
        here.HasRoomFor p.migrationsDirectory n isName → ".sql".toList <:+ n.toList →
        (∀ name target, here.entries.lookup name ≠ some (.link target)) →
        let t' := t.addFile here (.text n isName) content
        ∃ cwd', Tree.IsSamePlace t t' cwd cwd' ∧
          let new := p.audit (t'.disk cwd')
          let judge (rule : Rule) := rule.result (t'.disk cwd') "migrations"
          (¬ FollowsConvention n →
            old.IsExtended new [judge (misnamedRule p n)] ∧ new.total = old.total + 1 ∧
              new.failures = [judge (misnamedRule p n)]) ∧
          ∀ m : MigrationName, m.IsWellFormed → m.fileName = n →
            old.IsExtended new ((pairRules p m.stem).map judge) ∧ new.total = old.total + 2 ∧
              (judge (p.file (pathOf n))).passed = true ∧
              new.failures = [judge (p.file (pathOf m.counterpart.fileName))] := by
  intro p old
  have hrules : ∀ r ∈ Catalog.Migrations.rules p (t.disk cwd),
      (r.result (t.disk cwd) "migrations").passed = true := fun r hr =>
    passed_of_allPassed (s := .migrations) hpass hr
  obtain ⟨here, hp⟩ := Catalog.Migrations.exists_directory_of_passed hrules
  refine ⟨here, hp, fun n isName content hroom hsql hlinks => ?_⟩
  intro t'
  have hwithin : t.IsWithin t' := Tree.isWithin_addFile content (hcwd.of_resolve hp) hroom.isNew
  obtain ⟨cwd', hs⟩ := hwithin.exists_place hcwd
  have hadded : IsScriptAdded (t.disk cwd) (t'.disk cwd') p.migrationsDirectory n :=
    isScriptAdded_addFile hcwd hs hp hroom hsql hlinks
  have hsame : ∀ s : Suite, ∀ r ∈ s.rules p (t.disk cwd),
      r.result (t'.disk cwd') s.name = r.result (t.disk cwd) s.name := fun s r hr =>
    result_of_allPassed hadded.kept hpass hr
  refine ⟨cwd', hs, ?_⟩
  intro new judge
  refine ⟨fun hc => ?_, fun m hm hn => ?_⟩
  · obtain ⟨before, after, hr, hr'⟩ := Catalog.Migrations.rules_of_misnamed hadded hc
    have hext : old.IsExtended new [judge (misnamedRule p n)] := isExtended_audit hsame hr hr'
    have hfail : (judge (misnamedRule p n)).passed = false :=
      not_passed_absent_pathOf hadded.hasScript
    refine ⟨hext, hext.total, ?_⟩
    rw [hext.failures hpass, List.filter_cons_of_pos (by simp [hfail]), List.filter_nil]
  · subst hn
    obtain ⟨hknown, hnew⟩ : m.stem ∉ Catalog.Migrations.knownStems ∧
        ¬ HasMigration (t.disk cwd) p.migrationsDirectory m.stem := by
      rw [← not_or]
      intro h
      -- else the script would have been there
      obtain ⟨kind, -, hentry⟩ := Catalog.Migrations.hasNonDirectory_of_passed hrules hm h
      exact hadded.isNew kind hentry
    obtain ⟨before, after, hr, hr'⟩ :=
      Catalog.Migrations.rules_of_new_migration hadded hm hknown hnew
    have hext : old.IsExtended new ((pairRules p m.stem).map judge) :=
      isExtended_audit hsame hr hr'
    have hthere : (judge (p.file (pathOf m.fileName))).passed = true :=
      (passed_file_pathOf_iff hm.isEntryName).2 (hasNonDirectory_of_hasScript hadded.hasScript)
    have hmissing : (judge (p.file (pathOf m.counterpart.fileName))).passed = false :=
      not_passed_counterpart hadded hm hnew
    refine ⟨hext, hext.total, hthere, ?_⟩
    rw [hext.failures hpass]
    exact Catalog.Migrations.filter_pairRules hthere hmissing

/-- the first script of a migration beside the known ones -/
theorem audit_addFile_of_tags :
    let p := Project.ofRoot "/"
    let t := Tree.sample []
    let old := p.audit (t.disk t.top)
    ∃ here cwd', t.resolve t.top "/database/migrations" = .ok (.directory here) ∧
      let t' := t.addFile here (.text "004_add_tags.up.sql" (by decide)) .empty
      let new := p.audit (t'.disk cwd')
      Tree.IsSamePlace t t' t.top cwd' ∧ old.allPassed = true ∧ new.total = old.total + 2 ∧
        new.failures.map (·.name) = ["database/migrations/004_add_tags.down.sql is a file"] := by
  intro p t old
  have hpass : (p.audit (t.disk t.top)).allPassed = true := allPassed_sample fun _ h => nomatch h
  obtain ⟨above, hplace⟩ := Tree.resolve_sample_migrations []
  obtain ⟨here, hp, hall⟩ := audit_addFile .top hpass
  have hhere : here = ⟨Tree.sampleFiles Catalog.migrationFiles ++ [], above⟩ := by
    have h := hp.symm.trans hplace
    cases h
    rfl
  subst hhere
  have hroom : Place.HasRoomFor ⟨Tree.sampleFiles Catalog.migrationFiles ++ [], above⟩
      p.migrationsDirectory "004_add_tags.up.sql" (by decide) := by
    refine ⟨?_, by decide, by decide +kernel⟩
    rfl
  have hlinks : ∀ name target, (Tree.sampleFiles Catalog.migrationFiles ++ []).lookup name ≠
      some (.link target) := by
    intro name target h
    rw [List.append_nil] at h
    obtain ⟨_, _, hsplit, -⟩ := List.lookup_eq_some_iff.1 h
    have hmem : (name, Node.link target) ∈ Tree.sampleFiles Catalog.migrationFiles := by
      rw [hsplit]
      exact List.mem_append_right _ List.mem_cons_self
    obtain ⟨m, -, he⟩ := List.mem_filterMap.1 hmem
    split at he <;> cases he
  obtain ⟨cwd', hs, -, hnew⟩ := hall _ _ .empty hroom (by decide) hlinks
  have hread : MigrationName.ofFileName? "004_add_tags.up.sql" = some ⟨"004", "add_tags", .up⟩ := by
    decide +kernel
  obtain ⟨hm, hn⟩ := MigrationName.ofFileName?_eq_some_iff.1 hread
  obtain ⟨-, htotal, -, hfail⟩ := hnew _ hm hn
  refine ⟨_, cwd', hp, hs, hpass, htotal, ?_⟩
  rw [hfail]
  rfl

end Project

end ProjectAudit
