import ProjectAudit.Proofs.Catalog.Specimen
import ProjectAudit.Proofs.Disk.Entry
import ProjectAudit.Proofs.Migration.Verdict

/-!
# A project that conforms

The fixed rules of the catalog look for certain directories and files.  They pass wherever all of
these are in place and every file holds a text that passes every check (`Suite.passed_fixedRules`),
and unless a script beyond the known ones is found, no other rule is added.  `Tree.sample` is such a
project, whatever else is in its migration directory under names that are no texts
(`allPassed_sample`).
-/

namespace ProjectAudit

/-! ## what the fixed rules look for -/

namespace Catalog

def directories : List String := Layout.directories ++ [Migration.directory]

/-- the names of the scripts of the known migrations -/
def scriptNames : List String :=
  Migrations.knownStems.flatMap fun stem => [stem ++ ".up.sql", stem ++ ".down.sql"]

def backendFiles : List String := ["README.md", "package.json", "server.js", ".gitignore"]

def frontendFiles : List String :=
  ["README.md", "package.json", "index.html", "vite.config.js", ".gitignore"]

def databaseFiles : List String := ["schema.sql", "README.md"]

def migrationFiles : List String := scriptNames ++ ["README.md"]

def sharedFiles : List String := ["README.md"]

def dockerFiles : List String := ["docker-compose.yml", "Dockerfile", "README.md"]

/-- the files by the directories they are in, apart from the one directly below the root -/
def folders : List (String × List String) := [
  ("backend", backendFiles), ("frontend", frontendFiles), ("database", databaseFiles),
  (Migration.directory, migrationFiles), ("shared", sharedFiles), ("docker", dockerFiles)]

def filePaths : List String :=
  "README.md" :: folders.flatMap fun (directory, names) => names.map (directory ++ "/" ++ ·)

end Catalog

/-- every directory is there, and every file with the text that passes every check -/
structure Disk.IsFurnished (disk : Disk) (root : String) : Prop where
  directory : ∀ path ∈ Catalog.directories, disk.stat (Path.join root path) = .ok .directory
  file : ∀ path ∈ Catalog.filePaths, disk.stat (Path.join root path) = .ok .regular
  text : ∀ path ∈ Catalog.filePaths, disk.read (Path.join root path) = .ok (.ofList specimen)

/-- the rule looks at a path that is known to be there -/
def Rule.isKnown (r : Rule) : Bool :=
  match r.demand with
  | .presence .directory => r.target.relative ∈ Catalog.directories
  | .presence .file | .content _ => r.target.relative ∈ Catalog.filePaths
  | .presence .absent => false

namespace Suite
open Migration
variable {p : Project} {disk : Disk} {s : Suite}

theorem isKnown_fixedRules (s : Suite) : ∀ r ∈ s.fixedRules (.ofRoot ""), r.isKnown = true := by
  have h : (s.fixedRules (.ofRoot "")).all (·.isKnown) = true := by
    cases s <;> decide +kernel
  exact List.all_eq_true.1 h

theorem isKnown_of_mem_fixedRules {r : Rule} (hr : r ∈ s.fixedRules p) : r.isKnown = true := by
  rw [fixedRules_eq_map] at hr
  obtain ⟨r, hmem, rfl⟩ := List.mem_map.1 hr
  exact s.isKnown_fixedRules r hmem

/-- only misnamed scripts are asked to be absent -/
theorem exists_misnamed_of_absent {r : Rule} (hr : r ∈ s.rules p disk)
    (hd : r.demand = .presence .absent) :
    s = .migrations ∧ ∃ n, HasScript disk p.migrationsDirectory n ∧ ¬ FollowsConvention n ∧
      r = misnamedRule p n := by
  rcases mem_rules_cases hr with hr | ⟨hs, h | ⟨m, -, -, rfl⟩⟩
  · have hk := isKnown_of_mem_fixedRules hr
    rw [Rule.isKnown, hd] at hk
    cases hk
  · exact ⟨hs, h⟩
  · cases hd

theorem content_mem_checks {name : String} {target : Target} {check : ContentCheck}
    (h : ⟨name, target, .content check⟩ ∈ s.fixedRules (.ofRoot "")) : check ∈ s.checks :=
  List.mem_filterMap.2 ⟨_, h, rfl⟩

theorem passed_fixedRules (h : disk.IsFurnished p.root) {r : Rule} (hr : r ∈ s.fixedRules p)
    (suite : String) : (r.result disk suite).passed = true := by
  rw [fixedRules_eq_map] at hr
  obtain ⟨⟨name, ⟨_, path⟩, demand⟩, hmem, rfl⟩ := List.mem_map.1 hr
  have hk := s.isKnown_fixedRules _ hmem
  cases demand with
  | content check =>
    have hpath : path ∈ Catalog.filePaths := of_decide_eq_true hk
    have hread : disk.read (p.target path).absolute = .ok (.ofList specimen) := h.text path hpath
    obtain ⟨hvalid, hpass⟩ := s.passes_specimen check (content_mem_checks hmem)
    rw [← String.toList_ofList (l := specimen)] at hpass
    exact (Rule.passed_of_read (r := ⟨name, p.target path, .content check⟩) rfl hread).2
      ⟨hvalid, hpass⟩
  | presence expectation =>
    cases expectation with
    | file =>
      have hpath : path ∈ Catalog.filePaths := of_decide_eq_true hk
      show ((p.presence name path .file).result disk suite).passed = true
      exact Project.passed_file_iff.2 ⟨.regular, h.file path hpath, by decide⟩
    | directory =>
      have hpath : path ∈ Catalog.directories := of_decide_eq_true hk
      show ((p.presence name path .directory).result disk suite).passed = true
      exact Project.passed_directory_iff.2 (h.directory path hpath)
    | absent => cases hk

end Suite

/-! ## without scripts beyond the known ones -/

namespace Catalog.Migrations
open Migration

theorem stem_mem_knownStems {m : MigrationName} (hm : m.IsWellFormed)
    (h : m.fileName ∈ scriptNames) : m.stem ∈ knownStems := by
  have hall : scriptNames.all (fun n =>
      (MigrationName.ofFileName? n).all fun m => m.stem ∈ knownStems) = true := by decide +kernel
  have hs := List.all_eq_true.1 hall _ h
  rw [MigrationName.ofFileName?_eq_some_iff.2 ⟨hm, rfl⟩] at hs
  exact of_decide_eq_true hs

theorem followsConvention_of_mem {n : String} (h : n ∈ scriptNames) : FollowsConvention n := by
  have hall : scriptNames.all (fun n => (MigrationName.ofFileName? n).isSome) = true := by
    decide +kernel
  exact followsConvention_iff.2 (List.all_eq_true.1 hall n h)

/-- nothing is discovered -/
theorem rules_eq_fixedRules {p : Project} {disk : Disk}
    (h : ∀ n, HasScript disk p.migrationsDirectory n → n ∈ scriptNames) :
    rules p disk = fixedRules p := by
  obtain ⟨misnamed, stems, hd, hr⟩ := exists_rules_eq p disk
  have hm : misnamed = [] := List.eq_nil_iff_forall_not_mem.2 fun n hn => by
    obtain ⟨hs, hc⟩ := (hd.mem_misnamed n).1 hn
    exact hc (followsConvention_of_mem (h n hs))
  have hs : stems = [] := List.eq_nil_iff_forall_not_mem.2 fun stem hstem => by
    obtain ⟨hk, m, hm, hs, rfl⟩ := (hd.mem_stems stem).1 hstem
    exact hk (stem_mem_knownStems hm (h _ hs))
  rw [hr, hm, hs]
  exact List.append_nil _

end Catalog.Migrations

theorem Project.allPassed_audit {p : Project} {disk : Disk} (h : disk.IsFurnished p.root)
    (hs : ∀ n, Migration.HasScript disk p.migrationsDirectory n →
      n ∈ Catalog.scriptNames) : (p.audit disk).allPassed = true := by
  refine List.all_eq_true.2 fun r hr => ?_
  obtain ⟨s, -, rule, hrule, rfl⟩ := mem_results_runAll.1 hr
  refine Suite.passed_fixedRules (s := s) h ?_ s.name
  cases s with
  | migrations =>
    have hrule : rule ∈ Catalog.Migrations.rules p disk := hrule
    rwa [Catalog.Migrations.rules_eq_fixedRules hs] at hrule
  | _ => exact hrule

/-! ## the sample -/

namespace Tree

/-- a file for each of the names that can name one -/
def sampleFiles (names : List String) : Entries :=
  names.filterMap fun n =>
    if isName : IsEntryName n then some (.text n isName, .file (String.ofList specimen).toUTF8)
    else none

theorem lookup_sampleFiles {names : List String} {n : String} (hn : IsEntryName n) (h : n ∈ names)
    (later : Entries) : (sampleFiles names ++ later).lookup (.text n hn) =
      some (.file (String.ofList specimen).toUTF8) := by
  induction names with
  | nil => cases h
  | cons m names ih =>
    have hne : n ≠ m → n ∈ names := fun hne => (List.mem_cons.1 h).resolve_left hne
    unfold sampleFiles at ih ⊢
    by_cases hm : IsEntryName m
    · rw [List.filterMap_cons_some (dif_pos hm), List.cons_append, List.lookup_cons]
      by_cases he : n = m
      · subst he
        simp
      · have hb : (FileName.text n hn == FileName.text m hm) = false :=
          beq_eq_false_iff_ne.2 fun heq => he (FileName.text.inj heq)
        rw [hb]
        exact ih (hne he)
    · rw [List.filterMap_cons_none (dif_neg hm)]
      refine ih (hne ?_)
      rintro rfl
      exact hm hn

theorem mem_of_mem_sampleFiles {names : List String} {n : String} {isName : IsEntryName n}
    (h : FileName.text n isName ∈ (sampleFiles names).map (·.1)) : n ∈ names := by
  obtain ⟨entry, hmem, hname⟩ := List.mem_map.1 h
  obtain ⟨m, hm, he⟩ := List.mem_filterMap.1 hmem
  split at he
  · cases he
    cases hname
    exact hm
  · cases he

def sampleDirectory (name : String) (isName : IsEntryName name) (entries : Entries) :
    FileName × Node :=
  (.text name isName, .directory entries)

/-- a project in the directory `/`, with more entries in its migration directory -/
def sample (more : Entries) : Tree := ⟨[
  sampleDirectory "backend" (by decide) (sampleFiles Catalog.backendFiles),
  sampleDirectory "frontend" (by decide)
    (sampleFiles Catalog.frontendFiles ++ [sampleDirectory "src" (by decide) []]),
  sampleDirectory "database" (by decide)
    (sampleFiles Catalog.databaseFiles ++
      [sampleDirectory "migrations" (by decide) (sampleFiles Catalog.migrationFiles ++ more)]),
  sampleDirectory "shared" (by decide) (sampleFiles Catalog.sharedFiles),
  sampleDirectory "docker" (by decide) (sampleFiles Catalog.dockerFiles)] ++
  sampleFiles ["README.md"]⟩

section
variable (more : Entries)

/-- as it is seen from its root -/
def sampleDisk : Disk := (sample more).disk (sample more).top

theorem stat_sample_directory : ∀ path ∈ Catalog.directories,
    (sampleDisk more).stat (Path.join "/" path) = .ok .directory := by
  unfold Catalog.directories Catalog.Layout.directories
  simp only [List.cons_append, List.nil_append, List.forall_mem_cons]
  exact ⟨rfl, rfl, rfl, rfl, rfl, rfl, rfl, fun _ h => nomatch h⟩

/-- the directory can be given in front of a name, and it is there with files of these names -/
structure IsSampleFolder (directory : String) (names : List String) : Prop where
  needsSlash : Path.NeedsSlash directory
  isRelative : Path.isAbsolute directory = false
  /-- short enough for the paths of the files -/
  isShort : (Path.join "/" directory).utf8ByteSize ≤ 1000
  isNamed : ∀ n ∈ names, IsEntryName n ∧ n.utf8ByteSize ≤ maxNameSize
  isThere : ∃ place, (sample more).resolve (sample more).top (Path.join "/" directory) =
    .ok (.directory place) ∧ sampleFiles names <+: place.entries

theorem IsSampleFolder.resolve_file {more : Entries} {directory : String} {names : List String}
    (h : IsSampleFolder more directory names) {n : String} (hn : n ∈ names) :
    (sample more).resolve (sample more).top (Path.join "/" (directory ++ "/" ++ n)) =
      .ok (.file (String.ofList specimen).toUTF8) := by
  obtain ⟨hname, hsize⟩ := h.isNamed n hn
  obtain ⟨place, hp, later, hlater⟩ := h.isThere
  have hpath : (Path.join "/" directory).utf8ByteSize + 1 + n.utf8ByteSize ≤ maxPathSize := by
    have hshort := h.isShort
    unfold maxNameSize at hsize
    unfold maxPathSize
    omega
  rw [← Path.join_join h.needsSlash h.isRelative hname.isAbsolute_eq_false]
  refine resolve_join hname (Path.needsSlash_join h.needsSlash h.isRelative) hp hpath hsize ?_
  rw [← hlater]
  exact lookup_sampleFiles hname hn later

theorem isSampleFolder_of_mem :
    ∀ folder ∈ Catalog.folders, IsSampleFolder more folder.1 folder.2 := by
  unfold Catalog.folders
  simp only [List.forall_mem_cons]
  refine ⟨?_, ?_, ?_, ?_, ?_, ?_, fun _ h => nomatch h⟩
  · exact ⟨⟨'d', by decide⟩, by decide, by decide, by decide, _, rfl, List.prefix_rfl⟩
  · exact ⟨⟨'d', by decide⟩, by decide, by decide, by decide, _, rfl, List.prefix_append _ _⟩
  · exact ⟨⟨'e', by decide⟩, by decide, by decide, by decide, _, rfl, List.prefix_append _ _⟩
  · exact ⟨Migration.needsSlash_directory, Migration.isAbsolute_directory, by decide,
      by decide +kernel, _, rfl, List.prefix_append _ _⟩
  · exact ⟨⟨'d', by decide⟩, by decide, by decide, by decide, _, rfl, List.prefix_rfl⟩
  · exact ⟨⟨'r', by decide⟩, by decide, by decide, by decide, _, rfl, List.prefix_rfl⟩

theorem resolve_sample_file : ∀ path ∈ Catalog.filePaths,
    (sample more).resolve (sample more).top (Path.join "/" path) =
      .ok (.file (String.ofList specimen).toUTF8) := by
  intro path h
  rcases List.mem_cons.1 h with rfl | h
  · rfl
  · obtain ⟨folder, hfolder, h⟩ := List.mem_flatMap.1 h
    obtain ⟨n, hn, rfl⟩ := List.mem_map.1 h
    exact (isSampleFolder_of_mem more folder hfolder).resolve_file hn

theorem isFurnished_sample : (sampleDisk more).IsFurnished "/" where
  directory := stat_sample_directory more
  file path h := stat_eq_ok_iff.2 ⟨_, resolve_sample_file more path h, rfl⟩
  text path h := read_of_resolve (resolve_sample_file more path h)

theorem resolve_sample_migrations : ∃ above,
    (sample more).resolve (sample more).top "/database/migrations" =
      .ok (.directory ⟨sampleFiles Catalog.migrationFiles ++ more, above⟩) := ⟨_, rfl⟩

end

/-- nothing but the known scripts is found if the other entries have names that are no texts -/
theorem mem_scriptNames_of_hasScript {more : Entries} (h : ∀ entry ∈ more, entry.1.text? = none)
    {n : String} (hs : Migration.HasScript (sampleDisk more) "/database/migrations" n) :
    n ∈ Catalog.scriptNames := by
  obtain ⟨above, hplace⟩ := resolve_sample_migrations more
  obtain ⟨isName, hn⟩ := mem_of_hasEntry hplace hs.1
  have hn : FileName.text n isName ∈ (sampleFiles Catalog.migrationFiles ++ more).map (·.1) := hn
  rw [List.map_append] at hn
  rcases List.mem_append.1 hn with hn | hn
  · rcases List.mem_append.1 (mem_of_mem_sampleFiles hn) with hn | hn
    · exact hn
    · rw [List.mem_singleton.1 hn] at hs
      exact absurd hs.2 (by decide)
  · obtain ⟨entry, hmem, hname⟩ := List.mem_map.1 hn
    have ht := h entry hmem
    rw [hname] at ht
    cases ht

end Tree

theorem allPassed_sample {more : Entries} (h : ∀ entry ∈ more, entry.1.text? = none) :
    ((Project.ofRoot "/").audit (Tree.sampleDisk more)).allPassed = true :=
  Project.allPassed_audit (Tree.isFurnished_sample more) fun _ hs =>
    Tree.mem_scriptNames_of_hasScript h hs

end ProjectAudit
