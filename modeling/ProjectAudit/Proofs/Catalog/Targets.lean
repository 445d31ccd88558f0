import ProjectAudit.Proofs.Catalog.Conforming
import ProjectAudit.Proofs.Path.Pieces

/-!
# What the rules of the catalog look at

A rule is one of the fixed ones, or it is against a misnamed script, or it is for a script of a
migration that the catalog does not know (`Suite.mem_rules_cases`).  So all that a rule ever looks
at is a known directory, a known file or an entry of `database/migrations`, and these are paths that
lead strictly downwards from the root (`Project.targets_below_root`).
-/

namespace ProjectAudit
open Migration

namespace Migration
variable {n : String}

theorem pieces_pathOf (hn : IsEntryName n) :
    Path.pieces (pathOf n) = ["database", "migrations", n] := by
  have hd : Path.pieces directory = ["database", "migrations"] := by decide
  rw [pathOf, Path.pieces_append_slash, hd, hn.pieces_eq]
  rfl

theorem isEntryName_of_hasScript {disk : Disk} {directory : String}
    (h : HasScript disk directory n) : IsEntryName n := by
  obtain ⟨⟨_, hn, _⟩, _⟩ := h
  exact hn

end Migration

/-! ## the rules of a suite -/

/-- whether it takes a file to meet the demand -/
def Demand.isOnFile : Demand → Bool
  | .presence .file | .content _ => true
  | .presence .directory | .presence .absent => false

/-- a file that the catalog knows or a migration may have -/
def Catalog.IsFilePath (path : String) : Prop :=
  path ∈ filePaths ∨ ∃ m : MigrationName, m.IsWellFormed ∧ path = pathOf m.fileName

namespace Suite
variable {p : Project} {disk : Disk} {s : Suite} {r : Rule}

theorem root_of_mem_rules (hr : r ∈ s.rules p disk) : r.target.root = p.root := by
  rcases mem_rules_cases hr with hr | ⟨-, ⟨n, -, -, rfl⟩ | ⟨m, -, -, rfl⟩⟩
  · rw [fixedRules_eq_map] at hr
    obtain ⟨r, -, rfl⟩ := List.mem_map.1 hr
    rfl
  · rfl
  · rfl

theorem relative_of_directory (hr : r ∈ s.rules p disk) (hd : r.demand = .presence .directory) :
    r.target.relative ∈ Catalog.directories := by
  rcases mem_rules_cases hr with hr | ⟨-, ⟨n, -, -, rfl⟩ | ⟨m, -, -, rfl⟩⟩
  · have hk := isKnown_of_mem_fixedRules hr
    rw [Rule.isKnown, hd] at hk
    exact of_decide_eq_true hk
  · cases hd
  · cases hd

theorem relative_of_isOnFile (hr : r ∈ s.rules p disk) (hd : r.demand.isOnFile = true) :
    Catalog.IsFilePath r.target.relative := by
  rcases mem_rules_cases hr with hr | ⟨-, ⟨n, -, -, rfl⟩ | ⟨m, hm, -, rfl⟩⟩
  · have hk := isKnown_of_mem_fixedRules hr
    obtain ⟨name, target, demand⟩ := r
    cases demand with
    | content check => exact .inl (of_decide_eq_true hk)
    | presence expectation =>
      cases expectation with
      | file => exact .inl (of_decide_eq_true hk)
      | directory => cases hd
      | absent => cases hd
  · cases hd
  · exact .inr ⟨m, hm, rfl⟩

end Suite

/-! ## where the targets are -/

namespace Catalog
open ProjectAudit.Path

/-- the pieces of the known directories, and those of the root, which is none -/
def folderPieces : List (List String) := [] :: directories.map pieces

/-- a file stands in a folder under a name that is not the name of a folder there -/
def IsInFolder (path : String) : Prop :=
  ∃ folder ∈ folderPieces, ∃ n, IsEntryName n ∧ pieces path = folder ++ [n] ∧
    folder ++ [n] ∉ folderPieces

theorem isPlain_folderPieces :
    ∀ folder ∈ folderPieces, ∀ piece ∈ folder, piece ≠ "" ∧ piece ≠ "." ∧ piece ≠ ".." := by
  decide +kernel

theorem length_folderPieces : ∀ folder ∈ folderPieces, folder.length ≤ 2 := by
  decide +kernel

theorem pieces_mem_folderPieces {path : String} (h : path ∈ directories) :
    pieces path ∈ folderPieces :=
  List.mem_cons_of_mem _ (List.mem_map_of_mem h)

theorem isPlain_of_mem_directories {path : String} (h : path ∈ directories) : IsPlain path :=
  isPlain_folderPieces _ (pieces_mem_folderPieces h)

theorem isInFolder_of_mem_folders : ∀ folder ∈ folders, pieces folder.1 ∈ folderPieces ∧
    ∀ n ∈ folder.2, IsEntryName n ∧ pieces folder.1 ++ [n] ∉ folderPieces := by
  decide +kernel

theorem isInFolder_pathOf {n : String} (hn : IsEntryName n) : IsInFolder (pathOf n) := by
  have hd : ["database", "migrations"] ∈ folderPieces := by decide +kernel
  refine ⟨["database", "migrations"], hd, n, hn, pieces_pathOf hn, fun h => ?_⟩
  have hl := length_folderPieces _ h
  simp at hl

theorem IsFilePath.isInFolder {path : String} (h : IsFilePath path) : IsInFolder path := by
  rcases h with h | ⟨m, hm, rfl⟩
  · rcases List.mem_cons.1 h with rfl | h
    · exact ⟨[], by decide, "README.md", by decide +kernel⟩
    · obtain ⟨folder, hfolder, h⟩ := List.mem_flatMap.1 h
      obtain ⟨n, hn, rfl⟩ := List.mem_map.1 h
      obtain ⟨hpieces, hnames⟩ := isInFolder_of_mem_folders folder hfolder
      obtain ⟨hname, hnew⟩ := hnames n hn
      refine ⟨_, hpieces, n, hname, ?_, hnew⟩
      rw [pieces_append_slash, hname.pieces_eq]
  · exact isInFolder_pathOf hm.isEntryName

theorem names_of_migrationFolder : ∀ folder ∈ folders,
    pieces folder.1 = ["database", "migrations"] → folder.2 = migrationFiles := by
  decide +kernel

/-- the known scripts are the only known files that can be taken for scripts -/
theorem mem_scriptNames_of_pathOf {n : String} (hn : IsEntryName n)
    (hsql : ".sql".toList <:+ n.toList) (h : pathOf n ∈ filePaths) : n ∈ scriptNames := by
  have hpieces := pieces_pathOf hn
  rcases List.mem_cons.1 h with he | h
  · have hlength : (pieces (pathOf n)).length = 3 := congrArg List.length hpieces
    rw [he] at hlength
    exact absurd hlength (by decide)
  · obtain ⟨folder, hfolder, h⟩ := List.mem_flatMap.1 h
    obtain ⟨m, hm, he⟩ := List.mem_map.1 h
    have hname := ((isInFolder_of_mem_folders folder hfolder).2 m hm).1
    rw [← he, pieces_append_slash, hname.pieces_eq] at hpieces
    have hpieces : pieces folder.1 ++ [m] = ["database", "migrations"] ++ [n] := hpieces
    obtain ⟨hdirectory, hmn⟩ := List.append_inj' hpieces rfl
    rw [names_of_migrationFolder folder hfolder hdirectory, List.singleton_inj.1 hmn] at hm
    rcases List.mem_append.1 hm with hm | hm
    · exact hm
    · rw [List.mem_singleton.1 hm] at hsql
      exact absurd hsql (by decide)

theorem IsInFolder.isPlain {path : String} (h : IsInFolder path) : IsPlain path := by
  obtain ⟨folder, hfolder, n, hn, hpieces, -⟩ := h
  intro piece hp
  rw [hpieces] at hp
  rcases List.mem_append.1 hp with hp | hp
  · exact isPlain_folderPieces folder hfolder piece hp
  · rw [List.mem_singleton.1 hp]
    exact ⟨hn.1, hn.2.1, hn.2.2.1⟩

end Catalog

namespace Suite
variable {p : Project} {disk : Disk} {s : Suite} {r : Rule}

/-- what is asked to be a file or to be absent would stand in a folder -/
theorem isInFolder_relative (hr : r ∈ s.rules p disk) (hd : r.demand ≠ .presence .directory) :
    Catalog.IsInFolder r.target.relative := by
  cases hdemand : r.demand with
  | content check => exact (relative_of_isOnFile hr (by rw [hdemand]; rfl)).isInFolder
  | presence expectation =>
    cases expectation with
    | file => exact (relative_of_isOnFile hr (by rw [hdemand]; rfl)).isInFolder
    | directory => exact absurd hdemand hd
    | absent =>
      obtain ⟨-, n, hscript, -, rfl⟩ := exists_misnamed_of_absent hr hdemand
      exact Catalog.isInFolder_pathOf (isEntryName_of_hasScript hscript)

theorem isPlain_relative (hr : r ∈ s.rules p disk) : Path.IsPlain r.target.relative := by
  by_cases hd : r.demand = .presence .directory
  · exact Catalog.isPlain_of_mem_directories (relative_of_directory hr hd)
  · exact (isInFolder_relative hr hd).isPlain

theorem components_relative (hr : r ∈ s.rules p disk) :
    Path.components r.target.relative = Path.pieces r.target.relative :=
  (isPlain_relative hr).components_eq

end Suite

namespace Project

theorem mem_ruleSets {p : Project} {disk : Disk} {only : List String} {set : RuleSet} :
    set ∈ p.ruleSets disk only ↔ ∃ s ∈ Suite.selection only, s.build p disk = set := List.mem_map

/-- **Every rule looks at a path below the root, and is displayed under it.**  The path is not empty
and not absolute, and between its slashes are names alone, so it is displayed as it is, and it leads
down from wherever the root is.  In a project that is known by its root, the rule against a misnamed
script looks at the very path under which the script is listed. -/
theorem targets_below_root (disk : Disk) (only : List String) :
    (∀ p : Project, ∀ set ∈ p.ruleSets disk only, ∀ r ∈ set.rules,
      r.target.root = p.root ∧
      r.target.relative ≠ "" ∧ Path.isAbsolute r.target.relative = false ∧
      (∀ piece ∈ Path.pieces r.target.relative, piece ≠ "" ∧ piece ≠ "." ∧ piece ≠ "..") ∧
      r.target.display = r.target.relative ∧
      Path.components r.target.absolute =
        Path.components p.root ++ Path.pieces r.target.relative) ∧
    ∀ root : String, ∀ set ∈ (ofRoot root).ruleSets disk only, ∀ r ∈ set.rules,
      r.demand = .presence .absent →
        ∃ n, HasScript disk (ofRoot root).migrationsDirectory n ∧
          r.name = n ++ " follows NNN_description.(up|down).sql" ∧
          r.target.absolute = Path.join (ofRoot root).migrationsDirectory n := by
  constructor
  · intro p set hset r hr
    obtain ⟨s, -, rfl⟩ := mem_ruleSets.1 hset
    have hr : r ∈ s.rules p disk := hr
    have hroot := Suite.root_of_mem_rules hr
    have hplain := Suite.isPlain_relative hr
    refine ⟨hroot, hplain.ne_empty, hplain.isAbsolute_eq_false, hplain, hplain.display_eq, ?_⟩
    rw [Target.absolute, hroot]
    exact hplain.components_join p.root
  · intro root set hset r hr hd
    obtain ⟨s, -, rfl⟩ := mem_ruleSets.1 hset
    obtain ⟨-, n, hscript, -, rfl⟩ := Suite.exists_misnamed_of_absent hr hd
    exact ⟨n, hscript, rfl, join_pathOf (isEntryName_of_hasScript hscript)⟩

/-- the root is a dot with a slash, and the name of the script starts with two dots -/
theorem targets_below_dot :
    let database : FileName := .text "database" (by decide)
    let migrations : FileName := .text "migrations" (by decide)
    let script : FileName := .text "..sql" (by decide)
    let t : Tree := ⟨[(database, .directory [(migrations, .directory [(script, .file .empty)])])]⟩
    let p := ofRoot "./"
    ∃ set ∈ p.ruleSets (t.disk t.top) ["migrations"], ∃ r ∈ set.rules,
      r.demand = .presence .absent ∧ r.target.display = "database/migrations/..sql" ∧
        r.target.absolute = "./database/migrations/..sql" ∧
        Path.components r.target.absolute = [".", "database", "migrations", "..sql"] := by
  intro database migrations script t p
  have hpath : Path.join p.migrationsDirectory "..sql" = "./database/migrations/..sql" := by decide
  have hstat : (t.disk t.top).stat (Path.join p.migrationsDirectory "..sql") = .ok .regular := by
    rw [hpath]
    rfl
  have hscript : HasScript (t.disk t.top) p.migrationsDirectory "..sql" :=
    ⟨Tree.hasEntry_disk (by decide) needsSlash_migrationsDirectory hstat, by decide⟩
  have hc : ¬ FollowsConvention "..sql" := by
    rw [followsConvention_iff]
    decide +kernel
  have hset : Suite.migrations.build p (t.disk t.top) ∈ p.ruleSets (t.disk t.top) ["migrations"] :=
    mem_ruleSets.2 ⟨.migrations, by decide, rfl⟩
  have hr : misnamedRule p "..sql" ∈ (Suite.migrations.build p (t.disk t.top)).rules :=
    Catalog.Migrations.misnamedRule_mem_rules hscript hc
  obtain ⟨hbelow, habsent⟩ := targets_below_root (t.disk t.top) ["migrations"]
  obtain ⟨-, -, -, -, hdisplay, hcomponents⟩ := hbelow p _ hset _ hr
  obtain ⟨n, -, hname, habsolute⟩ := habsent "./" _ hset _ hr rfl
  have hn : "..sql" = n := String.append_left_inj _ |>.1 hname
  subst hn
  refine ⟨_, hset, _, hr, rfl, hdisplay, habsolute.trans hpath, hcomponents.trans ?_⟩
  decide +kernel

end Project

end ProjectAudit
