import ProjectAudit.Catalog.Migrations
import ProjectAudit.Proofs.Disk.Collect
import ProjectAudit.Proofs.Migration.Name

/-!
# What discovery adds to the catalog

The rules on migrations are the fixed ones, then one for each misnamed script, then two for each
migration that the catalog does not know.  Both lists of names are strictly ascending in the order
of the bytes, so each is determined by its members, whatever the order of the listing:

* `mem_newStems`, `pairwise_newStems`   the stems that are checked;
* `isDiscovery_of_scripts`              what is discovered where the directory can be listed;
* `rules_eq_fixedRules_append`          all rules, on every disk.
-/

namespace ProjectAudit

namespace Migration

/-- a file of the directory that has the extension of a script -/
def HasScript (disk : Disk) (directory n : String) : Prop :=
  disk.HasEntry directory n .regular ∧ ".sql".toList <:+ n.toList

/-- a migration that one of the scripts in the directory belongs to -/
def HasMigration (disk : Disk) (directory stem : String) : Prop :=
  ∃ m : MigrationName, m.IsWellFormed ∧ HasScript disk directory m.fileName ∧ m.stem = stem

/-! ## misnamed scripts and new stems -/

theorem isMisnamed_iff {n : String} : isMisnamed n = true ↔ ¬ FollowsConvention n := by
  rw [followsConvention_iff, isMisnamed, Option.isNone_iff_eq_none, Option.not_isSome_iff_eq_none]

theorem pairwise_newStems (known names : List String) : (newStems known names).Pairwise ByteLT :=
  pairwise_sorted (nodup_distinct _)

theorem mem_newStems {known names : List String} {stem : String} :
    stem ∈ newStems known names ↔
      stem ∉ known ∧ ∃ m : MigrationName, m.IsWellFormed ∧ m.fileName ∈ names ∧ m.stem = stem := by
  unfold newStems
  rw [List.mem_mergeSort, mem_distinct, List.mem_filterMap]
  simp only [Option.filter_eq_some_iff, Option.map_eq_some_iff,
    MigrationName.ofFileName?_eq_some_iff, decide_eq_true_eq]
  constructor
  · rintro ⟨_, hn, ⟨m, ⟨hm, rfl⟩, hs⟩, hk⟩
    exact ⟨hk, m, hm, hn, hs⟩
  · rintro ⟨hk, m, hm, hn, hs⟩
    exact ⟨m.fileName, hn, ⟨m, ⟨hm, rfl⟩, hs⟩, hk⟩

/-! ## the rules that are added -/

/-- the names behind the rules that are added to the fixed ones -/
structure IsDiscovery (disk : Disk) (directory : String) (known misnamed stems : List String) :
    Prop where
  misnamed_ascending : misnamed.Pairwise ByteLT
  mem_misnamed : ∀ n, n ∈ misnamed ↔ HasScript disk directory n ∧ ¬ FollowsConvention n
  stems_ascending : stems.Pairwise ByteLT
  mem_stems : ∀ s, s ∈ stems ↔ s ∉ known ∧ HasMigration disk directory s

/-- the rules for these names, in this order -/
def rulesFor (p : Project) (misnamed stems : List String) : List Rule :=
  (misnamed.map fun n =>
      p.presence (n ++ " follows NNN_description.(up|down).sql") ("database/migrations/" ++ n)
        .absent) ++
    stems.flatMap fun s =>
      [p.presence ("database/migrations/" ++ (s ++ ".up.sql") ++ " is a file")
          ("database/migrations/" ++ (s ++ ".up.sql")) .file,
        p.presence ("database/migrations/" ++ (s ++ ".down.sql") ++ " is a file")
          ("database/migrations/" ++ (s ++ ".down.sql")) .file]

theorem discoveredRules_eq (p : Project) (known names : List String) :
    discoveredRules p known names
      = rulesFor p (names.filter isMisnamed) (newStems known names) := rfl

/-- nothing is listed, so nothing is added -/
theorem isDiscovery_nil {disk : Disk} {directory : String} {known : List String} {e : FileError}
    (h : disk.list directory = .error e) : IsDiscovery disk directory known [] [] where
  misnamed_ascending := .nil
  mem_misnamed n := by
    have hn : ¬ HasScript disk directory n := fun hs => Disk.not_hasEntry_of_list_error h hs.1
    simp [hn]
  stems_ascending := .nil
  mem_stems s := by
    have hs : ¬ HasMigration disk directory s := fun ⟨_, _, hm, _⟩ =>
      Disk.not_hasEntry_of_list_error h hm.1
    simp [hs]

/-- what is collected is all there is to discover -/
theorem isDiscovery_of_scripts {p : Project} {disk : Disk} {known names : List String}
    (h : scripts p disk = .ok names) :
    IsDiscovery disk p.migrationsDirectory known (names.filter isMisnamed)
      (newStems known names) := by
  obtain ⟨hsorted, hmem⟩ := Disk.collect_ok h
  refine ⟨hsorted.filter _, fun n => ?_, pairwise_newStems known names, fun s => ?_⟩
  · rw [List.mem_filter, isMisnamed_iff, hmem]
    exact Iff.rfl
  · rw [mem_newStems]
    simp only [hmem]
    exact Iff.rfl

end Migration

namespace Catalog.Migrations
open Migration

/-- the fixed rules look below the root and at nothing else of the project -/
theorem fixedRules_congr {p q : Project} (h : q.root = p.root) : fixedRules q = fixedRules p := by
  obtain ⟨root, directory⟩ := p
  obtain ⟨root', directory'⟩ := q
  cases h
  rfl

/-- the rules are the fixed ones and those for what is discovered -/
theorem exists_rules_eq (p : Project) (disk : Disk) :
    ∃ misnamed stems, IsDiscovery disk p.migrationsDirectory knownStems misnamed stems ∧
      rules p disk = fixedRules p ++ rulesFor p misnamed stems := by
  cases h : scripts p disk with
  | ok names =>
    refine ⟨_, _, isDiscovery_of_scripts h, ?_⟩
    rw [rules, h]
    exact congrArg (fixedRules p ++ ·) (discoveredRules_eq p knownStems names)
  | error e =>
    refine ⟨[], [], isDiscovery_nil (Disk.collect_error h).1, ?_⟩
    rw [rules, h]
    exact (List.append_nil _).symm

/-- without a listing only the fixed rules are left -/
theorem rules_of_list_error {p : Project} {disk : Disk} {e : FileError}
    (h : disk.list p.migrationsDirectory = .error e) : rules p disk = fixedRules p := by
  obtain ⟨misnamed, stems, hd, hr⟩ := exists_rules_eq p disk
  have hm : misnamed = [] := List.eq_nil_iff_forall_not_mem.2 fun n hn =>
    Disk.not_hasEntry_of_list_error h ((hd.mem_misnamed n).1 hn).1.1
  have hs : stems = [] := List.eq_nil_iff_forall_not_mem.2 fun s hs => by
    obtain ⟨_, _, _, hm, _⟩ := (hd.mem_stems s).1 hs
    exact Disk.not_hasEntry_of_list_error h hm.1
  rw [hr, hm, hs]
  exact List.append_nil _

/-- **The rules on migrations, on every disk.**  First come the fixed rules, which depend on the
root alone; then one rule against each misnamed script; then, for each migration beyond the
catalog, one for its up script and one for its down script.  A directory that cannot be listed, for
whatever reason, leaves the fixed rules alone. -/
theorem rules_eq_fixedRules_append (p : Project) (disk : Disk) :
    (∀ q : Project, q.root = p.root → fixedRules q = fixedRules p) ∧
      (∃ misnamed stems, IsDiscovery disk p.migrationsDirectory knownStems misnamed stems ∧
        rules p disk = fixedRules p ++ rulesFor p misnamed stems) ∧
      ∀ e, disk.list p.migrationsDirectory = .error e → rules p disk = fixedRules p :=
  ⟨fun _ h => fixedRules_congr h, exists_rules_eq p disk, fun _ h => rules_of_list_error h⟩

end Catalog.Migrations

end ProjectAudit
