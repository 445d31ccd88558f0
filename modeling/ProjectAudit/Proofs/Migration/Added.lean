import ProjectAudit.Proofs.Catalog.Results
import ProjectAudit.Proofs.Migration.Misnamed
import ProjectAudit.Proofs.Rule.Kept

/-!
# One script more

A new script in the migration directory brings its own rules and leaves the others in their places:
one rule if it is misnamed (`rules_of_misnamed`), two if it begins a migration
(`rules_of_new_migration`).  Where everything passed before, only these can fail.
-/

namespace ProjectAudit

/-- the other direction -/
def Direction.other : Direction → Direction
  | .up => .down
  | .down => .up

namespace MigrationName

/-- the other script of the migration -/
def counterpart (m : MigrationName) : MigrationName := { m with direction := m.direction.other }

theorem IsWellFormed.counterpart {m : MigrationName} (h : m.IsWellFormed) :
    m.counterpart.IsWellFormed :=
  h.withDirection _

theorem fileName_injective {m m' : MigrationName} (h : m.IsWellFormed) (h' : m'.IsWellFormed)
    (he : m.fileName = m'.fileName) : m = m' := by
  have hread := ofFileName?_fileName h
  rw [he, ofFileName?_fileName h'] at hread
  exact (Option.some.inj hread).symm

theorem fileName_counterpart_ne {m : MigrationName} (h : m.IsWellFormed) :
    m.counterpart.fileName ≠ m.fileName := by
  intro he
  have hd := congrArg direction (fileName_injective h.counterpart h he)
  obtain ⟨serial, description, direction⟩ := m
  cases direction <;> cases hd

end MigrationName

/-! ## what is found -/

namespace Migration

/-- the second disk has one script more in the directory, and otherwise what was there -/
structure IsScriptAdded (disk disk' : Disk) (directory n : String) : Prop where
  kept : disk.IsKept disk'
  isNew : ∀ kind, ¬ disk.HasEntry directory n kind
  hasScript_iff : ∀ m, HasScript disk' directory m ↔ m = n ∨ HasScript disk directory m

namespace IsScriptAdded
variable {disk disk' : Disk} {directory n : String} (h : IsScriptAdded disk disk' directory n)
include h

theorem hasScript : HasScript disk' directory n := (h.hasScript_iff n).2 (.inl rfl)

theorem not_hasScript : ¬ HasScript disk directory n := fun hs => h.isNew _ hs.1

theorem hasMigration_iff {stem : String} : HasMigration disk' directory stem ↔
    (∃ m : MigrationName, m.IsWellFormed ∧ m.fileName = n ∧ m.stem = stem) ∨
      HasMigration disk directory stem := by
  constructor
  · rintro ⟨m, hm, hs, rfl⟩
    rcases (h.hasScript_iff _).1 hs with he | hs
    · exact .inl ⟨m, hm, he, rfl⟩
    · exact .inr ⟨m, hm, hs, rfl⟩
  · rintro (⟨m, hm, he, rfl⟩ | ⟨m, hm, hs, rfl⟩)
    · exact ⟨m, hm, (h.hasScript_iff _).2 (.inl he), rfl⟩
    · exact ⟨m, hm, (h.hasScript_iff _).2 (.inr hs), rfl⟩

theorem hasMigration_iff_of_misnamed (hc : ¬ FollowsConvention n) {stem : String} :
    HasMigration disk' directory stem ↔ HasMigration disk directory stem := by
  rw [h.hasMigration_iff]
  exact or_iff_right fun ⟨m, hm, he, _⟩ => hc ⟨m, hm, he⟩

theorem hasMigration_iff_of_wellFormed {m : MigrationName} (hm : m.IsWellFormed)
    (hn : m.fileName = n) {stem : String} :
    HasMigration disk' directory stem ↔ stem = m.stem ∨ HasMigration disk directory stem := by
  rw [h.hasMigration_iff]
  refine or_congr_left ⟨?_, fun he => ⟨m, hm, hn, he.symm⟩⟩
  rintro ⟨m', hm', he, rfl⟩
  rw [MigrationName.fileName_injective hm' hm (he.trans hn.symm)]

end IsScriptAdded

theorem rulesFor_eq (p : Project) (misnamed stems : List String) :
    rulesFor p misnamed stems = misnamed.map (misnamedRule p) ++ stems.flatMap (pairRules p) := rfl

end Migration

/-! ## the rules for what is found -/

namespace Catalog.Migrations
open Migration
variable {p : Project} {disk disk' : Disk} {n : String}

theorem rules_of_misnamed (h : IsScriptAdded disk disk' p.migrationsDirectory n)
    (hc : ¬ FollowsConvention n) :
    ∃ before after, rules p disk = before ++ after ∧
      rules p disk' = before ++ [misnamedRule p n] ++ after := by
  obtain ⟨misnamed, stems, hd, hr⟩ := exists_rules_eq p disk
  obtain ⟨misnamed', stems', hd', hr'⟩ := exists_rules_eq p disk'
  have hstems : stems = stems' := hd.stems_ascending.eq_of_mem_iff hd'.stems_ascending fun s => by
    rw [hd.mem_stems, hd'.mem_stems, h.hasMigration_iff_of_misnamed hc]
  have hnew : n ∉ misnamed := fun hn => h.not_hasScript ((hd.mem_misnamed n).1 hn).1
  obtain ⟨before, after, rfl, rfl⟩ := exists_append_of_mem_iff hd.misnamed_ascending
    hd'.misnamed_ascending hnew fun y => by
      rw [hd.mem_misnamed, hd'.mem_misnamed, h.hasScript_iff, or_and_right]
      exact or_congr_left ⟨And.left, fun he => ⟨he, he ▸ hc⟩⟩
  refine ⟨fixedRules p ++ before.map (misnamedRule p),
    after.map (misnamedRule p) ++ stems.flatMap (pairRules p), ?_, ?_⟩
  · rw [hr, rulesFor_eq]
    simp only [List.map_append, List.append_assoc]
  · rw [hr', rulesFor_eq, hstems]
    simp only [List.map_append, List.map_cons, List.append_assoc, List.cons_append,
      List.nil_append]

theorem rules_of_new_migration {m : MigrationName}
    (h : IsScriptAdded disk disk' p.migrationsDirectory m.fileName) (hm : m.IsWellFormed)
    (hk : m.stem ∉ knownStems) (hs : ¬ HasMigration disk p.migrationsDirectory m.stem) :
    ∃ before after, rules p disk = before ++ after ∧
      rules p disk' = before ++ pairRules p m.stem ++ after := by
  obtain ⟨misnamed, stems, hd, hr⟩ := exists_rules_eq p disk
  obtain ⟨misnamed', stems', hd', hr'⟩ := exists_rules_eq p disk'
  have hmisnamed : misnamed = misnamed' :=
    hd.misnamed_ascending.eq_of_mem_iff hd'.misnamed_ascending fun y => by
      rw [hd.mem_misnamed, hd'.mem_misnamed, h.hasScript_iff, or_and_right]
      refine (or_iff_right ?_).symm
      rintro ⟨rfl, hc⟩
      exact hc ⟨m, hm, rfl⟩
  have hnew : m.stem ∉ stems := fun hstem => hs ((hd.mem_stems _).1 hstem).2
  obtain ⟨before, after, rfl, rfl⟩ := exists_append_of_mem_iff hd.stems_ascending
    hd'.stems_ascending hnew fun s => by
      rw [hd.mem_stems, hd'.mem_stems, h.hasMigration_iff_of_wellFormed hm rfl, and_or_left]
      refine or_congr_left ⟨And.right, ?_⟩
      rintro rfl
      exact ⟨hk, rfl⟩
  refine ⟨fixedRules p ++ (misnamed.map (misnamedRule p) ++ before.flatMap (pairRules p)),
    after.flatMap (pairRules p), ?_, ?_⟩
  · rw [hr, rulesFor_eq]
    simp only [List.flatMap_append, List.append_assoc]
  · rw [hr', rulesFor_eq, hmisnamed]
    simp only [List.flatMap_append, List.flatMap_cons, List.append_assoc]

end Catalog.Migrations

end ProjectAudit
