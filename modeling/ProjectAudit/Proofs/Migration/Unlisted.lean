import ProjectAudit.Catalog.Suite
import ProjectAudit.Proofs.Disk.Walk
import ProjectAudit.Proofs.Migration.Discovery
import ProjectAudit.Proofs.Rule.Presence

/-!
# Migration directories that cannot be listed

Probing a path and collecting the files below it ask the operating system different questions, but
on a disk that keeps nothing from being looked at they fail alike.  So discovery adds nothing for
want of a directory only where the rule that there be one fails (`not_passed_of_unlisted`).
-/

namespace ProjectAudit

/-- a path is listed exactly if it leads to a directory, and it cannot be listed for the reason for
which it cannot be looked at: no permission keeps a directory closed -/
structure Disk.IsOpen (disk : Disk) : Prop where
  list_directory : ∀ {path}, disk.stat path = .ok .directory →
    ∃ listing, disk.list path = .ok listing
  list_other : ∀ {path kind}, disk.stat path = .ok kind → kind ≠ .directory →
    disk.list path = .error .notADirectory
  list_error : ∀ {path e}, disk.stat path = .error e → disk.list path = .error e

/-- nothing in a file tree is closed -/
theorem Tree.isOpen_disk (t : Tree) (cwd : Place) : (t.disk cwd).IsOpen where
  list_directory h := by
    obtain ⟨found, hf, hk⟩ := stat_eq_ok_iff.1 h
    cases found with
    | file content => cases hk
    | directory place => exact ⟨_, list_of_resolve hf⟩
  list_other h hne := by
    obtain ⟨found, hf, rfl⟩ := stat_eq_ok_iff.1 h
    cases found with
    | directory place => exact absurd rfl hne
    | file content =>
      show t.resolve cwd _ >>= Found.listing = _
      rw [hf]
      rfl
  list_error {path e} h := by
    change (t.resolve cwd path).map Found.kind = .error e at h
    show t.resolve cwd path >>= Found.listing = .error e
    cases hr : t.resolve cwd path with
    | ok found =>
      rw [hr] at h
      cases h
    | error e' =>
      rw [hr] at h
      cases h
      rfl

namespace Disk

/-! ## probing -/

theorem probe_eq_error_iff {disk : Disk} {target : Target} {fault : Fault} :
    disk.probe target = .error fault ↔
      ∃ e, fault = .inspection target.display e ∧ e.isAbsence = false ∧
        disk.stat target.absolute = .error e := by
  unfold probe
  constructor
  · intro h
    split at h
    · cases h
    · rename_i e hs
      split at h
      · cases h
      · rename_i he
        cases h
        exact ⟨e, rfl, Bool.eq_false_iff.2 he, hs⟩
  · rintro ⟨e, rfl, he, hs⟩
    rw [hs]
    simp [he]

/-- nothing at the path, or something that is no directory -/
theorem probe_eq_ok {disk : Disk} {target : Target} {observed : Observation}
    (h : disk.probe target = .ok observed) (hne : observed ≠ .directory) :
    (∃ kind, disk.stat target.absolute = .ok kind ∧ kind ≠ .directory) ∨
      ∃ e, disk.stat target.absolute = .error e ∧ e.isAbsence = true := by
  unfold probe at h
  split at h
  · rename_i kind hs
    cases h
    refine .inl ⟨kind, hs, ?_⟩
    rintro rfl
    exact hne rfl
  · rename_i e hs
    split at h
    · rename_i he
      exact .inr ⟨e, hs, he⟩
    · cases h

/-! ## probing and collecting -/

namespace IsOpen
variable {disk : Disk} (h : disk.IsOpen) {target : Target} {extension : String}
include h

theorem collect_eq_error_iff {e : FileError} :
    disk.collect target.absolute extension = .error e ↔
      disk.stat target.absolute = .error e ∧ e.isAbsence = false := by
  constructor
  · intro hc
    obtain ⟨hl, he⟩ := collect_error hc
    refine ⟨?_, he⟩
    cases hs : disk.stat target.absolute with
    | error e' =>
      rw [h.list_error hs] at hl
      cases hl
      rfl
    | ok kind =>
      by_cases hk : kind = .directory
      · subst hk
        obtain ⟨listing, hl'⟩ := h.list_directory hs
        rw [hl'] at hl
        cases hl
      · -- that it is no directory counts as absence
        rw [h.list_other hs hk] at hl
        cases hl
        cases he
  · rintro ⟨hs, he⟩
    unfold collect
    rw [h.list_error hs]
    simp [he]

theorem probe_eq_error_iff_collect {fault : Fault} :
    disk.probe target = .error fault ↔
      ∃ e, fault = .inspection target.display e ∧
        disk.collect target.absolute extension = .error e := by
  rw [probe_eq_error_iff]
  refine exists_congr fun e => and_congr_right fun _ => ?_
  rw [h.collect_eq_error_iff]
  exact and_comm

theorem collect_eq_nil {observed : Observation} (hp : disk.probe target = .ok observed)
    (hne : observed ≠ .directory) : disk.collect target.absolute extension = .ok [] := by
  unfold collect
  rcases probe_eq_ok hp hne with ⟨kind, hs, hk⟩ | ⟨e, hs, he⟩
  · rw [h.list_other hs hk]
    rfl
  · rw [h.list_error hs]
    simp [he]

end IsOpen

end Disk

namespace Catalog.Migrations
open Migration

theorem directory_mem_rules (p : Project) (disk : Disk) :
    p.directory directory ∈ rules p disk := by
  obtain ⟨_, _, _, hr⟩ := exists_rules_eq p disk
  have hf : p.directory directory ∈ fixedRules p := by
    unfold fixedRules
    exact List.mem_append_left _ List.mem_cons_self
  rw [hr]
  exact List.mem_append_left _ hf

theorem list_error_of_events {p : Project} {disk : Disk} (h : events p disk ≠ []) :
    ∃ e, disk.list p.migrationsDirectory = .error e := by
  unfold events at h
  split at h
  · exact absurd rfl h
  · rename_i e hs
    exact ⟨e, (Disk.collect_error hs).1⟩

/-- **Discovery is not skipped in silence.**  Collecting the files of a directory fails exactly if
probing it does, and for the same reason; it gives nothing where there is no directory.  So wherever
the migration directory is missing, is no directory or cannot be listed, logged or not, a rule of
the suite fails. -/
theorem not_passed_of_unlisted {disk : Disk} (h : disk.IsOpen) (root : String) :
    (∀ relative extension : String,
      (∀ fault, disk.probe ⟨root, relative⟩ = .error fault ↔
        ∃ e, fault = .inspection (Path.display relative) e ∧
          disk.collect (Path.join root relative) extension = .error e) ∧
      (disk.probe ⟨root, relative⟩ = .ok .nothing ∨ disk.probe ⟨root, relative⟩ = .ok .file →
        disk.collect (Path.join root relative) extension = .ok [])) ∧
    ∃ rule ∈ (Suite.build (.ofRoot root) disk .migrations).rules,
      rule.name = "database/migrations is a directory" ∧
        (events (.ofRoot root) disk ≠ [] ∨
            (∃ e, disk.list (Project.ofRoot root).migrationsDirectory = .error e) →
          (rule.result disk Suite.migrations.name).passed = false) := by
  refine ⟨fun relative extension => ⟨fun fault => ?_, ?_⟩, ?_⟩
  · exact h.probe_eq_error_iff_collect
  · intro hp
    show disk.collect (Target.absolute ⟨root, relative⟩) extension = .ok []
    rcases hp with hp | hp
    · exact h.collect_eq_nil hp (by decide)
    · exact h.collect_eq_nil hp (by decide)
  · refine ⟨_, directory_mem_rules _ disk, rfl, fun hu => ?_⟩
    obtain ⟨e, he⟩ := hu.elim list_error_of_events id
    rw [Bool.eq_false_iff]
    intro hp
    obtain ⟨listing, hl⟩ := h.list_directory (Project.passed_directory_iff.1 hp)
    change disk.list (Project.ofRoot root).migrationsDirectory = .ok listing at hl
    rw [he] at hl
    cases hl

/-- the migration directory is a link to itself -/
theorem not_passed_of_link_loop :
    let name : FileName := .text "database" (by decide)
    let link : FileName := .text "migrations" (by decide)
    let t : Tree := ⟨[(name, .directory [(link, .link "migrations")])]⟩
    let disk := t.disk t.top
    disk.IsOpen ∧ disk.list "/database/migrations" = .error .tooManyLinks ∧
      disk.probe ⟨"/", "database/migrations"⟩ =
        .error (.inspection "database/migrations" .tooManyLinks) ∧
      ∃ rule ∈ (Suite.build (.ofRoot "/") disk .migrations).rules,
        rule.name = "database/migrations is a directory" ∧
          (rule.result disk "migrations").passed = false := by
  intro name link t disk
  have hl : disk.list "/database/migrations" = .error .tooManyLinks := rfl
  have hc : disk.collect "/database/migrations" ".sql" = .error .tooManyLinks := rfl
  obtain ⟨hpath, rule, hr, hname, hfail⟩ := not_passed_of_unlisted (t.isOpen_disk t.top) "/"
  refine ⟨t.isOpen_disk t.top, hl, ?_, rule, hr, hname, hfail (.inr ⟨_, hl⟩)⟩
  exact ((hpath "database/migrations" ".sql").1 _).2 ⟨_, rfl, hc⟩

end Catalog.Migrations

end ProjectAudit
