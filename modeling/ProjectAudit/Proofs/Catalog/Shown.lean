import ProjectAudit.Proofs.Catalog.Names
import ProjectAudit.Proofs.Catalog.Targets
import ProjectAudit.Proofs.Rule.Shown

/-!
# What is shown of a project

No text of the catalog has a sequence for the terminal, and the names of migrations cannot have one.
So the names of misnamed scripts and the texts that are checked are the only way into what is shown
of a project (`Project.HasNoEscapes`).
-/

namespace ProjectAudit
open Migration

/-! ## texts of the catalog -/

namespace Migration
variable {p : Project}

theorem hasNoEscape_fileName {m : MigrationName} (hm : m.IsWellFormed) :
    HasNoEscape m.fileName :=
  hm.not_mem_fileName (by decide +kernel) (by decide) (by decide)

theorem hasNoEscape_pathOf {n : String} (hn : HasNoEscape n) : HasNoEscape (pathOf n) := by
  simp +decide [pathOf, directory, hn]

theorem hasNoEscape_texts_misnamedRule {n : String} (hn : HasNoEscape n) :
    ∀ text ∈ (misnamedRule p n).texts, HasNoEscape text := by
  have hpath := hasNoEscape_pathOf hn
  simp +decide [Rule.texts, misnamedRule, Project.presence, Project.target, Demand.texts, hn, hpath]

theorem hasNoEscape_texts_file {path : String} (hpath : HasNoEscape path) :
    ∀ text ∈ (p.file path).texts, HasNoEscape text := by
  simp +decide [Rule.texts, Project.file, Project.presence, Project.target, Demand.texts, hpath]

end Migration

namespace Suite
variable {p : Project} {disk : Disk} {s : Suite} {r : Rule}

/-- the name of a misnamed script goes into the texts of its rule as it is -/
theorem hasNoEscape_texts (hr : r ∈ s.rules p disk)
    (hnames : ∀ n, HasScript disk p.migrationsDirectory n → HasNoEscape n) :
    ∀ text ∈ r.texts, HasNoEscape text := by
  rcases mem_rules_cases hr with hr | ⟨-, ⟨n, hscript, -, rfl⟩ | ⟨m, hm, -, rfl⟩⟩
  · exact not_mem_texts_fixedRules hr (by decide)
  · exact hasNoEscape_texts_misnamedRule (hnames n hscript)
  · exact hasNoEscape_texts_file (hasNoEscape_pathOf (hasNoEscape_fileName hm))

theorem hasNoEscape_name (s : Suite) : HasNoEscape s.name := by cases s <;> decide

theorem hasNoEscape_title (s : Suite) : HasNoEscape s.title := by cases s <;> decide

end Suite

/-! ## runs and catalogs of a project -/

/-- no sequence for the terminal stands in the name of a script or in a text that is checked -/
structure Project.HasNoEscapes (p : Project) (disk : Disk) (only : List String) : Prop where
  names : ∀ n, HasScript disk p.migrationsDirectory n → HasNoEscape n
  texts : ∀ set ∈ p.ruleSets disk only, ∀ r ∈ set.rules, ∀ check, r.demand = .content check →
    ∀ text, disk.read r.target.absolute = .ok text → HasNoEscape text

namespace Project
namespace HasNoEscapes
variable {p : Project} {disk : Disk} {only : List String} (h : p.HasNoEscapes disk only)
include h

theorem rule {set : RuleSet} (hset : set ∈ p.ruleSets disk only) {r : Rule} (hr : r ∈ set.rules) :
    ∀ text ∈ r.texts, HasNoEscape text := by
  obtain ⟨s, -, rfl⟩ := mem_ruleSets.1 hset
  exact s.hasNoEscape_texts hr h.names

theorem runSpans : ∀ s ∈ runSpans (p.ruleSets disk only) disk, HasNoEscape s.text := by
  refine hasNoEscape_runSpans (fun set hset => ?_) fun set hset r hr =>
    Rule.hasNoEscape_name (h.rule hset hr)
  obtain ⟨s, -, rfl⟩ := mem_ruleSets.1 hset
  exact s.hasNoEscape_title

theorem failureSpans (herrors : disk.HasNamedErrors) :
    ∀ s ∈ (runAll (p.ruleSets disk only) disk).failureSpans, HasNoEscape s.text := by
  refine Report.hasNoEscape_failureSpans fun r hr => ?_
  obtain ⟨s, hs, rule, hrule, rfl⟩ := mem_results_runAll.1 (List.mem_of_mem_filter hr)
  have hset : s.build p disk ∈ p.ruleSets disk only := mem_ruleSets.2 ⟨s, hs, rfl⟩
  have htexts := h.rule hset hrule
  exact ⟨s.hasNoEscape_name, Rule.hasNoEscape_name htexts,
    Rule.hasNoEscape_detail htexts herrors (h.texts _ hset rule hrule) _⟩

theorem catalogText : HasNoEscape (catalogText (p.ruleSets disk only)) := by
  refine hasNoEscape_catalogText (fun set hset => ?_) fun set hset r hr => ?_
  · obtain ⟨s, -, rfl⟩ := mem_ruleSets.1 hset
    exact ⟨s.hasNoEscape_name, s.hasNoEscape_title⟩
  · have htexts := h.rule hset hr
    exact ⟨Rule.hasNoEscape_name htexts, Rule.hasNoEscape_summary htexts⟩

end HasNoEscapes
end Project

end ProjectAudit
