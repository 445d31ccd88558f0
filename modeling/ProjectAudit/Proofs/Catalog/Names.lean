import ProjectAudit.Proofs.Catalog.Checks
import ProjectAudit.Proofs.Catalog.Results
import ProjectAudit.Proofs.Disk.Entry
import ProjectAudit.Proofs.Migration.Verdict
import ProjectAudit.Proofs.Rule.Detail

/-!
# Names of rules that fill more than a line

The name of a rule goes into one line wherever results are shown, and it stays there: no name has a
line feed but that of a rule against a misnamed script whose own name has one
(`Suite.exists_misnamed_of_newline`).
-/

namespace ProjectAudit
open Migration

theorem mem_bytes_of_mem {s : String} {c : Char} (h : c ∈ s.toList) {byte : UInt8}
    (hb : byte ∈ String.utf8EncodeChar c) : byte ∈ s.toUTF8.data.toList := by
  rw [toList_data_toUTF8]
  exact List.mem_flatMap.2 ⟨c, h, hb⟩

/-- a control character is a byte of its own -/
theorem mem_bytes_of_control {s : String} {c : Char} (hc : c.toNat < 0x20) (h : c ∈ s.toList) :
    ∃ byte ∈ s.toUTF8.data.toList, byte < 0x20 := by
  have hcontrols : ∀ n < 0x20, UInt8.ofNat n ∈ String.utf8EncodeChar (Char.ofNat n) ∧
      UInt8.ofNat n < 0x20 := by
    decide
  obtain ⟨hencode, hlt⟩ := hcontrols c.toNat hc
  rw [Char.ofNat_toNat] at hencode
  exact ⟨_, mem_bytes_of_mem h hencode, hlt⟩

/-- the bytes are checked, since they are at hand without reading the texts -/
theorem Suite.not_mem_texts_fixedRules {p : Project} {s : Suite} {r : Rule}
    (hr : r ∈ s.fixedRules p) {c : Char} (hc : c.toNat < 0x20) :
    ∀ text ∈ r.texts, c ∉ text.toList := by
  have hall : (s.fixedRules (.ofRoot "")).all (fun r => r.texts.all fun text =>
      text.toUTF8.data.toList.all (0x20 ≤ ·)) = true := by
    cases s <;> decide +kernel
  rw [fixedRules_eq_map] at hr
  obtain ⟨fixed, hmem, rfl⟩ := List.mem_map.1 hr
  intro text ht hn
  obtain ⟨byte, hbyte, hlt⟩ := mem_bytes_of_control hc hn
  have hbytes := List.all_eq_true.1 (List.all_eq_true.1 hall fixed hmem) text ht
  exact absurd hlt (UInt8.not_lt.2 (of_decide_eq_true (List.all_eq_true.1 hbytes byte hbyte)))

namespace Migration

theorem newline_not_mem_fileName {m : MigrationName} (hm : m.IsWellFormed) :
    '\n' ∉ m.fileName.toList :=
  hm.not_mem_fileName (by decide +kernel) (by decide) (by decide)

theorem newline_mem_pathOf {n : String} : '\n' ∈ (pathOf n).toList ↔ '\n' ∈ n.toList := by
  simp [pathOf, directory]

theorem newline_mem_name_misnamedRule {p : Project} {n : String} :
    '\n' ∈ (misnamedRule p n).name.toList ↔ '\n' ∈ n.toList := by
  simp [misnamedRule, Project.presence]

theorem newline_mem_name_file {p : Project} {path : String} :
    '\n' ∈ (p.file path).name.toList ↔ '\n' ∈ path.toList := by
  simp [Project.file, Project.presence]

end Migration

namespace Suite
variable {p : Project} {disk : Disk} {only : List String} {s : Suite} {rule : Rule}

/-- the name of a misnamed script goes into the name of its rule as it is -/
theorem exists_misnamed_of_newline (hr : rule ∈ s.rules p disk) (hn : '\n' ∈ rule.name.toList) :
    s = .migrations ∧ ∃ n, HasScript disk p.migrationsDirectory n ∧ ¬ FollowsConvention n ∧
      rule = misnamedRule p n ∧ '\n' ∈ n.toList := by
  rcases mem_rules_cases hr with hr | ⟨rfl, ⟨n, hs, hc, rfl⟩ | ⟨m, hm, -, rfl⟩⟩
  · exact absurd hn (not_mem_texts_fixedRules hr (by decide) _ List.mem_cons_self)
  · exact ⟨rfl, n, hs, hc, rfl, newline_mem_name_misnamedRule.1 hn⟩
  · have hn := newline_mem_pathOf.1 (newline_mem_name_file.1 hn)
    exact absurd hn (newline_not_mem_fileName hm)

end Suite

/-- no name in the report has a line feed exactly if no script that is found has one in its own -/
theorem newline_not_mem_names_iff {p : Project} {disk : Disk} {only : List String} :
    (∀ r ∈ (runAll (p.ruleSets disk only) disk).results, '\n' ∉ r.name.toList) ↔
      (Suite.migrations ∈ Suite.selection only →
        ∀ n, HasScript disk p.migrationsDirectory n → '\n' ∉ n.toList) := by
  constructor
  · intro h hs n hscript hn
    have hc : ¬ FollowsConvention n := by
      rintro ⟨m, hm, rfl⟩
      exact newline_not_mem_fileName hm hn
    have hrule : misnamedRule p n ∈ Suite.migrations.rules p disk :=
      Catalog.Migrations.misnamedRule_mem_rules hscript hc
    have hname : '\n' ∈ (misnamedRule p n).name.toList := newline_mem_name_misnamedRule.2 hn
    exact h _ (mem_results_runAll.2 ⟨_, hs, _, hrule, rfl⟩) hname
  · intro h r hr hn
    obtain ⟨s, hs, rule, hrule, rfl⟩ := mem_results_runAll.1 hr
    obtain ⟨rfl, n, hscript, -, -, hnewline⟩ := Suite.exists_misnamed_of_newline hrule hn
    exact h hs n hscript hnewline

end ProjectAudit
