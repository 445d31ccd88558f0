import ProjectAudit.Proofs.Catalog.Targets
import ProjectAudit.Proofs.Migration.Elsewhere

/-!
# Results are known by their names

No two rules of a suite share a name, fixed or discovered (`Suite.pairwise_name_ne`), and no two
suites do.  So the name of the suite and that of the rule say which result of a run is meant
(`Project.nodup_keys`).
-/

namespace ProjectAudit
open Migration

/-! ## what is found -/

namespace Migration
variable {p : Project} {stem stem' n n' path : String}

theorem name_file_inj : (p.file path).name = (p.file n).name ↔ path = n :=
  String.append_left_inj _

theorem pathOf_inj : pathOf n = pathOf n' ↔ n = n' := String.append_right_inj _

theorem upScript_inj : upScript stem = upScript stem' ↔ stem = stem' := by
  rw [upScript, upScript, pathOf_inj]
  exact String.append_left_inj _

theorem downScript_inj : downScript stem = downScript stem' ↔ stem = stem' := by
  rw [downScript, downScript, pathOf_inj]
  exact String.append_left_inj _

/-- the letters before the last dot differ -/
theorem upScript_ne_downScript : upScript stem ≠ downScript stem' := by
  intro h
  rw [upScript, downScript, pathOf_inj] at h
  have hletter := congrArg (fun s : String => s.toList.reverse[4]?) h
  simp at hletter

theorem name_ne_of_mem_pairRules (h : stem ≠ stem') :
    ∀ r ∈ pairRules p stem, ∀ r' ∈ pairRules p stem', r.name ≠ r'.name := by
  intro r hr r' hr' hname
  simp only [pairRules, List.mem_cons, List.not_mem_nil, or_false] at hr hr'
  rcases hr with rfl | rfl <;> rcases hr' with rfl | rfl <;> have hpath := name_file_inj.1 hname
  · exact h (upScript_inj.1 hpath)
  · exact upScript_ne_downScript hpath
  · exact upScript_ne_downScript hpath.symm
  · exact h (downScript_inj.1 hpath)

theorem pairwise_name_ne_rulesFor {misnamed stems : List String} (hm : misnamed.Nodup)
    (hs : stems.Nodup) : (rulesFor p misnamed stems).Pairwise (·.name ≠ ·.name) := by
  refine List.pairwise_append.2 ⟨?_, ?_, ?_⟩
  · refine List.pairwise_map.2 (hm.imp fun hne hname => hne ?_)
    exact name_misnamedRule_inj.1 hname
  · refine List.pairwise_flatMap.2 ⟨fun stem _ => ?_, hs.imp name_ne_of_mem_pairRules⟩
    refine List.pairwise_pair.2 fun hname => ?_
    exact upScript_ne_downScript (name_file_inj.1 hname)
  · intro r hr r' hr'
    obtain ⟨n, -, rfl⟩ := List.mem_map.1 hr
    obtain ⟨stem, -, hr'⟩ := List.mem_flatMap.1 hr'
    change r' ∈ pairRules p stem at hr'
    simp only [pairRules, List.mem_cons, List.not_mem_nil, or_false] at hr'
    rcases hr' with rfl | rfl <;> exact name_misnamedRule_ne_file

end Migration

/-! ## the rules of a suite -/

namespace Suite
variable {p : Project} {r : Rule}

/-- the bytes are compared, since they are at hand without reading the names -/
theorem pairwise_name_ne_fixedRules (p : Project) (s : Suite) :
    (s.fixedRules p).Pairwise (·.name ≠ ·.name) := by
  have h : (s.fixedRules (.ofRoot "")).Pairwise
      (·.name.toUTF8.data.toList ≠ ·.name.toUTF8.data.toList) := by
    cases s <;> decide +kernel
  rw [fixedRules_eq_map]
  refine List.pairwise_map.2 (h.imp fun hne hname => hne ?_)
  exact congrArg (fun s : String => s.toUTF8.data.toList) hname

/-- a fixed rule on migrations that is named as the rule for a file is that rule -/
theorem eq_file_of_name {path : String} (hr : r ∈ Suite.migrations.fixedRules p)
    (h : r.name = (p.file path).name) : r = p.file path := by
  have hall : (Suite.migrations.fixedRules (.ofRoot "")).all (fun r =>
      !" is a file".toUTF8.data.toList.isSuffixOf r.name.toUTF8.data.toList ||
        r = (Project.ofRoot "").file r.target.relative) = true := by
    decide +kernel
  rw [fixedRules_eq_map] at hr
  obtain ⟨r, hmem, rfl⟩ := List.mem_map.1 hr
  have h : r.name = path ++ " is a file" := h
  have hr := List.all_eq_true.1 hall r hmem
  have hsuffix : " is a file".toUTF8.data.toList.isSuffixOf r.name.toUTF8.data.toList = true := by
    rw [h, toList_data_toUTF8, toList_data_toUTF8, String.toList_append, utf8_append,
      List.isSuffixOf_iff_suffix]
    exact List.suffix_append _ _
  rw [hsuffix, Bool.not_true, Bool.false_or, decide_eq_true_eq] at hr
  generalize r.target.relative = relative at hr
  subst hr
  have hpath : relative = path := String.append_left_inj _ |>.1 h
  rw [hpath]
  rfl

/-- the fixed rules are for the scripts of the known migrations alone -/
theorem name_ne_file_of_mem_fixedRules {m : MigrationName}
    (hr : r ∈ Suite.migrations.fixedRules p) (hm : m.IsWellFormed)
    (hk : m.stem ∉ Catalog.Migrations.knownStems) :
    r.name ≠ (p.file (pathOf m.fileName)).name := by
  intro hname
  have hknown := isKnown_of_mem_fixedRules hr
  rw [eq_file_of_name hr hname] at hknown
  have hmem := Catalog.mem_scriptNames_of_pathOf hm.isEntryName m.isSuffix_fileName
    (of_decide_eq_true hknown)
  exact hk (Catalog.Migrations.stem_mem_knownStems hm hmem)

theorem pairwise_name_ne (p : Project) (disk : Disk) (s : Suite) :
    (s.rules p disk).Pairwise (·.name ≠ ·.name) := by
  cases s with
  | layout => exact pairwise_name_ne_fixedRules p .layout
  | schema => exact pairwise_name_ne_fixedRules p .schema
  | docs => exact pairwise_name_ne_fixedRules p .docs
  | migrations =>
    show (Catalog.Migrations.rules p disk).Pairwise (·.name ≠ ·.name)
    obtain ⟨misnamed, stems, hd, he⟩ := Catalog.Migrations.exists_rules_eq p disk
    rw [he]
    refine List.pairwise_append.2 ⟨pairwise_name_ne_fixedRules p .migrations,
      pairwise_name_ne_rulesFor hd.misnamed_ascending.nodup hd.stems_ascending.nodup, ?_⟩
    intro r hr
    refine forall_mem_rulesFor.2 ⟨fun n _ => ?_, fun stem hs => ?_⟩
    · exact Catalog.Migrations.name_ne_of_mem_fixedRules hr
    · obtain ⟨hk, m, hm, -, rfl⟩ := (hd.mem_stems stem).1 hs
      have hup := name_ne_file_of_mem_fixedRules hr (hm.withDirection .up) hk
      have hdown := name_ne_file_of_mem_fixedRules hr (hm.withDirection .down) hk
      rw [fileName_up] at hup
      rw [fileName_down] at hdown
      exact ⟨hup, hdown⟩

end Suite

/-! ## the rules of a run -/

/-- what the results of the set are known by -/
def RuleSet.keys (set : RuleSet) : List (String × String) :=
  set.rules.map fun r => (set.name, r.name)

/-- what a result is known by -/
def RuleResult.key (r : RuleResult) : String × String := (r.suite, r.name)

/-- a rule passes its name on to its result -/
theorem keys_runAll (sets : List RuleSet) (disk : Disk) :
    (runAll sets disk).results.map (·.key) = sets.flatMap (·.keys) := by
  rw [results_runAll_sets, List.map_flatMap]
  refine List.flatMap_congr fun set _ => ?_
  rw [List.map_map]
  rfl

namespace Project

/-- the rules that are selected, each with its suite -/
def entries (p : Project) (disk : Disk) (only : List String) : List (Suite × Rule) :=
  (Suite.selection only).flatMap fun s => (s.rules p disk).map fun r => (s, r)

theorem mem_entries {p : Project} {disk : Disk} {only : List String} {s : Suite} {r : Rule} :
    (s, r) ∈ p.entries disk only ↔ s ∈ Suite.selection only ∧ r ∈ s.rules p disk := by
  simp [entries]

/-- two rules are in different suites or have different names -/
theorem pairwise_entries (p : Project) (disk : Disk) (only : List String) :
    (p.entries disk only).Pairwise fun a b => a.1 ≠ b.1 ∨ a.2.name ≠ b.2.name := by
  refine List.pairwise_flatMap.2 ⟨fun s _ => ?_, (Suite.nodup_selection only).imp ?_⟩
  · exact List.pairwise_map.2 ((Suite.pairwise_name_ne p disk s).imp .inr)
  · intro s s' hne a ha b hb
    obtain ⟨r, -, rfl⟩ := List.mem_map.1 ha
    obtain ⟨r', -, rfl⟩ := List.mem_map.1 hb
    exact .inl hne

/-- what is made of every rule and the name of its suite -/
theorem flatMap_ruleSets {α : Type} (p : Project) (disk : Disk) (only : List String)
    (f : String → Rule → α) :
    ((p.ruleSets disk only).flatMap fun set => set.rules.map (f set.name)) =
      (p.entries disk only).map fun e => f e.1.name e.2 := by
  show ((Suite.selection only).map (Suite.build p disk)).flatMap _ = _
  rw [List.flatMap_map, entries, List.map_flatMap]
  refine List.flatMap_congr fun s _ => ?_
  show (s.rules p disk).map _ = ((s.rules p disk).map _).map _
  rw [List.map_map]
  rfl

/-- **The name of its suite and its own name are the key of a rule.**  They are different for any
two rules of the suites that are selected, whatever scripts are found and whatever these are called,
and so they are for any two results, even if the disk has changed since the rules were put
together. -/
theorem nodup_keys (p : Project) (built disk : Disk) (only : List String) :
    ((p.ruleSets built only).flatMap (·.keys)).Nodup ∧
      ((runAll (p.ruleSets built only) disk).results.map (·.key)).Nodup := by
  have h : ((p.ruleSets built only).flatMap (·.keys)).Nodup := by
    have hkeys : (p.ruleSets built only).flatMap (·.keys) =
        (p.entries built only).map fun e => (e.1.name, e.2.name) :=
      flatMap_ruleSets p built only fun suite r => (suite, r.name)
    rw [hkeys]
    refine List.pairwise_map.2 ((pairwise_entries p built only).imp fun hne he => ?_)
    obtain ⟨hsuite, hname⟩ := Prod.mk.inj he
    rcases hne with hne | hne
    · exact hne (Suite.name_injective hsuite)
    · exact hne hname
  refine ⟨h, ?_⟩
  rw [keys_runAll]
  exact h

end Project

end ProjectAudit
