import Mathlib.Data.List.Infix
import ProjectAudit.Proofs.Catalog.Keys

/-!
# Rules that leave room for each other

No two rules of a run ask for what cannot be at the same time.  The folders that the catalog knows
are closed upwards (`Catalog.mem_folderPieces_of_isPrefix`), and whatever else a rule looks at is no
folder, so nothing is looked for below it (`Suite.not_isAbove_relative`).  A script that is to be
absent is asked for nowhere, since all the scripts that are asked for follow the convention
(`Catalog.IsFilePath.followsConvention`).
-/

namespace ProjectAudit
open Migration

/-- what the rule asks for does not rule out that the other one is met -/
structure Rule.Admits (r r' : Rule) : Prop where
  /-- nothing is asked of what is to be absent, nor of what is below it -/
  absent : r.demand = .presence .absent → ¬ Path.IsAtOrAbove r.target.relative r'.target.relative
  /-- what is to be a directory is not to be a file -/
  directory : r.demand = .presence .directory → r'.demand.isOnFile = true →
    Path.components r.target.relative ≠ Path.components r'.target.relative
  /-- nothing is looked for below a file -/
  file : r.demand.isOnFile = true → ¬ Path.IsAbove r.target.relative r'.target.relative

/-! ## folders and what stands in them -/

namespace Catalog
open ProjectAudit.Path

theorem mem_folderPieces_of_isPrefix {folder above : List String} (h : folder ∈ folderPieces)
    (hp : above <+: folder) : above ∈ folderPieces := by
  have hclosed : ∀ folder ∈ folderPieces, ∀ above ∈ folder.inits, above ∈ folderPieces := by
    decide +kernel
  exact hclosed folder h above ((List.mem_inits _ _).2 hp)

namespace IsInFolder
variable {path : String} (h : IsInFolder path)
include h

theorem pieces_not_mem : pieces path ∉ folderPieces := by
  obtain ⟨folder, -, n, -, hpieces, hnew⟩ := h
  rw [hpieces]
  exact hnew

/-- whatever is above it is the folder it stands in, or above that -/
theorem mem_folderPieces {above : List String} (hp : above <+: pieces path)
    (hne : above ≠ pieces path) : above ∈ folderPieces := by
  obtain ⟨folder, hfolder, n, -, hpieces, -⟩ := h
  rw [hpieces] at hp hne
  rcases List.prefix_concat_iff.1 hp with he | hp
  · exact absurd he hne
  · exact mem_folderPieces_of_isPrefix hfolder hp

end IsInFolder

/-- a script that is asked for is known or is named as the scripts of a migration are -/
theorem IsFilePath.followsConvention {n : String} (h : IsFilePath (pathOf n))
    (hn : IsEntryName n) (hsql : ".sql".toList <:+ n.toList) : FollowsConvention n := by
  rcases h with h | ⟨m, hm, he⟩
  · exact Migrations.followsConvention_of_mem (mem_scriptNames_of_pathOf hn hsql h)
  · exact ⟨m, hm, (pathOf_inj.1 he).symm⟩

end Catalog

/-! ## the rules of two suites -/

namespace Suite
variable {p : Project} {disk : Disk} {s s' : Suite} {r r' : Rule}

/-- what is no folder is above nothing that a rule looks at -/
theorem not_isAbove_relative (hr : r ∈ s.rules p disk) (hr' : r' ∈ s'.rules p disk)
    (hd : r.demand ≠ .presence .directory) :
    ¬ Path.IsAbove r.target.relative r'.target.relative := by
  rintro ⟨hp, hne⟩
  unfold Path.IsAtOrAbove at hp
  rw [components_relative hr, components_relative hr'] at hp hne
  apply (isInFolder_relative hr hd).pieces_not_mem
  -- a directory is a folder itself, and anything else stands in one
  by_cases hd' : r'.demand = .presence .directory
  · have hfolder := Catalog.pieces_mem_folderPieces (relative_of_directory hr' hd')
    exact Catalog.mem_folderPieces_of_isPrefix hfolder hp
  · exact (isInFolder_relative hr' hd').mem_folderPieces hp hne

theorem components_ne_of_directory (hr : r ∈ s.rules p disk) (hr' : r' ∈ s'.rules p disk)
    (hd : r.demand = .presence .directory) (hd' : r'.demand ≠ .presence .directory) :
    Path.components r.target.relative ≠ Path.components r'.target.relative := by
  intro he
  rw [components_relative hr, components_relative hr'] at he
  apply (isInFolder_relative hr' hd').pieces_not_mem
  rw [← he]
  exact Catalog.pieces_mem_folderPieces (relative_of_directory hr hd)

theorem relative_eq_of_components (hr : r ∈ s.rules p disk) (hr' : r' ∈ s'.rules p disk)
    (h : Path.components r.target.relative = Path.components r'.target.relative) :
    r.target.relative = r'.target.relative := by
  rw [components_relative hr, components_relative hr'] at h
  rw [← Path.intercalate_pieces r.target.relative, h, Path.intercalate_pieces]

/-- the other rule is about a directory, which a script is not, or about another misnamed script, or
about a script that follows the convention -/
theorem components_ne_of_absent (hr : r ∈ s.rules p disk) (hr' : r' ∈ s'.rules p disk)
    (hne : s ≠ s' ∨ r.name ≠ r'.name) (hd : r.demand = .presence .absent) :
    Path.components r.target.relative ≠ Path.components r'.target.relative := by
  have hd' : r.demand ≠ .presence .directory := by
    rw [hd]
    decide
  intro he
  have hpath := relative_eq_of_components hr hr' he
  obtain ⟨hs, n, hscript, hc, rfl⟩ := exists_misnamed_of_absent hr hd
  have hfile : r'.demand.isOnFile = false := by
    rw [Bool.eq_false_iff]
    intro hfile
    have hasked := relative_of_isOnFile hr' hfile
    rw [← hpath] at hasked
    exact hc (hasked.followsConvention (isEntryName_of_hasScript hscript) hscript.2)
  cases hdemand : r'.demand with
  | content check =>
    rw [hdemand] at hfile
    cases hfile
  | presence expectation =>
    cases expectation with
    | file =>
      rw [hdemand] at hfile
      cases hfile
    | directory => exact components_ne_of_directory hr' hr hdemand hd' he.symm
    | absent =>
      obtain ⟨hs', n', -, -, rfl⟩ := exists_misnamed_of_absent hr' hdemand
      rcases hne with hne | hne
      · exact hne (hs.trans hs'.symm)
      · exact hne (name_misnamedRule_inj.2 (pathOf_inj.1 hpath))

theorem admits_of_ne (hr : r ∈ s.rules p disk) (hr' : r' ∈ s'.rules p disk)
    (hne : s ≠ s' ∨ r.name ≠ r'.name) : r.Admits r' where
  absent := by
    intro hd hp
    have hd' : r.demand ≠ .presence .directory := by
      rw [hd]
      decide
    exact not_isAbove_relative hr hr' hd' ⟨hp, components_ne_of_absent hr hr' hne hd⟩
  directory := by
    intro hd hfile
    refine components_ne_of_directory hr hr' hd fun hd' => ?_
    rw [hd'] at hfile
    cases hfile
  file := by
    intro hfile
    refine not_isAbove_relative hr hr' fun hd => ?_
    rw [hd] at hfile
    cases hfile

end Suite

namespace Project

/-- **No rule stands in the way of another.**  Whatever scripts are found, for any two rules of the
suites that are selected: nothing is asked of a script that is to be absent, nor of anything below
it, no path is to be a directory and a file, and nothing is looked for below a file. -/
theorem pairwise_admits (p : Project) (disk : Disk) (only : List String) :
    ((p.ruleSets disk only).flatMap (·.rules)).Pairwise
      fun r r' => r.Admits r' ∧ r'.Admits r := by
  have hrules : (p.ruleSets disk only).flatMap (·.rules) =
      (p.entries disk only).map fun e => e.2 := by
    have h := flatMap_ruleSets p disk only fun _ r => r
    simpa using h
  rw [hrules]
  refine List.pairwise_map.2 ((pairwise_entries p disk only).imp_of_mem ?_)
  rintro ⟨s, r⟩ ⟨s', r'⟩ ha hb hne
  obtain ⟨-, hr⟩ := mem_entries.1 ha
  obtain ⟨-, hr'⟩ := mem_entries.1 hb
  exact ⟨Suite.admits_of_ne hr hr' hne, Suite.admits_of_ne hr' hr (hne.imp Ne.symm Ne.symm)⟩

end Project

end ProjectAudit
