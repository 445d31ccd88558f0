import Mathlib.Data.List.Basic
import ProjectAudit.CommandLine.Run
import ProjectAudit.Disk.Tree
import ProjectAudit.Proofs.Catalog.Results

/-!
# Runs of some suites

Suites do not influence each other, and the results of a suite carry its name.  So a run of some
suites has those results of a run of all suites that carry one of the names, and it depends on the
set of the names alone (`Project.results_of_selection`).
-/

namespace ProjectAudit
open CommandLine

/-! ## selections -/

namespace Suite
variable {only only' : List String}

theorem selection_eq_filter (h : only ≠ []) : selection only = all.filter (·.name ∈ only) := by
  have hempty : only.isEmpty = false := List.isEmpty_eq_false_iff.2 h
  unfold selection
  simp only [hempty, Bool.false_or]

/-- the order of the names and their repetitions do not matter -/
theorem selection_congr (h : ∀ name, name ∈ only' ↔ name ∈ only) :
    selection only' = selection only := by
  have hempty : only'.isEmpty = only.isEmpty := by
    rw [Bool.eq_iff_iff, List.isEmpty_iff, List.isEmpty_iff, List.eq_nil_iff_forall_not_mem,
      List.eq_nil_iff_forall_not_mem]
    exact forall_congr' fun name => not_congr (h name)
  unfold selection
  simp only [hempty, h]

end Suite

/-! ## results -/

/-- elements that are left out at first, or afterwards have nothing -/
theorem flatMap_filter_eq {α β : Type} (xs : List α) (f : α → List β) (keep : α → Bool) :
    (xs.filter keep).flatMap f = xs.flatMap fun x => if keep x then f x else [] := by
  induction xs with
  | nil => rfl
  | cons x xs ih =>
    rw [List.flatMap_cons, ← ih, List.filter_cons]
    split
    · rw [List.flatMap_cons]
    · rfl

namespace Project
variable {p : Project} {disk : Disk} {only only' : List String}

theorem results_of_ne_nil (h : only ≠ []) : (runAll (p.ruleSets disk only) disk).results =
    (p.audit disk).results.filter (·.suite ∈ only) := by
  have haudit : (p.audit disk).results =
      Suite.all.flatMap fun s => ((s.build p disk).run disk).results := results_runAll
  rw [results_runAll, Suite.selection_eq_filter h, flatMap_filter_eq, haudit, List.filter_flatMap]
  exact List.flatMap_congr fun s _ => (filter_run (· ∈ only) s).symm

theorem ruleSets_congr (h : ∀ name, name ∈ only' ↔ name ∈ only) (p : Project) (disk : Disk) :
    p.ruleSets disk only' = p.ruleSets disk only := by
  unfold ruleSets
  rw [Suite.selection_congr h]

theorem buildEvents_congr (h : ∀ name, name ∈ only' ↔ name ∈ only) (p : Project) (disk : Disk) :
    p.buildEvents disk only' = p.buildEvents disk only := by
  unfold buildEvents
  rw [Suite.selection_congr h]

/-- nothing but the selection is made from the names of the suites -/
theorem run_congr (h : ∀ name, name ∈ only' ↔ name ∈ only) (o : Options) (disk : Disk)
    (cwd : String) (colour : Bool) :
    Options.run { o with suites := only' } disk cwd colour =
      Options.run { o with suites := only } disk cwd colour := by
  have hlisted : ∀ p, Options.listed { o with suites := only' } disk p =
      Options.listed { o with suites := only } disk p := fun p => by
    simp only [Options.listed, ruleSets_congr h, buildEvents_congr h]
    rfl
  have hjudged : ∀ p, Options.judged { o with suites := only' } disk p colour =
      Options.judged { o with suites := only } disk p colour := fun p => by
    simp only [Options.judged, ruleSets_congr h, buildEvents_congr h]
    rfl
  have hproject : Options.project { o with suites := only' } disk cwd =
      Options.project { o with suites := only } disk cwd := rfl
  unfold Options.run
  simp only [hproject, hlisted, hjudged]

/-- **A run of some suites is a part of the whole run.**  Its results are those that carry one of
the names, in the order they have in the run of all suites; names of no suite add nothing, and
without names all results are there.  So two lists of the same names, in whatever order and however
often each is given, come to the same report and to the same run of the command line. -/
theorem results_of_selection (p : Project) (disk : Disk) (only : List String) :
    (runAll (p.ruleSets disk only) disk).results =
        (if only = [] then (p.audit disk).results
        else (p.audit disk).results.filter (·.suite ∈ only)) ∧
      ∀ only', (∀ name, name ∈ only' ↔ name ∈ only) →
        runAll (p.ruleSets disk only') disk = runAll (p.ruleSets disk only) disk ∧
          ∀ (o : Options) cwd colour, Options.run { o with suites := only' } disk cwd colour =
            Options.run { o with suites := only } disk cwd colour := by
  refine ⟨?_, fun only' h => ⟨?_, fun o cwd colour => run_congr h o disk cwd colour⟩⟩
  · split
    · rename_i hnil
      rw [hnil]
      rfl
    · rename_i hne
      exact results_of_ne_nil hne
  · rw [ruleSets_congr h]

/-- two lists of two suites and a name that is none -/
theorem results_of_repeated_names :
    let p := Project.ofRoot "/"
    let disk := Tree.empty.disk Tree.empty.top
    let report := runAll (p.ruleSets disk ["schema", "layout", "schema", "nowhere"]) disk
    report.results = (p.audit disk).results.filter
        (fun r => r.suite ∈ ["schema", "layout", "schema", "nowhere"]) ∧
      runAll (p.ruleSets disk ["layout", "nowhere", "schema"]) disk = report := by
  intro p disk report
  obtain ⟨hresults, hnames⟩ :=
    results_of_selection p disk ["schema", "layout", "schema", "nowhere"]
  rw [if_neg (by decide)] at hresults
  refine ⟨hresults, (hnames ["layout", "nowhere", "schema"] fun name => ?_).1⟩
  simp only [List.mem_cons, List.not_mem_nil, or_false]
  grind

end Project

end ProjectAudit
