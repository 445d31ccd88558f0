import ProjectAudit.CommandLine.Run
import ProjectAudit.Proofs.Catalog.Keys
import ProjectAudit.Proofs.Disk.Trail

/-!
# What a change can reach

The rules are put together by listing the scripts in the migration directory, and by nothing else of
the disk.  Each of them is judged by what is at the path of its own target.  So as long as the
scripts are the same, a change is seen in the results of those rules alone to whose targets it makes
a difference (`Project.results_local`).
-/

namespace ProjectAudit
open CommandLine Migration

/-! ## the same scripts -/

/-- listing the directory comes to the same: to the same error, or to the same scripts; a directory
that is not there has none -/
structure Disk.ListsAlike (disk disk' : Disk) (directory : String) : Prop where
  error_iff : ∀ e, e.isAbsence = false →
    (disk'.list directory = .error e ↔ disk.list directory = .error e)
  hasScript_iff : ∀ n, HasScript disk' directory n ↔ HasScript disk directory n

theorem Disk.listsAlike_of_error {disk disk' : Disk} {directory : String} {e : FileError}
    (h : disk.list directory = .error e) (h' : disk'.list directory = .error e) :
    disk.ListsAlike disk' directory where
  error_iff _ _ := by rw [h, h']
  hasScript_iff _ := iff_of_false (fun hn => not_hasEntry_of_list_error h' hn.1)
    fun hn => not_hasEntry_of_list_error h hn.1

theorem Disk.collect_of_list_error {disk : Disk} {directory extension : String} {e : FileError}
    (h : disk.list directory = .error e) (he : e.isAbsence = false) :
    disk.collect directory extension = .error e := by
  rw [collect, h]
  exact if_neg (Bool.eq_false_iff.1 he)

section
variable {p : Project} {disk disk' : Disk} (h : disk.ListsAlike disk' p.migrationsDirectory)
include h

/-- the order of the bytes leaves one way to list the scripts -/
theorem Migration.scripts_of_listsAlike : scripts p disk' = scripts p disk := by
  cases hs : scripts p disk with
  | error e =>
    obtain ⟨hl, he⟩ := Disk.collect_error hs
    exact Disk.collect_of_list_error ((h.error_iff e he).2 hl) he
  | ok names =>
    cases hs' : scripts p disk' with
    | error e =>
      obtain ⟨hl, he⟩ := Disk.collect_error hs'
      cases hs.symm.trans (Disk.collect_of_list_error ((h.error_iff e he).1 hl) he)
    | ok names' =>
      obtain ⟨hsorted, hmem⟩ := Disk.collect_ok hs
      obtain ⟨hsorted', hmem'⟩ := Disk.collect_ok hs'
      refine congrArg Except.ok (hsorted'.eq_of_mem_iff hsorted fun n => ?_)
      rw [hmem, hmem']
      exact h.hasScript_iff n

theorem Suite.build_of_listsAlike (s : Suite) : s.build p disk' = s.build p disk := by
  cases s with
  | migrations =>
    have hrules : Catalog.Migrations.rules p disk' = Catalog.Migrations.rules p disk := by
      rw [Catalog.Migrations.rules, Catalog.Migrations.rules, scripts_of_listsAlike h]
    exact congrArg (RuleSet.mk _ _) hrules
  | layout => rfl
  | schema => rfl
  | docs => rfl

theorem Suite.buildEvents_of_listsAlike (s : Suite) :
    s.buildEvents p disk' = s.buildEvents p disk := by
  cases s with
  | migrations =>
    show Catalog.Migrations.events p disk' = Catalog.Migrations.events p disk
    rw [Catalog.Migrations.events, Catalog.Migrations.events, scripts_of_listsAlike h]
  | layout => rfl
  | schema => rfl
  | docs => rfl

theorem Project.ruleSets_of_listsAlike (only : List String) :
    p.ruleSets disk' only = p.ruleSets disk only :=
  List.map_congr_left fun s _ => s.build_of_listsAlike h

theorem Project.entries_of_listsAlike (only : List String) :
    p.entries disk' only = p.entries disk only :=
  List.flatMap_congr fun s _ => by
    have hrules : s.rules p disk' = s.rules p disk := congrArg (·.rules) (s.build_of_listsAlike h)
    rw [hrules]

theorem Project.listed_of_listsAlike (o : Options) : o.listed disk' p = o.listed disk p := by
  have hevents : p.buildEvents disk' o.suites = p.buildEvents disk o.suites :=
    List.flatMap_congr fun s _ => s.buildEvents_of_listsAlike h
  rw [Options.listed, Options.listed, Project.ruleSets_of_listsAlike h, hevents]

end

/-! ## the same answers for a rule -/

/-- what the rule asks about its target has the same answer -/
def Rule.SeesSame (r : Rule) (disk disk' : Disk) : Prop :=
  match r.demand with
  | .presence _ => disk'.stat r.target.absolute = disk.stat r.target.absolute
  | .content _ => disk'.read r.target.absolute = disk.read r.target.absolute

theorem Rule.seesSame_of_same {r : Rule} {disk disk' : Disk}
    (hstat : disk'.stat r.target.absolute = disk.stat r.target.absolute)
    (hread : disk'.read r.target.absolute = disk.read r.target.absolute) :
    r.SeesSame disk disk' := by
  unfold SeesSame
  split
  · exact hstat
  · exact hread

theorem Rule.judge_of_seesSame {r : Rule} {disk disk' : Disk} (h : r.SeesSame disk disk') :
    r.judge disk' = r.judge disk := by
  obtain ⟨name, target, demand⟩ := r
  cases demand with
  | presence expectation =>
    have h : disk'.stat target.absolute = disk.stat target.absolute := h
    have hprobe : disk'.probe target = disk.probe target := by
      rw [Disk.probe, Disk.probe, h]
    show disk'.judgePresence target expectation = disk.judgePresence target expectation
    rw [Disk.judgePresence, Disk.judgePresence, hprobe]
  | content check =>
    have h : disk'.read target.absolute = disk.read target.absolute := h
    have hread : disk'.readTarget target = disk.readTarget target := by
      rw [Disk.readTarget, Disk.readTarget, h]
    show disk'.judgeContent target check = disk.judgeContent target check
    rw [Disk.judgeContent, Disk.judgeContent, hread]

theorem Rule.result_of_seesSame {r : Rule} {disk disk' : Disk} (h : r.SeesSame disk disk')
    (suite : String) : r.result disk' suite = r.result disk suite := by
  rw [result, result, judge_of_seesSame h]

namespace Project
variable {p : Project} {disk disk' : Disk}

/-- the results are those of the rules, one by one -/
theorem results_eq_map_entries (p : Project) (built disk : Disk) (only : List String) :
    (runAll (p.ruleSets built only) disk).results =
      (p.entries built only).map fun e => e.2.result disk e.1.name := by
  rw [results_runAll_sets]
  exact p.flatMap_ruleSets built only fun suite r => r.result disk suite

theorem getElem?_results_audit (p : Project) (disk : Disk) (i : Nat) :
    (p.audit disk).results[i]? =
      (p.entries disk [])[i]?.map fun e => e.2.result disk e.1.name := by
  rw [audit, results_eq_map_entries, List.getElem?_map]

theorem results_of_seesSame (h : disk.ListsAlike disk' p.migrationsDirectory) {i : Nat} {s : Suite}
    {r : Rule} (hi : (p.entries disk [])[i]? = some (s, r)) (hr : r.SeesSame disk disk') :
    (p.audit disk').results[i]? = (p.audit disk).results[i]? := by
  rw [getElem?_results_audit, getElem?_results_audit, entries_of_listsAlike h, hi]
  exact congrArg some (Rule.result_of_seesSame hr s.name)

/-- **Changes are local.**  The results are those of the rules, one by one.  On two disks with the
same scripts the rules are the same, and the catalog is printed alike in either format.  A result is
the same wherever what is at the path of its target is, so only the results of rules that see a
difference at their targets can differ.  On the disks of two trees that agree outside a location,
these are the rules on whose way to the target the location or something below it is asked for. -/
theorem results_local (p : Project) :
    (∀ disk, (p.audit disk).results =
      (p.entries disk []).map fun e => e.2.result disk e.1.name) ∧
    (∀ disk disk' : Disk, disk.ListsAlike disk' p.migrationsDirectory →
      (∀ only, p.ruleSets disk' only = p.ruleSets disk only) ∧
      (∀ o : Options, o.listed disk' p = o.listed disk p) ∧
      (∀ (i : Nat) (s : Suite) (r : Rule), (p.entries disk [])[i]? = some (s, r) →
        disk'.stat r.target.absolute = disk.stat r.target.absolute →
        disk'.read r.target.absolute = disk.read r.target.absolute →
        (p.audit disk').results[i]? = (p.audit disk).results[i]?) ∧
      ∀ i : Nat, (p.audit disk').results[i]? ≠ (p.audit disk).results[i]? →
        ∃ s r, (p.entries disk [])[i]? = some (s, r) ∧ ¬ r.SeesSame disk disk') ∧
    ∀ (t t' : Tree) edited cwd cwd', t.AgreesOutside t' edited → Tree.IsSamePlace t t' cwd cwd' →
      (t.disk cwd).ListsAlike (t'.disk cwd') p.migrationsDirectory →
      ∀ (i : Nat) (s : Suite) (r : Rule), (p.entries (t.disk cwd) [])[i]? = some (s, r) →
        (∀ location ∈ t.trail cwd r.target.absolute, ¬ edited <:+ location) →
        (p.audit (t'.disk cwd')).results[i]? = (p.audit (t.disk cwd)).results[i]? := by
  refine ⟨fun disk => p.results_eq_map_entries disk disk [],
    fun disk disk' h => ⟨?_, ?_, ?_, ?_⟩, ?_⟩
  · exact ruleSets_of_listsAlike h
  · exact listed_of_listsAlike h
  · intro i s r hi hstat hread
    exact results_of_seesSame h hi (Rule.seesSame_of_same hstat hread)
  · intro i hne
    cases hi : (p.entries disk [])[i]? with
    | none =>
      -- after the last rule neither disk has a result
      refine absurd ?_ hne
      rw [getElem?_results_audit, getElem?_results_audit, entries_of_listsAlike h, hi]
      rfl
    | some e => exact ⟨e.1, e.2, rfl, fun hr => hne (results_of_seesSame h hi hr)⟩
  · intro t t' edited cwd cwd' hagree hs h i s r hi htrail
    obtain ⟨hstat, hread⟩ := hagree.disk_congr hs htrail
    exact results_of_seesSame h hi (Rule.seesSame_of_same hstat hread)

/-- a README is put beside the directory of the first rule -/
theorem results_of_added_readme :
    let p := Project.ofRoot "/"
    let backend : FileName := .text "backend" (by decide)
    let readme : FileName := .text "README.md" (by decide)
    let t : Tree := ⟨[(backend, .directory [])]⟩
    let t' := t.insert [readme] (.file "# Forum".toUTF8)
    (∀ o : Options, o.listed (t'.disk t'.top) p = o.listed (t.disk t.top) p) ∧
      (p.audit (t'.disk t'.top)).results[0]? = (p.audit (t.disk t.top)).results[0]? := by
  intro p backend readme t t'
  obtain ⟨-, hdisk, htree⟩ := p.results_local
  have hlist : (t.disk t.top).list "/database/migrations" = .error .notFound := rfl
  have hlist' : (t'.disk t'.top).list "/database/migrations" = .error .notFound := rfl
  have hlists : (t.disk t.top).ListsAlike (t'.disk t'.top) p.migrationsDirectory :=
    Disk.listsAlike_of_error hlist hlist'
  obtain ⟨-, hlisted, -⟩ := hdisk _ _ hlists
  refine ⟨hlisted, ?_⟩
  have hagree := t.agreesOutside_replace [readme] (some (.file "# Forum".toUTF8))
  have hpath : (p.directory "backend").target.absolute = "/backend" := by decide
  have htrail : t.trail t.top "/backend" = [[backend]] := rfl
  refine htree t t' [readme] t.top t'.top hagree (.top t t') hlists 0 .layout
    (p.directory "backend") rfl ?_
  rw [hpath, htrail]
  decide

end Project

end ProjectAudit
