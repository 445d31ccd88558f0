import ProjectAudit.Project
import ProjectAudit.Proofs.Disk.SamePlace
import ProjectAudit.Proofs.Path.Ancestors

/-!
# The root that is discovered

Discovery goes up from the current directory.  `Climb` is this search round by round: it tests a
directory before it turns to the one above and ends at `/`.  It comes to its end with the answer of
`Project.discover` (`climb_above`), which is the nearest directory that holds `.git`
(`isNearestRepository_iff`).  What holds an entry is a directory (`Tree.isNested_disk`), so a root
that is discovered is always one that can be looked at.
-/

namespace ProjectAudit

namespace Disk

/-- once links are followed there is something at `.git`, of whatever kind -/
def HoldsRepository (disk : Disk) (directory : String) : Prop :=
  ∃ kind, disk.stat (Path.join directory ".git") = .ok kind

theorem isPresent_iff {disk : Disk} {path : String} :
    disk.isPresent path = true ↔ ∃ kind, disk.stat path = .ok kind := by
  unfold isPresent
  cases disk.stat path with
  | ok kind => exact iff_of_true rfl ⟨kind, rfl⟩
  | error e => exact iff_of_false Bool.false_ne_true fun ⟨_, h⟩ => nomatch h

/-- what holds an entry that can be looked up is a directory and can be looked up itself -/
def IsNested (disk : Disk) : Prop :=
  ∀ {directory n : String} {kind : FileKind}, Path.IsNormal directory → IsEntryName n →
    disk.stat (Path.join directory n) = .ok kind → disk.stat directory = .ok .directory

end Disk

theorem Tree.isNested_disk (t : Tree) (cwd : Place) : (t.disk cwd).IsNested := by
  rintro directory n kind ⟨names, hnames, rfl⟩ hn hstat
  by_cases hne : names = []
  · subst hne
    rfl
  · obtain ⟨listing, -, hlist, -⟩ := hasEntry_disk hn (Path.needsSlash_ofNames hne hnames) hstat
    obtain ⟨place, hplace⟩ := exists_resolve_of_list hlist
    exact stat_eq_ok_iff.2 ⟨_, hplace, rfl⟩

theorem FileName.isEntryName_of_mapM {fileNames : List FileName} {names : List String}
    (h : fileNames.mapM FileName.text? = some names) : ∀ n ∈ names, IsEntryName n := by
  induction fileNames generalizing names with
  | nil =>
    cases h
    intro n hn
    cases hn
  | cons fileName fileNames ih =>
    rw [List.mapM_cons] at h
    obtain ⟨name, hname, hrest⟩ := Option.bind_eq_some_iff.1 h
    obtain ⟨rest, hr, hnames⟩ := Option.bind_eq_some_iff.1 hrest
    obtain ⟨isName, rfl⟩ := FileName.text?_eq_some_iff.1 hname
    cases hnames
    exact List.forall_mem_cons.2 ⟨isName, ih hr⟩

/-- the way to a directory of a tree makes a normal path, if all names on it are texts -/
theorem Location.isNormal_of_path? {location : Location} {path : String}
    (h : location.path? = some path) : Path.IsNormal path := by
  obtain ⟨names, hnames, hpath⟩ := Option.bind_eq_some_iff.1 h
  cases hpath
  exact ⟨names, FileName.isEntryName_of_mapM hnames, rfl⟩

namespace Project

/-! ## the search round by round -/

/-- the search from a directory upwards: what it ends with, and how many directories it tests -/
inductive Climb (disk : Disk) : String → Option String → Nat → Prop where
  | found {directory : String} (holds : disk.HoldsRepository directory) :
    Climb disk directory (some directory) 1
  | ended {directory : String} (absent : ¬ disk.HoldsRepository directory)
    (top : Path.parent? directory = none) : Climb disk directory none 1
  | up {directory above : String} {result : Option String} {tested : Nat}
    (absent : ¬ disk.HoldsRepository directory) (parent : Path.parent? directory = some above)
    (rest : Climb disk above result tested) : Climb disk directory result (tested + 1)

/-- the induction is on the names from the innermost outwards, as the list of directories is made -/
theorem climb_above (disk : Disk) {inner : List String} (h : ∀ n ∈ inner, IsEntryName n) :
    ∃ tested ≤ inner.length + 1, Climb disk (Path.ofNames inner.reverse)
      ((Path.ancestors.above inner).find? fun d => disk.isPresent (Path.join d ".git")) tested := by
  induction inner with
  | nil =>
    refine ⟨1, Nat.le_refl 1, ?_⟩
    rw [Path.ancestors.above, List.find?_singleton]
    split
    · rename_i hp
      exact .found (Disk.isPresent_iff.1 hp)
    · rename_i hp
      exact .ended (fun hh => hp (Disk.isPresent_iff.2 hh)) rfl
  | cons n inner ih =>
    obtain ⟨tested, hle, hclimb⟩ := ih fun m hm => h m (List.mem_cons_of_mem n hm)
    have hparent : Path.parent? (Path.ofNames (n :: inner).reverse) =
        some (Path.ofNames inner.reverse) := by
      rw [List.reverse_cons]
      refine Path.parent?_ofNames fun m hm => h m ?_
      rwa [← List.reverse_cons, List.mem_reverse] at hm
    rw [Path.ancestors.above, List.find?_cons]
    split
    · rename_i hp
      exact ⟨1, by omega, .found (Disk.isPresent_iff.1 hp)⟩
    · rename_i hp
      rw [← Bool.not_eq_true] at hp
      refine ⟨tested + 1, ?_, .up (fun hh => hp (Disk.isPresent_iff.2 hh)) hparent hclimb⟩
      rw [List.length_cons]
      omega

/-! ## the nearest one -/

/-- the directory is `cwd` or lies above it, it holds `.git`, and no directory does that lies below
it and is `cwd` or above it -/
structure IsNearestRepository (disk : Disk) (cwd directory : String) : Prop where
  encloses : Path.Encloses directory cwd
  holds : disk.HoldsRepository directory
  nearest : ∀ below, Path.Encloses below cwd → Path.IsAbove directory below →
    ¬ disk.HoldsRepository below

section
variable {disk : Disk} {cwd : String}

/-- of two directories above the same one, one lies above the other -/
theorem IsNearestRepository.unique {a b : String} (ha : IsNearestRepository disk cwd a)
    (hb : IsNearestRepository disk cwd b) : a = b := by
  refine ha.encloses.1.eq_of_components hb.encloses.1 (Decidable.byContradiction fun hne => ?_)
  rcases List.prefix_or_prefix_of_prefix ha.encloses.2 hb.encloses.2 with h | h
  · exact ha.nearest b hb.encloses ⟨h, hne⟩ hb.holds
  · exact hb.nearest a ha.encloses ⟨h, Ne.symm hne⟩ ha.holds

theorem isNearestRepository_of_find? (hcwd : Path.IsNormal cwd) {directory : String}
    (h : (Path.ancestors cwd).find? (fun d => disk.isPresent (Path.join d ".git")) =
      some directory) : IsNearestRepository disk cwd directory := by
  obtain ⟨hp, before, after, hlist, hbefore⟩ := List.find?_eq_some_iff_append.1 h
  have hpair := Path.pairwise_ancestors hcwd
  rw [hlist] at hpair
  have hmem : directory ∈ Path.ancestors cwd := by
    rw [hlist]
    exact List.mem_append_right _ List.mem_cons_self
  refine ⟨(Path.mem_ancestors_iff hcwd).1 hmem, Disk.isPresent_iff.1 hp, ?_⟩
  intro below hbelow habove hholds
  have hm := (Path.mem_ancestors_iff hcwd).2 hbelow
  rw [hlist, List.mem_append, List.mem_cons] at hm
  rcases hm with hm | rfl | hm
  · have hp' := hbefore below hm
    rw [Disk.isPresent_iff.2 hholds] at hp'
    cases hp'
  · exact habove.2 rfl
  · -- what comes later in the list lies above, and no two paths lie above each other
    have hlater := (List.pairwise_cons.1 (List.pairwise_append.1 hpair).2.1).1 below hm
    exact habove.2 (habove.1.eq_of_length_le hlater.2.length_le)

/-- the root that is found is the first of all directories from `cwd` upwards -/
theorem root_discover (disk : Disk) (cwd : String) : (discover disk cwd).map (·.root) =
    (Path.ancestors cwd).find? fun d => disk.isPresent (Path.join d ".git") := by
  unfold discover
  rw [Option.map_map]
  exact Option.map_id'

theorem isNearestRepository_iff (hcwd : Path.IsNormal cwd) {directory : String} :
    (discover disk cwd).map (·.root) = some directory ↔
      IsNearestRepository disk cwd directory := by
  rw [root_discover]
  refine ⟨isNearestRepository_of_find? hcwd, fun h => ?_⟩
  cases hfind : (Path.ancestors cwd).find? fun d => disk.isPresent (Path.join d ".git") with
  | none =>
    have hmem := (Path.mem_ancestors_iff hcwd).2 h.encloses
    exact absurd (Disk.isPresent_iff.2 h.holds) (List.find?_eq_none.1 hfind _ hmem)
  | some found => rw [(isNearestRepository_of_find? hcwd hfind).unique h]

end

theorem validate_of_discover {disk : Disk} {cwd : String} {p : Project} (hdisk : disk.IsNested)
    (hcwd : Path.IsNormal cwd) (h : discover disk cwd = some p) : p.validate disk = .ok () := by
  have hroot := congrArg (Option.map (·.root)) h
  obtain ⟨⟨hnormal, -⟩, ⟨kind, hkind⟩, -⟩ := (isNearestRepository_iff hcwd).1 hroot
  have hgit : IsEntryName ".git" := by decide
  have hdirectory : disk.isDirectory p.root = true := by
    unfold Disk.isDirectory
    rw [hdisk hnormal hgit hkind]
  rw [validate, hdirectory, if_pos rfl]

/-- **Discovery finds the nearest root.**  The search from the current directory upwards comes to its
end, having tested no more directories than lead down to it, with the answer of `discover`.  This is
the nearest directory from the current one upwards that holds `.git`, and there is no answer exactly
if none of them does.  The project that is found has its migrations below its root; and wherever an
entry can be looked up only in a directory that can be looked up, as in every file tree, its root is
a directory. -/
theorem discover_nearest {cwd : String} (hcwd : Path.IsNormal cwd) (disk : Disk) :
    (∃ tested ≤ (Path.components cwd).length,
      Climb disk cwd ((discover disk cwd).map (·.root)) tested) ∧
    (∀ directory, (discover disk cwd).map (·.root) = some directory ↔
      IsNearestRepository disk cwd directory) ∧
    (discover disk cwd = none ↔
      ∀ directory, Path.Encloses directory cwd → ¬ disk.HoldsRepository directory) ∧
    (∀ p, discover disk cwd = some p →
      p.migrationsDirectory = Path.join p.root "database/migrations" ∧
        (disk.IsNested → p.validate disk = .ok ())) ∧
    ∀ (t : Tree) (here : Place), (t.disk here).IsNested := by
  refine ⟨?_, fun _ => isNearestRepository_iff hcwd, ?_, fun p hp => ⟨?_, fun hdisk => ?_⟩,
    Tree.isNested_disk⟩
  · rw [root_discover]
    obtain ⟨names, hnames, rfl⟩ := hcwd
    have hclimb := climb_above disk fun n hn => hnames n (List.mem_reverse.1 hn)
    rw [List.reverse_reverse, List.length_reverse, ← Path.ancestors_ofNames hnames] at hclimb
    rw [Path.components_ofNames hnames]
    exact hclimb
  · rw [discover, Option.map_eq_none_iff, List.find?_eq_none]
    refine forall_congr' fun directory => ?_
    rw [Path.mem_ancestors_iff hcwd, Disk.isPresent_iff]
    exact Iff.rfl
  · obtain ⟨root, -, rfl⟩ := Option.map_eq_some_iff.1 hp
    rfl
  · exact validate_of_discover hdisk hcwd hp

/-- `.git` is a file in the directory that is found, leads nowhere in the nearer one and is a
directory in the farther one -/
theorem discover_nearest_of_nested_repositories :
    let git : FileName := .text ".git" (by decide)
    let work : FileName := .text "work" (by decide)
    let src : FileName := .text "src" (by decide)
    let inSrc : Entries := [(git, .link "missing")]
    let inWork : Entries := [(git, .file .empty), (src, .directory inSrc)]
    let t : Tree := ⟨[(git, .directory []), (work, .directory inWork)]⟩
    let here := (t.top.into work inWork).into src inSrc
    let disk := t.disk here
    here.location.path? = some "/work/src" ∧
      IsNearestRepository disk "/work/src" "/work" ∧ disk.HoldsRepository "/" ∧
      discover disk "/work/src" = some (.ofRoot "/work") ∧ disk.IsNested ∧
      (ofRoot "/work").validate disk = .ok () := by
  intro git work src inSrc inWork t here disk
  have hpath : here.location.path? = some "/work/src" := by decide +kernel
  have hfound : discover disk "/work/src" = some (.ofRoot "/work") := by decide +kernel
  obtain ⟨-, hnearest, -, hvalid, hnested⟩ :=
    discover_nearest (Location.isNormal_of_path? hpath) disk
  refine ⟨hpath, (hnearest "/work").1 ?_, ⟨.directory, rfl⟩, hfound, hnested t here, ?_⟩
  · rw [hfound]
    rfl
  · exact (hvalid _ hfound).2 (hnested t here)

end Project

end ProjectAudit
