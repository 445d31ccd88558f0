import ProjectAudit.Proofs.Migration.Unlisted
import ProjectAudit.Proofs.Path.Pieces

/-!
# Files by their full paths

`Disk.collect` works on the names in a directory.  Seen from outside, the files are found, tested
and put into order by their full paths (`Disk.collectPaths`), which are ordered component by
component.  Both come to the same files in the same order (`collectPaths_eq`), because the paths
differ in the last component only and that is the name.  Hence what is collected depends on the
entries and on what they lead to, and not on the order in which they are listed (`collect_exact`).
-/

namespace ProjectAudit

/-! ## paths in order -/

/-- lists that begin alike are in the order of what follows -/
theorem append_lt_append_iff {α : Type} [LT α] [Std.Irrefl (α := α) (· < ·)] (xs : List α)
    {as bs : List α} : xs ++ as < xs ++ bs ↔ as < bs := by
  induction xs with
  | nil => exact Iff.rfl
  | cons x xs ih =>
    have hx : ¬ x < x := Std.Irrefl.irrefl x
    rw [List.cons_append, List.cons_append, List.cons_lt_cons_iff, ih]
    simp [hx]

namespace Path

/-- a root comes before a dot, a dot before two of them, and these before all names, which are in
the order of their bytes -/
def componentKey (component : String) : List UInt8 :=
  if component = "/" then [0]
  else if component = "." then [1]
  else if component = ".." then [2]
  else 3 :: component.toUTF8.data.toList

def le (a b : String) : Bool :=
  (components a).map componentKey ≤ (components b).map componentKey

/-- the last component, if it is a name -/
def fileName? (path : String) : Option String :=
  (components path).getLast?.filter fun c => c ≠ "/" && c ≠ "." && c ≠ ".."

end Path

namespace IsEntryName
variable {n : String} (h : IsEntryName n)
include h

theorem ne_slash : n ≠ "/" := by
  rintro rfl
  exact h.2.2.2.1 (by decide)

theorem isPlain : Path.IsPlain n := by
  intro piece hp
  rw [h.pieces_eq, List.mem_singleton] at hp
  subst hp
  exact ⟨h.1, h.2.1, h.2.2.1⟩

theorem components_join (directory : String) :
    Path.components (Path.join directory n) = Path.components directory ++ [n] := by
  rw [h.isPlain.components_join, h.pieces_eq]

theorem fileName?_join (directory : String) :
    Path.fileName? (Path.join directory n) = some n := by
  rw [Path.fileName?, h.components_join, List.getLast?_concat]
  simp [Option.filter, h.ne_slash, h.2.1, h.2.2.1]

theorem componentKey_eq : Path.componentKey n = 3 :: n.toUTF8.data.toList := by
  rw [Path.componentKey, if_neg h.ne_slash, if_neg h.2.1, if_neg h.2.2.1]

/-- below one directory the paths are in the order of the names -/
theorem le_join {m : String} (hm : IsEntryName m) (directory : String) :
    Path.le (Path.join directory n) (Path.join directory m) = byteLE n m := by
  have hlt : (Path.components directory).map Path.componentKey ++ [Path.componentKey m] <
      (Path.components directory).map Path.componentKey ++ [Path.componentKey n] ↔
        m.toUTF8.data.toList < n.toUTF8.data.toList := by
    rw [append_lt_append_iff, h.componentKey_eq, hm.componentKey_eq]
    simp [List.cons_lt_cons_iff]
  rw [Bool.eq_iff_iff, byteLE_iff, ← List.not_lt, ← hlt, Path.le, decide_eq_true_iff,
    h.components_join, hm.components_join, List.map_append, List.map_append, List.not_lt]
  exact Iff.rfl

end IsEntryName

namespace Disk

/-! ## collecting by full paths -/

/-- the path leads to a regular file, links followed, and its last component is a name with the
extension -/
def isFileWith (disk : Disk) (extension path : String) : Bool :=
  disk.isRegular path &&
    (Path.fileName? path).any fun name => extension.toList.isSuffixOf name.toList

/-- the full paths of the files with the extension; an entry whose name is no text has none -/
def collectPaths (disk : Disk) (directory extension : String) : Except FileError (List String) :=
  match disk.list directory with
  | .ok listing =>
    let paths := (listing.names.filterMap FileName.text?).map (Path.join directory)
    .ok ((paths.filter (disk.isFileWith extension)).mergeSort Path.le)
  | .error e => if e.isAbsence then .ok [] else .error e

section
variable {disk : Disk} {directory extension : String} {listing : Listing}

theorem isFileWith_join {n : String} (h : IsEntryName n) :
    disk.isFileWith extension (Path.join directory n) =
      (extension.toList.isSuffixOf n.toList && disk.isRegular (Path.join directory n)) := by
  rw [isFileWith, h.fileName?_join, Option.any_some, Bool.and_comm]

theorem isEntryName_of_mem {names : List FileName} {n : String}
    (h : n ∈ names.filterMap FileName.text?) : IsEntryName n := by
  obtain ⟨name, -, hn⟩ := List.mem_filterMap.1 h
  obtain ⟨isName, -⟩ := FileName.text?_eq_some_iff.1 hn
  exact isName

/-- the files are collected by their names or by their full paths -/
theorem collectPaths_eq (disk : Disk) (directory extension : String) :
    disk.collectPaths directory extension =
      (disk.collect directory extension).map (·.map (Path.join directory)) := by
  unfold collectPaths collect
  cases disk.list directory with
  | error e => cases he : e.isAbsence <;> simp [he, Except.map]
  | ok listing =>
    let texts := listing.names.filterMap FileName.text?
    have hnames : listing.names.filterMap (disk.fileWith? directory extension) =
        texts.filter fun n => disk.isFileWith extension (Path.join directory n) := by
      rw [List.filter_filterMap]
      refine List.filterMap_congr fun name _ => ?_
      cases name with
      | undecoded bytes isName => rfl
      | text n isName =>
        simp only [fileWith?, FileName.text?, Option.filter, isFileWith_join isName]
    have hsorted : ((texts.map (Path.join directory)).filter
          (disk.isFileWith extension)).mergeSort Path.le =
        ((texts.filter fun n => disk.isFileWith extension (Path.join directory n)).mergeSort
          byteLE).map (Path.join directory) := by
      rw [List.filter_map, List.map_mergeSort]
      · rfl
      · intro a ha b hb
        have haName := isEntryName_of_mem (List.mem_of_mem_filter ha)
        have hbName := isEntryName_of_mem (List.mem_of_mem_filter hb)
        exact (haName.le_join hbName directory).symm
    show Except.ok _ = Except.ok _
    rw [hsorted, hnames]

/-! ## what is collected -/

theorem hasEntry_iff_of_list {n : String} {kind : FileKind}
    (h : disk.list directory = .ok listing) : disk.HasEntry directory n kind ↔
      (∃ isName, FileName.text n isName ∈ listing.names) ∧
        disk.stat (Path.join directory n) = .ok kind := by
  constructor
  · rintro ⟨listing', isName, hl, hm, hs⟩
    rw [h] at hl
    cases hl
    exact ⟨⟨isName, hm⟩, hs⟩
  · rintro ⟨⟨isName, hm⟩, hs⟩
    exact ⟨listing, isName, h, hm, hs⟩

theorem exists_collect_of_list (h : disk.list directory = .ok listing) (extension : String) :
    ∃ names, disk.collect directory extension = .ok names := by
  unfold collect
  rw [h]
  exact ⟨_, rfl⟩

theorem collectPaths_of_list_error {e : FileError} (h : disk.list directory = .error e) :
    disk.collectPaths directory extension = if e.isAbsence then .ok [] else .error e := by
  unfold collectPaths
  rw [h]

/-- the other disk differs from this one at most in the order in which it lists the directory -/
def ListsReordered (disk disk' : Disk) (directory : String) : Prop :=
  disk'.stat = disk.stat ∧ ∃ listing listing', disk.list directory = .ok listing ∧
    disk'.list directory = .ok listing' ∧ listing'.names.Perm listing.names

theorem ListsReordered.collect_eq {disk' : Disk} (h : disk.ListsReordered disk' directory) :
    disk'.collect directory extension = disk.collect directory extension := by
  obtain ⟨hstat, listing, listing', hl, hl', hperm⟩ := h
  obtain ⟨names, hn⟩ := exists_collect_of_list hl extension
  obtain ⟨names', hn'⟩ := exists_collect_of_list hl' extension
  obtain ⟨hsorted, hmem⟩ := collect_ok hn
  obtain ⟨hsorted', hmem'⟩ := collect_ok hn'
  have heq : names' = names := by
    refine hsorted'.eq_of_mem_iff hsorted fun n => ?_
    rw [hmem, hmem', hasEntry_iff_of_list hl, hasEntry_iff_of_list hl', hstat]
    simp only [hperm.mem_iff]
  rw [hn, hn', heq]

/-- paths below one directory differ in their last component -/
theorem nodup_map_join {names : List String} (h : names.Nodup)
    (hnames : ∀ n ∈ names, IsEntryName n) : (names.map (Path.join directory)).Nodup := by
  refine List.Nodup.map_on (fun a ha b hb hab => ?_) h
  have hcomponents := congrArg Path.components hab
  rw [(hnames a ha).components_join, (hnames b hb).components_join] at hcomponents
  exact List.singleton_inj.1 (List.append_cancel_left hcomponents)

end

/-- **What is collected from a directory.**  Where the directory can be listed, these are the full
paths of the entries whose name is a text with the extension and which lead to a regular file, each
once and in the order of the bytes of the names, however the entries happen to be listed.  Where it
cannot be listed, there are none if it is missing or no directory, and otherwise the fault is that
of the listing; on a file tree a path that leads to no directory is one or the other. -/
theorem collect_exact (disk : Disk) (directory extension : String) :
    (match disk.list directory with
      | .ok listing => ∃ names : List String,
        disk.collectPaths directory extension = .ok (names.map (Path.join directory)) ∧
          names.Pairwise ByteLT ∧ (names.map (Path.join directory)).Nodup ∧
          ∀ n, n ∈ names ↔ (∃ isName, FileName.text n isName ∈ listing.names) ∧
            disk.stat (Path.join directory n) = .ok .regular ∧ extension.toList <:+ n.toList
      | .error e =>
        disk.collectPaths directory extension = if e.isAbsence then .ok [] else .error e) ∧
    disk.collectPaths directory extension =
      (disk.collect directory extension).map (·.map (Path.join directory)) ∧
    (∀ disk', disk.ListsReordered disk' directory →
      disk'.collectPaths directory extension = disk.collectPaths directory extension) ∧
    ∀ (t : Tree) (cwd : Place), match (t.disk cwd).stat directory with
      | .ok .directory => ∃ listing, (t.disk cwd).list directory = .ok listing
      | .ok _ => (t.disk cwd).collectPaths directory extension = .ok []
      | .error e => (t.disk cwd).collectPaths directory extension =
          if e.isAbsence then .ok [] else .error e := by
  refine ⟨?_, collectPaths_eq disk directory extension, fun disk' h => ?_, fun t cwd => ?_⟩
  · split
    · rename_i listing hl
      obtain ⟨names, hn⟩ := exists_collect_of_list hl extension
      obtain ⟨hsorted, hmem⟩ := collect_ok hn
      have hiff : ∀ n, n ∈ names ↔ (∃ isName, FileName.text n isName ∈ listing.names) ∧
          disk.stat (Path.join directory n) = .ok .regular ∧ extension.toList <:+ n.toList :=
        fun n => by rw [hmem, hasEntry_iff_of_list hl, and_assoc]
      refine ⟨names, by rw [collectPaths_eq, hn]; rfl, hsorted, ?_, hiff⟩
      exact nodup_map_join hsorted.nodup fun n hn => ((hiff n).1 hn).1.1
    · rename_i e hl
      exact collectPaths_of_list_error hl
  · rw [collectPaths_eq, collectPaths_eq, h.collect_eq]
  · have hopen := t.isOpen_disk cwd
    split
    · rename_i hs
      exact hopen.list_directory hs
    · rename_i kind hne hs
      exact collectPaths_of_list_error (hopen.list_other hs hne)
    · rename_i e hs
      exact collectPaths_of_list_error (hopen.list_error hs)

end Disk

end ProjectAudit
