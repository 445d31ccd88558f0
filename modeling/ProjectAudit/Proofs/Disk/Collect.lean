import Mathlib.Data.List.Sort
import ProjectAudit.Disk.Collect

/-!
# What is collected from a directory

The bytes of a text put the texts into a linear order.  The files that `Disk.collect` gives are in
this order, each once, and they are the entries of the directory that lead to a file and have the
extension:

* `pairwise_sorted`    sorting a list without repetition gives a strictly ascending one;
* `collect_ok`         the names that are collected;
* `collect_error`      collecting fails only where listing fails, and not for absence.
-/

namespace ProjectAudit

/-! ## the order of the bytes -/

/-- comes before in the order of the bytes in UTF-8 -/
def ByteLT (a b : String) : Prop := a.toUTF8.data.toList < b.toUTF8.data.toList

theorem byteLE_iff {a b : String} :
    byteLE a b = true ↔ a.toUTF8.data.toList ≤ b.toUTF8.data.toList := by
  simp [byteLE]

theorem byteLE_total (a b : String) : (byteLE a b || byteLE b a) = true := by
  rw [Bool.or_eq_true, byteLE_iff, byteLE_iff]
  exact List.le_total _ _

theorem byteLE_trans (a b c : String) (hab : byteLE a b = true) (hbc : byteLE b c = true) :
    byteLE a c = true := by
  rw [byteLE_iff] at *
  exact List.le_trans hab hbc

theorem byteLE_antisymm {a b : String} (hab : byteLE a b = true) (hba : byteLE b a = true) :
    a = b := by
  rw [byteLE_iff] at hab hba
  have h : a.toUTF8.data = b.toUTF8.data := Array.toList_inj.1 (List.le_antisymm hab hba)
  exact String.toByteArray_inj.1 (ByteArray.ext h)

theorem byteLT_of_byteLE_of_ne {a b : String} (hab : byteLE a b = true) (hne : a ≠ b) :
    ByteLT a b := by
  refine List.not_le.1 fun hba => hne (byteLE_antisymm hab ?_)
  exact byteLE_iff.2 hba

/-- no two equal texts, so that sorting them leaves no equal neighbours -/
theorem pairwise_sorted {xs : List String} (h : xs.Nodup) :
    (xs.mergeSort byteLE).Pairwise ByteLT := by
  have hle := List.pairwise_mergeSort byteLE_trans byteLE_total xs
  have hne : (xs.mergeSort byteLE).Nodup := (List.mergeSort_perm xs byteLE).nodup_iff.2 h
  exact hle.imp₂ (fun _ _ hab hn => byteLT_of_byteLE_of_ne hab hn) hne

/-! ## strictly ascending lists -/

instance : Std.Irrefl ByteLT := ⟨fun _ => List.lt_irrefl _⟩

instance : Std.Antisymm ByteLT :=
  ⟨fun _ _ hab hba => absurd (List.lt_trans hab hba) (List.lt_irrefl _)⟩

/-- with one member more, one more stands somewhere in the list -/
theorem exists_append_of_mem_iff {xs ys : List String} {x : String} (hxs : xs.Pairwise ByteLT)
    (hys : ys.Pairwise ByteLT) (hx : x ∉ xs) (h : ∀ y, y ∈ ys ↔ y = x ∨ y ∈ xs) :
    ∃ before after, xs = before ++ after ∧ ys = before ++ x :: after := by
  obtain ⟨before, after, rfl⟩ := List.append_of_mem ((h x).2 (.inl rfl))
  have hrest : (before ++ after).Pairwise ByteLT :=
    hys.sublist ((List.sublist_cons_self x after).append_left before)
  have hx' : x ∉ before ++ after := (List.nodup_middle.1 hys.nodup).notMem
  refine ⟨before, after, hxs.eq_of_mem_iff hrest fun y => ⟨fun hy => ?_, fun hy => ?_⟩, rfl⟩
  · have hne : y ≠ x := by
      rintro rfl
      exact hx hy
    have hmem := List.mem_append.1 ((h y).2 (.inr hy))
    exact List.mem_append.2 (hmem.imp_right fun ha => (List.mem_cons.1 ha).resolve_left hne)
  · have hne : y ≠ x := by
      rintro rfl
      exact hx' hy
    have hmem := (List.mem_append.1 hy).imp_right (List.mem_cons_of_mem x)
    exact ((h y).1 (List.mem_append.2 hmem)).resolve_left hne

/-! ## entries of a directory -/

theorem FileName.text?_eq_some_iff {name : FileName} {text : String} :
    name.text? = some text ↔ ∃ isName, name = .text text isName := by
  cases name with
  | text t ht =>
    constructor
    · rintro ⟨rfl⟩
      exact ⟨ht, rfl⟩
    · rintro ⟨_, h⟩
      exact congrArg some (FileName.text.inj h)
  | undecoded _ _ => simp [FileName.text?]

namespace Disk

/-- the directory lists an entry of this name, and this is what the entry leads to once all links
are followed; the entry is looked up under its full path -/
def HasEntry (disk : Disk) (directory name : String) (kind : FileKind) : Prop :=
  ∃ listing isName, disk.list directory = .ok listing ∧
    FileName.text name isName ∈ listing.names ∧ disk.stat (Path.join directory name) = .ok kind

theorem isRegular_iff {disk : Disk} {path : String} :
    disk.isRegular path = true ↔ disk.stat path = .ok .regular := by
  unfold isRegular
  split <;> simp_all

theorem fileWith?_eq_some_iff {disk : Disk} {directory extension text : String} {name : FileName} :
    disk.fileWith? directory extension name = some text ↔
      name.text? = some text ∧ extension.toList <:+ text.toList ∧
        disk.stat (Path.join directory text) = .ok .regular := by
  unfold fileWith?
  rw [Option.filter_eq_some_iff, Bool.and_eq_true, isRegular_iff, List.isSuffixOf_iff_suffix]

/-- an entry is known by its text, so different entries give different names -/
theorem nodup_fileNames (disk : Disk) (directory extension : String) (listing : Listing) :
    (listing.names.filterMap (disk.fileWith? directory extension)).Nodup := by
  refine List.pairwise_filterMap.2 (listing.nodup.imp fun {a b} hab s hs t ht hst => hab ?_)
  obtain ⟨isName, rfl⟩ := FileName.text?_eq_some_iff.1 (fileWith?_eq_some_iff.1 hs).1
  obtain ⟨_, rfl⟩ := FileName.text?_eq_some_iff.1 (fileWith?_eq_some_iff.1 ht).1
  subst hst
  rfl

/-! ## collecting -/

theorem not_hasEntry_of_list_error {disk : Disk} {directory name : String} {kind : FileKind}
    {e : FileError} (h : disk.list directory = .error e) : ¬ disk.HasEntry directory name kind := by
  rintro ⟨listing, _, hl, _⟩
  rw [h] at hl
  cases hl

/-- the names that are collected: strictly ascending, and those of the files with the extension -/
theorem collect_ok {disk : Disk} {directory extension : String} {names : List String}
    (h : disk.collect directory extension = .ok names) :
    names.Pairwise ByteLT ∧
      ∀ n, n ∈ names ↔ disk.HasEntry directory n .regular ∧ extension.toList <:+ n.toList := by
  unfold collect at h
  split at h
  · rename_i listing hl
    cases h
    refine ⟨pairwise_sorted (disk.nodup_fileNames directory extension listing), fun n => ?_⟩
    rw [List.mem_mergeSort, List.mem_filterMap]
    constructor
    · rintro ⟨name, hm, hn⟩
      obtain ⟨ht, he, hs⟩ := fileWith?_eq_some_iff.1 hn
      obtain ⟨isName, rfl⟩ := FileName.text?_eq_some_iff.1 ht
      exact ⟨⟨listing, isName, hl, hm, hs⟩, he⟩
    · rintro ⟨⟨listing', isName, hl', hm, hs⟩, he⟩
      rw [hl] at hl'
      cases hl'
      exact ⟨_, hm, fileWith?_eq_some_iff.2 ⟨rfl, he, hs⟩⟩
  · rename_i e hl
    split at h
    · cases h
      refine ⟨.nil, fun n => ⟨fun hn => absurd hn List.not_mem_nil, fun hn => ?_⟩⟩
      exact absurd hn.1 (not_hasEntry_of_list_error hl)
    · cases h

theorem collect_error {disk : Disk} {directory extension : String} {e : FileError}
    (h : disk.collect directory extension = .error e) :
    disk.list directory = .error e ∧ e.isAbsence = false := by
  unfold collect at h
  split at h
  · cases h
  · rename_i e' hl
    split at h
    · cases h
    · rename_i he
      cases h
      exact ⟨hl, Bool.eq_false_iff.2 he⟩

end Disk

end ProjectAudit
