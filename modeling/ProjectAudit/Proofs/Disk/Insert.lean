import ProjectAudit.Proofs.Disk.SamePlace
import ProjectAudit.Proofs.Disk.Trail

/-!
# Putting a file into a directory

A path that led to a file or a directory leads to the same one after there is more in the tree
(`Tree.IsWithin.resolve`).  A new file in a directory is such a change; it is found under its own
path, and what the other entries of the directory lead to stays, links apart
(`Tree.stat_addFile_self`, `Tree.stat_addFile_of_ne`).
-/

namespace ProjectAudit

/-- what is at a path stays there, and a file keeps its text; there may be more than before -/
structure Disk.IsKept (disk disk' : Disk) : Prop where
  stat : ∀ {path kind}, disk.stat path = .ok kind → disk'.stat path = .ok kind
  read : ∀ {path text}, disk.read path = .ok text → disk'.read path = .ok text

/-! ## trees that hold more -/

namespace Tree
variable {t t' : Tree}

/-- whatever is in the one tree is at the same location in the other; the directories may hold
more -/
def IsWithin (t t' : Tree) : Prop :=
  ∀ location node, t.node? location = some node →
    (t'.node? location).map Node.shallow = some node.shallow

theorem isWithin_insert_file {above : Location} {name : FileName} {entries : Entries}
    (content : ByteArray) (hdir : t.node? above = some (.directory entries))
    (hnew : entries.lookup name = none) :
    t.IsWithin (t.insert (name :: above) (.file content)) := by
  intro location node hnode
  rw [node?_insert_file content hdir hnew, if_neg, hnode]
  · rfl
  · rintro rfl
    rw [node?_cons, hdir] at hnode
    simp [Node.find?, hnew] at hnode

namespace IsWithin
variable (h : t.IsWithin t') {here here' : Place}
include h

theorem sameAt {location : Location} {node : Node} (hnode : t.node? location = some node) :
    t.SameAt t' location := by
  rw [SameAt, h _ _ hnode, hnode]
  rfl

theorem exists_place (hp : t.HasPlace here) : ∃ here', IsSamePlace t t' here here' := by
  induction hp with
  | top => exact ⟨_, .top t t'⟩
  | into _ hl ih =>
    obtain ⟨outer', hs⟩ := ih
    have hl' := hs.lookup (h.sameAt ((node?_into hs.left _).trans hl))
    rw [hl] at hl'
    obtain ⟨entries', hl'⟩ := Node.map_shallow_eq_directory_iff.1 hl'
    exact ⟨_, hs.into hl hl'⟩

/-- a path that leads somewhere leads to the same afterwards -/
theorem resolve {path : String} {found : Found} (hs : IsSamePlace t t' here here')
    (hr : t.resolve here path = .ok found) :
    ∃ found', t'.resolve here' path = .ok found' ∧ IsSameFound t t' found found' := by
  refine (hs.resolve fun location hm => ?_).exists_ok hr
  obtain ⟨node, hnode⟩ := exists_node_of_resolve hs.left hr location hm
  exact h.sameAt hnode

/-- the places of a tree are those that paths lead to -/
theorem isSamePlace_of_resolve {path : String} (hs : IsSamePlace t t' here here')
    {place : Place} (hr : t.resolve here path = .ok (.directory place)) :
    ∃ place', t'.resolve here' path = .ok (.directory place') ∧ IsSamePlace t t' place place' := by
  obtain ⟨_, hr', hsame⟩ := h.resolve hs hr
  cases hsame with
  | directory hsame => exact ⟨_, hr', hsame⟩

theorem isKept (hs : IsSamePlace t t' here here') : (t.disk here).IsKept (t'.disk here') where
  stat := by
    intro path kind hstat
    obtain ⟨found, hr, rfl⟩ := stat_eq_ok_iff.1 hstat
    obtain ⟨found', hr', hsame⟩ := h.resolve hs hr
    refine stat_eq_ok_iff.2 ⟨found', hr', ?_⟩
    cases hsame <;> rfl
  read := by
    intro path text hread
    change t.resolve here path >>= Found.text = .ok text at hread
    cases hr : t.resolve here path with
    | error e =>
      rw [hr] at hread
      cases hread
    | ok found =>
      obtain ⟨found', hr', hsame⟩ := h.resolve hs hr
      show t'.resolve here' path >>= Found.text = .ok text
      rw [hr] at hread
      rw [hr']
      cases hsame with
      | file content => exact hread
      | directory => cases hread

end IsWithin

/-- what an entry leads to depends on its node alone unless that is a link -/
theorem stat_join_congr {cwd cwd' here here' : Place} {directory n : String} (hn : IsEntryName n)
    (hp : t.resolve cwd directory = .ok (.directory here))
    (hp' : t'.resolve cwd' directory = .ok (.directory here'))
    (hlink : ∀ target, here.entries.lookup (.text n hn) ≠ some (.link target))
    (hl : (here'.entries.lookup (.text n hn)).map Node.shallow =
      (here.entries.lookup (.text n hn)).map Node.shallow) :
    (t'.disk cwd').stat (Path.join directory n) = (t.disk cwd).stat (Path.join directory n) := by
  show (t'.resolve cwd' _).map Found.kind = (t.resolve cwd _).map Found.kind
  cases hr : route (Path.join directory n) with
  | error e =>
    rw [Tree.resolve, Tree.resolve, hr]
  | ok r =>
    obtain ⟨links, hw⟩ := resolve_join_of_route hn hp hr
    obtain ⟨links', hw'⟩ := resolve_join_of_route hn hp' hr
    rw [hw, hw', Tree.walk, Tree.walk, Tree.advance, Tree.advance]
    by_cases hsize : maxNameSize < (FileName.text n hn).size
    · rw [if_pos hsize, if_pos hsize]
    · rw [if_neg hsize, if_neg hsize]
      cases hnode : here.entries.lookup (.text n hn) with
      | none =>
        rw [hnode] at hl
        rw [Option.map_eq_none_iff.1 hl]
      | some node =>
        rw [hnode] at hl
        cases node with
        | file content =>
          rw [Node.map_shallow_eq_file_iff.1 hl]
          rfl
        | link target => exact absurd hnode (hlink target)
        | directory entries =>
          obtain ⟨_, hnode'⟩ := Node.map_shallow_eq_directory_iff.1 hl
          rw [hnode']
          rfl

end Tree

/-! ## a new file in a directory -/

/-- a file of this name can be made in the directory, which has the path: nothing is there under the
name, and no limit is in the way -/
structure Place.HasRoomFor (here : Place) (directory n : String) (isName : IsEntryName n) :
    Prop where
  isNew : here.entries.lookup (.text n isName) = none
  size_le : n.utf8ByteSize ≤ Tree.maxNameSize
  path_size_le : (Path.join directory n).utf8ByteSize ≤ Tree.maxPathSize

namespace Tree

/-- with a file in the directory `here` -/
def addFile (t : Tree) (here : Place) (name : FileName) (content : ByteArray) : Tree :=
  t.insert (name :: here.location) (.file content)

section
variable {t : Tree} {cwd cwd' here here' : Place} {name : FileName} {content : ByteArray}
  {directory n : String} {isName : IsEntryName n}

theorem isWithin_addFile (content : ByteArray) (hp : t.HasPlace here)
    (hnew : here.entries.lookup name = none) : t.IsWithin (t.addFile here name content) :=
  isWithin_insert_file content (node?_location hp) hnew

theorem lookup_addFile (hs : IsSamePlace t (t.addFile here name content) here here')
    (hnew : here.entries.lookup name = none) (other : FileName) :
    (here'.entries.lookup other).map Node.shallow =
      if other = name then some (.file content)
      else (here.entries.lookup other).map Node.shallow := by
  rw [← hs.node?_into, addFile, node?_insert_file content (node?_location hs.left) hnew,
    node?_into hs.left]
  simp only [List.cons.injEq, and_true]

theorem stat_addFile_self (hd : Path.NeedsSlash directory) (hcwd : t.HasPlace cwd)
    (hs : IsSamePlace t (t.addFile here (.text n isName) content) cwd cwd')
    (hp : t.resolve cwd directory = .ok (.directory here))
    (hroom : here.HasRoomFor directory n isName) :
    ((t.addFile here (.text n isName) content).disk cwd').stat (Path.join directory n) =
      .ok .regular := by
  have hwithin := isWithin_addFile content (hcwd.of_resolve hp) hroom.isNew
  obtain ⟨here', hp', hhere⟩ := hwithin.isSamePlace_of_resolve hs hp
  have hl := lookup_addFile hhere hroom.isNew (.text n isName)
  rw [if_pos rfl] at hl
  have hnode := Node.map_shallow_eq_file_iff.1 hl
  have hsize : directory.utf8ByteSize + 1 + n.utf8ByteSize ≤ maxPathSize := by
    have hsize := hroom.path_size_le
    rwa [Path.join_of_needsSlash hd isName.isAbsolute_eq_false, String.utf8ByteSize_append,
      String.utf8ByteSize_append] at hsize
  exact stat_eq_ok_iff.2 ⟨_, resolve_join isName hd hp' hsize hroom.size_le hnode, rfl⟩

/-- no other entry of the directory is touched unless it is a link, which could lead to the file -/
theorem stat_addFile_of_ne {m : String} (hm : IsEntryName m) (hne : m ≠ n) (hcwd : t.HasPlace cwd)
    (hs : IsSamePlace t (t.addFile here (.text n isName) content) cwd cwd')
    (hp : t.resolve cwd directory = .ok (.directory here))
    (hnew : here.entries.lookup (.text n isName) = none)
    (hlink : ∀ target, here.entries.lookup (.text m hm) ≠ some (.link target)) :
    ((t.addFile here (.text n isName) content).disk cwd').stat (Path.join directory m) =
      (t.disk cwd).stat (Path.join directory m) := by
  have hwithin := isWithin_addFile content (hcwd.of_resolve hp) hnew
  obtain ⟨here', hp', hhere⟩ := hwithin.isSamePlace_of_resolve hs hp
  refine stat_join_congr hm hp hp' hlink ?_
  rw [lookup_addFile hhere hnew, if_neg fun he => hne (FileName.text.inj he)]

end

end Tree

end ProjectAudit
