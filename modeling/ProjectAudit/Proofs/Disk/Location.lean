import ProjectAudit.Disk.Edit

/-!
# What stands at a location

An edit is known by what is at each location afterwards.  It leaves alone whatever is neither at nor
below the location it is made at (`Node.find?_replace`).  A new file leaves all other locations as
they are, except that the directories above it hold more (`Tree.node?_insert_file`).  What is in a
directory is what stands at the locations one step below it (`Tree.node?_into`).
-/

namespace ProjectAudit

/-! ## entries and nodes -/

namespace Entries
variable {entries : Entries} {name m : FileName} {node? : Option Node}

theorem lookup_filter_of_ne (h : m ≠ name) :
    (entries.filter (·.1 ≠ name)).lookup m = entries.lookup m := by
  induction entries with
  | nil => rfl
  | cons entry entries ih =>
    obtain ⟨name', node⟩ := entry
    by_cases he : name' = name
    · have hm : (m == name') = false := beq_eq_false_iff_ne.2 (he ▸ h)
      rw [List.filter_cons_of_neg (by simp [he]), List.lookup_cons, hm]
      exact ih
    · rw [List.filter_cons_of_pos (by simp [he]), List.lookup_cons, List.lookup_cons, ih]

theorem lookup_set_self : (set entries name node?).lookup name = node? := by
  cases node? with
  | some node => exact List.lookup_cons_self
  | none =>
    rw [set, List.lookup_eq_none_iff]
    intro entry he
    have hne : entry.1 ≠ name := of_decide_eq_true (List.mem_filter.1 he).2
    exact bne_iff_ne.2 hne.symm

theorem lookup_set_of_ne (h : m ≠ name) :
    (set entries name node?).lookup m = entries.lookup m := by
  cases node? with
  | none => exact lookup_filter_of_ne h
  | some node =>
    have hm : (m == name) = false := beq_eq_false_iff_ne.2 h
    rw [set, List.lookup_cons, hm]
    exact lookup_filter_of_ne h

end Entries

namespace Node

/-- without what is below it -/
def shallow : Node → Node
  | .directory _ => .directory []
  | node => node

@[simp] theorem shallow_file (content : ByteArray) : shallow (.file content) = .file content := rfl

@[simp] theorem shallow_link (target : String) : shallow (.link target) = .link target := rfl

@[simp] theorem shallow_directory (entries : Entries) :
    shallow (.directory entries) = .directory [] := rfl

theorem map_shallow_eq_file_iff {node? : Option Node} {content : ByteArray} :
    node?.map shallow = some (.file content) ↔ node? = some (.file content) := by
  rcases node? with _ | node
  · simp
  · cases node <;> simp

theorem map_shallow_eq_link_iff {node? : Option Node} {target : String} :
    node?.map shallow = some (.link target) ↔ node? = some (.link target) := by
  rcases node? with _ | node
  · simp
  · cases node <;> simp

theorem map_shallow_eq_directory_iff {node? : Option Node} :
    node?.map shallow = some (.directory []) ↔ ∃ entries, node? = some (.directory entries) := by
  rcases node? with _ | node
  · simp
  · cases node <;> simp

theorem find?_append (node : Node) (a b : List FileName) :
    node.find? (a ++ b) = (node.find? a).bind (·.find? b) := by
  induction a generalizing node with
  | nil => cases node <;> rfl
  | cons name a ih =>
    cases node with
    | file content => rfl
    | link target => rfl
    | directory entries =>
      rw [List.cons_append, find?, find?]
      cases entries.lookup name with
      | none => rfl
      | some node => exact ih node

theorem find?_directory_cons (entries : Entries) (name : FileName) (names : List FileName) :
    (Node.directory entries).find? (name :: names) =
      (entries.lookup name).bind (·.find? names) := by
  rw [find?]
  cases entries.lookup name <;> rfl

/-- an edit changes nothing but what is at and below the names -/
theorem find?_replace (new old : Option Node) {names other : List FileName}
    (h : ¬ names <+: other) :
    ((replace new old names).bind (·.find? other)).map shallow =
      (old.bind (·.find? other)).map shallow := by
  induction names generalizing old other with
  | nil => exact absurd List.nil_prefix h
  | cons name names ih =>
    rcases old with _ | ⟨_ | _ | entries⟩
    · rfl
    · rfl
    · rfl
    · rw [replace, Option.bind_some, Option.bind_some]
      cases other with
      | nil => rfl
      | cons m rest =>
        rw [find?_directory_cons, find?_directory_cons]
        by_cases hm : m = name
        · subst hm
          rw [Entries.lookup_set_self]
          exact ih _ fun hp => h (List.cons_prefix_cons.2 ⟨rfl, hp⟩)
        · rw [Entries.lookup_set_of_ne hm]

/-- the induction is on the way to the directory that holds the new file -/
theorem find?_replace_file {node : Node} {names : List FileName} {entries : Entries}
    {name : FileName} (content : ByteArray) (hdir : node.find? names = some (.directory entries))
    (hnew : entries.lookup name = none) :
    ∃ node', replace (some (.file content)) (some node) (names ++ [name]) = some node' ∧
      ∀ other, (node'.find? other).map shallow =
        if other = names ++ [name] then some (.file content)
        else (node.find? other).map shallow := by
  induction names generalizing node with
  | nil =>
    have hnode : node = .directory entries := by
      cases node <;> exact Option.some.inj hdir
    subst hnode
    refine ⟨_, rfl, fun other => ?_⟩
    cases other with
    | nil => rfl
    | cons m rest =>
      by_cases hm : m = name
      · subst hm
        simp only [find?, replace, Entries.lookup_set_self, hnew]
        cases rest with
        | nil => simp [find?]
        | cons m' rest => simp [find?]
      · simp only [find?, replace, Entries.lookup_set_of_ne hm]
        rw [if_neg (by simp [hm])]
  | cons outer names ih =>
    cases node with
    | file content => cases hdir
    | link target => cases hdir
    | directory around =>
      rw [find?] at hdir
      cases hchild : around.lookup outer with
      | none => simp [hchild] at hdir
      | some child =>
        simp only [hchild] at hdir
        obtain ⟨child', hr, hother⟩ := ih hdir
        refine ⟨.directory (Entries.set around outer (some child')), ?_, fun other => ?_⟩
        · rw [List.cons_append, replace, hchild, hr]
        · cases other with
          | nil => rfl
          | cons m rest =>
            by_cases hm : m = outer
            · subst hm
              simp only [find?, Entries.lookup_set_self, hchild, hother rest, List.cons_append,
                List.cons.injEq, true_and]
            · simp only [find?, Entries.lookup_set_of_ne hm]
              rw [if_neg (by simp [hm])]

end Node

/-! ## the nodes of a tree -/

namespace Tree
variable {t : Tree}

theorem node?_cons (t : Tree) (name : FileName) (above : Location) :
    t.node? (name :: above) = (t.node? above).bind (·.find? [name]) := by
  rw [node?, node?, List.reverse_cons, Node.find?_append]

/-- a new file is at its location, and at every other one there is what there was, apart from what
is below it -/
theorem node?_insert_file {above : Location} {name : FileName} {entries : Entries}
    (content : ByteArray) (hdir : t.node? above = some (.directory entries))
    (hnew : entries.lookup name = none) (location : Location) :
    ((t.insert (name :: above) (.file content)).node? location).map Node.shallow =
      if location = name :: above then some (.file content)
      else (t.node? location).map Node.shallow := by
  obtain ⟨node', hr, hother⟩ := Node.find?_replace_file content hdir hnew
  obtain ⟨top, rfl⟩ : ∃ top, node' = .directory top := by
    have htop := hother []
    rw [if_neg (by simp)] at htop
    obtain ⟨top, htop⟩ := Node.map_shallow_eq_directory_iff.1 htop
    exact ⟨top, Option.some.inj htop⟩
  have hinsert : t.insert (name :: above) (.file content) = ⟨top⟩ := by
    rw [insert, Tree.replace, List.reverse_cons, hr]
  have hlocation : location.reverse = above.reverse ++ [name] ↔ location = name :: above := by
    rw [← List.reverse_cons, List.reverse_inj]
  rw [hinsert]
  show (Node.find? (.directory top) location.reverse).map Node.shallow = _
  simp only [hother, hlocation]
  rfl

/-! ## the directories of a tree -/

/-- the place is in the tree, with the right way to it -/
inductive HasPlace (t : Tree) : Place → Prop where
  | top : HasPlace t t.top
  | into {here : Place} {name : FileName} {entries : Entries} (outer : HasPlace t here)
    (lookup : here.entries.lookup name = some (.directory entries)) :
    HasPlace t (here.into name entries)

theorem HasPlace.up {here : Place} (h : t.HasPlace here) : t.HasPlace here.up := by
  cases h with
  | top => exact .top
  | into outer _ => exact outer

theorem node?_location {here : Place} (h : t.HasPlace here) :
    t.node? here.location = some (.directory here.entries) := by
  induction h with
  | top => rfl
  | into _ hl ih =>
    rw [Place.location_into, node?_cons, ih]
    simp [Node.find?, hl, Place.into]

theorem node?_into {here : Place} (h : t.HasPlace here) (name : FileName) :
    t.node? (name :: here.location) = here.entries.lookup name := by
  rw [node?_cons, node?_location h]
  show Node.find? (.directory here.entries) [name] = _
  rw [Node.find?]
  cases here.entries.lookup name with
  | none => rfl
  | some node => cases node <;> rfl

end Tree

end ProjectAudit
