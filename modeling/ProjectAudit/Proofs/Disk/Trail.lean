import ProjectAudit.Proofs.Disk.Location
import ProjectAudit.Proofs.Disk.Walk

/-!
# What is asked for on the way

To find what a path leads to, the names on it are asked for one after the other, and those on the
links that are met (`Tree.trail`).  If two trees hold the same at each of these locations, the path
leads to the same in both (`Tree.IsSamePlace.resolve`).  So an edit that is made neither at one of
them nor above one is not seen through the path (`Tree.AgreesOutside.disk_congr`).  Where a path
leads somewhere, something is at each of the locations (`Tree.exists_node_of_resolve`).
-/

namespace ProjectAudit.Tree
variable {t t' : Tree}

/-! ## two trees -/

/-- the trees hold the same at the location, whatever is below it -/
def SameAt (t t' : Tree) (location : Location) : Prop :=
  (t'.node? location).map Node.shallow = (t.node? location).map Node.shallow

/-- two places at one location, each in its tree -/
structure IsSamePlace (t t' : Tree) (here here' : Place) : Prop where
  left : t.HasPlace here
  right : t'.HasPlace here'
  location : here'.location = here.location

namespace IsSamePlace
variable {here here' : Place}

theorem refl (h : t.HasPlace here) : IsSamePlace t t here here := ⟨h, h, rfl⟩

theorem top (t t' : Tree) : IsSamePlace t t' t.top t'.top := ⟨.top, .top, rfl⟩

theorem up (h : IsSamePlace t t' here here') : IsSamePlace t t' here.up here'.up where
  left := h.left.up
  right := h.right.up
  location := by
    have hup : ∀ here : Place, here.up.location = here.location.tail := by
      rintro ⟨entries, above⟩
      cases above <;> rfl
    rw [hup, hup, h.location]

theorem into (h : IsSamePlace t t' here here') {name : FileName} {entries entries' : Entries}
    (hl : here.entries.lookup name = some (.directory entries))
    (hl' : here'.entries.lookup name = some (.directory entries')) :
    IsSamePlace t t' (here.into name entries) (here'.into name entries') where
  left := h.left.into hl
  right := h.right.into hl'
  location := by rw [Place.location_into, Place.location_into, h.location]

theorem node?_into (h : IsSamePlace t t' here here') (name : FileName) :
    t'.node? (name :: here.location) = here'.entries.lookup name := by
  rw [← h.location]
  exact Tree.node?_into h.right name

end IsSamePlace

/-- the same file, or the same directory -/
inductive IsSameFound (t t' : Tree) : Found → Found → Prop where
  | file (content : ByteArray) : IsSameFound t t' (.file content) (.file content)
  | directory {here here' : Place} (same : IsSamePlace t t' here here') :
    IsSameFound t t' (.directory here) (.directory here')

inductive IsSameHalt (t t' : Tree) : Halt → Halt → Prop where
  | arrived {found found' : Found} (same : IsSameFound t t' found found') :
    IsSameHalt t t' (.arrived found) (.arrived found')
  | atLink {here here' : Place} (same : IsSamePlace t t' here here') (target : String)
    (rest : List Step) : IsSameHalt t t' (.atLink here target rest) (.atLink here' target rest)

/-! ## trails -/

/-- the locations that are asked for on the way from a directory to the first link -/
def advanceTrail (here : Place) : List Step → List Location
  | [] => []
  | .stay :: rest => advanceTrail here rest
  | .up :: rest => advanceTrail here.up rest
  | .into name :: rest =>
    (name :: here.location) ::
      match here.entries.lookup name with
      | some (.directory entries) => advanceTrail (here.into name entries) rest
      | _ => []

/-- with those that are asked for along the links -/
def walkTrail (t : Tree) (links : Nat) (here : Place) (steps : List Step) : List Location :=
  advanceTrail here steps ++
    match advance here steps with
    | .ok (.atLink directory target rest) =>
      match links with
      | 0 => []
      | links + 1 =>
        match route target with
        | .error _ => []
        | .ok r => t.walkTrail links (if r.isAbsolute then t.top else directory) (r.steps ++ rest)
    | _ => []

/-- the locations that are asked for to find what the path leads to -/
def trail (t : Tree) (cwd : Place) (path : String) : List Location :=
  match route path with
  | .error _ => []
  | .ok r => t.walkTrail maxLinks (if r.isAbsolute then t.top else cwd) r.steps

theorem mem_walkTrail {links : Nat} {here : Place} {steps : List Step} {location : Location}
    (h : location ∈ advanceTrail here steps) : location ∈ t.walkTrail links here steps := by
  rw [walkTrail]
  exact List.mem_append_left _ h

theorem walkTrail_of_atLink {links : Nat} {here directory : Place} {steps rest : List Step}
    {target : String} {r : Route} (ha : advance here steps = .ok (.atLink directory target rest))
    (hr : route target = .ok r) :
    t.walkTrail (links + 1) here steps = advanceTrail here steps ++
      t.walkTrail links (if r.isAbsolute then t.top else directory) (r.steps ++ rest) := by
  rw [walkTrail, ha]
  simp only [hr]

/-! ## the same answers -/

/-- the same error, or answers that are alike -/
inductive IsAlike {α : Type} (R : α → α → Prop) : Except FileError α → Except FileError α → Prop
  where
  | error (e : FileError) : IsAlike R (.error e) (.error e)
  | ok {a a' : α} (same : R a a') : IsAlike R (.ok a) (.ok a')

namespace IsAlike
variable {α : Type} {R : α → α → Prop} {answer answer' : Except FileError α}
  (h : IsAlike R answer answer')
include h

theorem eq_error {e : FileError} (ha : answer = .error e) : answer' = .error e := by
  subst ha
  cases h
  rfl

theorem exists_ok {a : α} (ha : answer = .ok a) : ∃ a', answer' = .ok a' ∧ R a a' := by
  subst ha
  cases h with
  | ok same => exact ⟨_, rfl, same⟩

end IsAlike

namespace IsSamePlace
variable {here here' : Place}

theorem lookup (h : IsSamePlace t t' here here') {name : FileName}
    (hsame : t.SameAt t' (name :: here.location)) :
    (here'.entries.lookup name).map Node.shallow =
      (here.entries.lookup name).map Node.shallow := by
  rw [← h.node?_into, ← Tree.node?_into h.left]
  exact hsame

/-- the cases are those of the steps and of what is found in the directory -/
theorem advance {steps : List Step} (h : IsSamePlace t t' here here')
    (htrail : ∀ location ∈ advanceTrail here steps, t.SameAt t' location) :
    IsAlike (IsSameHalt t t') (Tree.advance here steps) (Tree.advance here' steps) := by
  fun_induction Tree.advance here steps generalizing here' with
  | case1 here => exact .ok (.arrived (.directory h))
  | case2 here rest ih => exact ih h htrail
  | case3 here rest ih => exact ih h.up htrail
  | case4 here name rest hsize =>
    rw [Tree.advance, if_pos hsize]
    exact .error _
  | case5 here name rest hsize hl =>
    have hl' := h.lookup (htrail _ List.mem_cons_self)
    rw [hl] at hl'
    rw [Tree.advance, if_neg hsize, Option.map_eq_none_iff.1 hl']
    exact .error _
  | case6 here name rest hsize target hl =>
    have hl' := h.lookup (htrail _ List.mem_cons_self)
    rw [hl] at hl'
    rw [Tree.advance, if_neg hsize, Node.map_shallow_eq_link_iff.1 hl']
    exact .ok (.atLink h target rest)
  | case7 here name rest hsize entries hl ih =>
    have hl' := h.lookup (htrail _ List.mem_cons_self)
    rw [hl] at hl'
    obtain ⟨entries', hl'⟩ := Node.map_shallow_eq_directory_iff.1 hl'
    rw [Tree.advance, if_neg hsize, hl']
    refine ih (h.into hl hl') fun location hm => htrail location ?_
    rw [advanceTrail, hl]
    exact List.mem_cons_of_mem _ hm
  | case8 here name hsize content hl =>
    have hl' := h.lookup (htrail _ List.mem_cons_self)
    rw [hl] at hl'
    rw [Tree.advance, if_neg hsize, Node.map_shallow_eq_file_iff.1 hl']
    exact .ok (.arrived (.file content))
  | case9 here name rest hsize content hl hrest =>
    have hl' := h.lookup (htrail _ List.mem_cons_self)
    rw [hl] at hl'
    rw [Tree.advance, if_neg hsize, Node.map_shallow_eq_file_iff.1 hl']
    simp only [if_neg hrest]
    exact .error _

/-- the cases are those of a walk -/
theorem walk {links : Nat} {steps : List Step} (h : IsSamePlace t t' here here')
    (htrail : ∀ location ∈ t.walkTrail links here steps, t.SameAt t' location) :
    IsAlike (IsSameFound t t') (t.walk links here steps) (t'.walk links here' steps) := by
  have hadvance : ∀ {links : Nat} {steps : List Step} {here here' : Place},
      IsSamePlace t t' here here' →
      (∀ location ∈ t.walkTrail links here steps, t.SameAt t' location) →
      IsAlike (IsSameHalt t t') (Tree.advance here steps) (Tree.advance here' steps) :=
    fun h htrail => h.advance fun location hm => htrail location (mem_walkTrail hm)
  fun_induction Tree.walk t links here steps generalizing here' with
  | case1 links here steps e ha =>
    rw [Tree.walk, (hadvance h htrail).eq_error ha]
    exact .error e
  | case2 links here steps found ha =>
    obtain ⟨_, ha', hsame⟩ := (hadvance h htrail).exists_ok ha
    cases hsame with
    | arrived hsame =>
      rw [Tree.walk, ha']
      exact .ok hsame
  | case3 here steps directory target rest ha =>
    obtain ⟨_, ha', hsame⟩ := (hadvance h htrail).exists_ok ha
    cases hsame with
    | atLink =>
      -- both walks have followed the same links, so neither may follow another one
      rw [walk_of_atLink ha']
      exact .error _
  | case4 here steps directory target rest ha links e hr =>
    obtain ⟨_, ha', hsame⟩ := (hadvance h htrail).exists_ok ha
    cases hsame with
    | atLink =>
      simp only [walk_of_atLink ha', hr]
      exact .error e
  | case5 here steps directory target rest ha links r hr ih =>
    obtain ⟨_, ha', hsame⟩ := (hadvance h htrail).exists_ok ha
    cases hsame with
    | atLink hsame =>
      simp only [walk_of_atLink ha', hr]
      refine ih ?_ fun location hm => htrail location ?_
      · split
        · exact .top t t'
        · exact hsame
      · rw [walkTrail_of_atLink ha hr]
        exact List.mem_append_right _ hm

theorem resolve {path : String} (h : IsSamePlace t t' here here')
    (htrail : ∀ location ∈ t.trail here path, t.SameAt t' location) :
    IsAlike (IsSameFound t t') (t.resolve here path) (t'.resolve here' path) := by
  unfold trail at htrail
  unfold Tree.resolve
  cases hr : route path with
  | error e => exact .error e
  | ok r =>
    rw [hr] at htrail
    refine IsSamePlace.walk ?_ htrail
    split
    · exact .top t t'
    · exact h

end IsSamePlace

/-! ## places on the way -/

/-- a place is compared with itself -/
theorem HasPlace.of_resolve {cwd place : Place} {path : String} (h : t.HasPlace cwd)
    (hr : t.resolve cwd path = .ok (.directory place)) : t.HasPlace place := by
  obtain ⟨_, -, hsame⟩ := ((IsSamePlace.refl h).resolve fun _ _ => rfl).exists_ok hr
  cases hsame with
  | directory hsame => exact hsame.left

theorem HasPlace.of_advance {here directory : Place} {steps rest : List Step} {target : String}
    (h : t.HasPlace here) (ha : advance here steps = .ok (.atLink directory target rest)) :
    t.HasPlace directory := by
  obtain ⟨_, -, hsame⟩ := ((IsSamePlace.refl h).advance fun _ _ => rfl).exists_ok ha
  cases hsame with
  | atLink hsame => exact hsame.left

/-- on a way that goes on, something is at every location that is asked for -/
theorem exists_node_of_advance {here : Place} {steps : List Step} {halt : Halt}
    (h : t.HasPlace here) (ha : advance here steps = .ok halt) :
    ∀ location ∈ advanceTrail here steps, ∃ node, t.node? location = some node := by
  fun_induction advance here steps with
  | case1 here => exact fun _ hm => absurd hm List.not_mem_nil
  | case2 here rest ih => exact ih h ha
  | case3 here rest ih => exact ih h.up ha
  | case4 => cases ha
  | case5 => cases ha
  | case6 here name rest hsize target hl =>
    rw [advanceTrail, hl]
    exact List.forall_mem_singleton.2 ⟨_, (node?_into h name).trans hl⟩
  | case7 here name rest hsize entries hl ih =>
    rw [advanceTrail, hl]
    exact List.forall_mem_cons.2 ⟨⟨_, (node?_into h name).trans hl⟩, ih (h.into hl) ha⟩
  | case8 here name hsize content hl =>
    rw [advanceTrail, hl]
    exact List.forall_mem_singleton.2 ⟨_, (node?_into h name).trans hl⟩
  | case9 => cases ha

theorem exists_node_of_walk {links : Nat} {here : Place} {steps : List Step} {found : Found}
    (h : t.HasPlace here) (hw : t.walk links here steps = .ok found) :
    ∀ location ∈ t.walkTrail links here steps, ∃ node, t.node? location = some node := by
  fun_induction Tree.walk t links here steps with
  | case1 links here steps e ha => cases hw
  | case2 links here steps found ha =>
    rw [walkTrail, ha, List.append_nil]
    exact exists_node_of_advance h ha
  | case3 => cases hw
  | case4 => cases hw
  | case5 here steps directory target rest ha links r hr ih =>
    rw [walkTrail_of_atLink ha hr]
    refine List.forall_mem_append.2 ⟨exists_node_of_advance h ha, ih ?_ hw⟩
    split
    · exact .top
    · exact h.of_advance ha

theorem exists_node_of_resolve {here : Place} {path : String} {found : Found}
    (h : t.HasPlace here) (hr : t.resolve here path = .ok found) :
    ∀ location ∈ t.trail here path, ∃ node, t.node? location = some node := by
  unfold Tree.resolve at hr
  unfold trail
  cases hroute : route path with
  | error e =>
    rw [hroute] at hr
    cases hr
  | ok r =>
    rw [hroute] at hr
    refine exists_node_of_walk ?_ hr
    split
    · exact .top
    · exact h

/-! ## edits -/

/-- the trees hold the same apart from what is at and below the location -/
def AgreesOutside (t t' : Tree) (edited : Location) : Prop :=
  ∀ location, ¬ edited <:+ location → t.SameAt t' location

/-- whether something is put there or taken away -/
theorem agreesOutside_replace (t : Tree) (edited : Location) (new : Option Node) :
    t.AgreesOutside (t.replace edited new) edited := by
  intro location h
  have hprefix : ¬ edited.reverse <+: location.reverse := by rwa [List.reverse_prefix]
  have hfind := Node.find?_replace new (some (.directory t.entries)) hprefix
  unfold SameAt node? Tree.replace
  split
  · rename_i entries he
    rw [he] at hfind
    exact hfind
  · rfl

/-- an edit off the trail of a path is not seen through the path -/
theorem AgreesOutside.disk_congr {edited : Location} (h : t.AgreesOutside t' edited)
    {here here' : Place} {path : String} (hs : IsSamePlace t t' here here')
    (htrail : ∀ location ∈ t.trail here path, ¬ edited <:+ location) :
    (t'.disk here').stat path = (t.disk here).stat path ∧
      (t'.disk here').read path = (t.disk here).read path := by
  have halike := hs.resolve fun location hm => h location (htrail location hm)
  show (t'.resolve here' path).map Found.kind = (t.resolve here path).map Found.kind ∧
    (t'.resolve here' path >>= Found.text) = (t.resolve here path >>= Found.text)
  generalize t.resolve here path = answer, t'.resolve here' path = answer' at halike
  cases halike with
  | error e => exact ⟨rfl, rfl⟩
  | ok same => cases same <;> exact ⟨rfl, rfl⟩

end ProjectAudit.Tree
