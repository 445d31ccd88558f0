import ProjectAudit.Proofs.Path.Pieces

/-!
# Directories above a path

An absolute path that names every directory from `/` downwards is known by these names
(`components_ofNames`).  The directories it lies in are the paths of its first names, with itself
and `/` among them: `ancestors` lists all of them (`mem_ancestors_iff`) from the nearest one upwards
(`pairwise_ancestors`), each as the parent of the one before (`parent?_ofNames`).
-/

namespace ProjectAudit

theorem IsEntryName.isProper {n : String} (h : IsEntryName n) : Path.isProper n = true :=
  h.isSegment.isProper

theorem IsEntryName.needsSlash {n : String} (h : IsEntryName n) : Path.NeedsSlash n := by
  have hne : n.toList ≠ [] := fun he => h.1 (String.toList_inj.1 he)
  have hlast := List.getLast?_eq_some_getLast hne
  exact ⟨_, hlast, fun hslash => h.getLast?_ne (hlast.trans (congrArg some hslash))⟩

namespace Path
open Text

/-- the absolute path of the names, the outermost one first -/
def ofNames (names : List String) : String := "/" ++ "/".intercalate names

/-- an absolute path without dots, doubled slashes and a slash at its end, as the operating system
gives that of the current directory -/
def IsNormal (path : String) : Prop :=
  ∃ names, (∀ n ∈ names, IsEntryName n) ∧ path = ofNames names

/-- the directory is the path itself or one that it lies in, `/` included -/
def Encloses (directory path : String) : Prop := IsNormal directory ∧ IsAtOrAbove directory path

/-- the directory that an absolute path lies in: it has all names but the last, and `/` lies in
none -/
def parent? (path : String) : Option String :=
  match (components path).tail with
  | [] => none
  | name :: names => some (ofNames (name :: names).dropLast)

/-! ## names and components -/

section
variable {names : List String}

theorem components_ofNames (h : ∀ n ∈ names, IsEntryName n) :
    components (ofNames names) = "/" :: names := by
  rw [ofNames, components_slash_append]
  cases names with
  | nil => rfl
  | cons n names =>
    rw [pieces_intercalate (List.cons_ne_nil n names) fun k hk => (h k hk).pieces_eq,
      List.filter_eq_self.2 fun k hk => (h k hk).isProper]

theorem isAbsolute_ofNames (names : List String) : isAbsolute (ofNames names) = true := by
  rw [ofNames, isAbsolute_append (by decide)]
  decide

theorem needsSlash_ofNames (hne : names ≠ []) (h : ∀ n ∈ names, IsEntryName n) :
    NeedsSlash (ofNames names) := by
  refine NeedsSlash.append ?_ "/"
  induction names with
  | nil => exact absurd rfl hne
  | cons n names ih =>
    cases names with
    | nil => exact (h n List.mem_cons_self).needsSlash
    | cons m names =>
      rw [String.intercalate_cons_of_ne_nil (List.cons_ne_nil m names)]
      exact (ih (List.cons_ne_nil m names) fun k hk => h k (List.mem_cons_of_mem n hk)).append _

end

/-- the components tell normal paths apart -/
theorem IsNormal.eq_of_components {a b : String} (ha : IsNormal a) (hb : IsNormal b)
    (h : components a = components b) : a = b := by
  obtain ⟨names, hn, rfl⟩ := ha
  obtain ⟨names', hn', rfl⟩ := hb
  rw [components_ofNames hn, components_ofNames hn'] at h
  rw [(List.cons.inj h).2]

/-! ## going up -/

theorem parent?_ofNames {names : List String} {n : String}
    (h : ∀ m ∈ names ++ [n], IsEntryName m) :
    parent? (ofNames (names ++ [n])) = some (ofNames names) := by
  unfold parent?
  rw [components_ofNames h, List.tail_cons]
  split
  · rename_i he
    exact absurd he (List.append_ne_nil_of_right_ne_nil _ (List.cons_ne_nil n []))
  · rename_i m names' he
    rw [← he, List.dropLast_concat]

/-- what is above some names is the path of the outer ones among them -/
theorem mem_above_iff {inner : List String} {directory : String} :
    directory ∈ ancestors.above inner ↔
      ∃ outer, outer <:+ inner ∧ directory = ofNames outer.reverse := by
  induction inner with
  | nil =>
    rw [ancestors.above, List.mem_singleton]
    constructor
    · rintro rfl
      exact ⟨[], List.suffix_rfl, rfl⟩
    · rintro ⟨outer, ho, rfl⟩
      rw [List.suffix_nil.1 ho]
      rfl
  | cons n inner ih =>
    rw [ancestors.above, List.mem_cons, ih]
    constructor
    · rintro (rfl | ⟨outer, ho, rfl⟩)
      · exact ⟨n :: inner, List.suffix_rfl, rfl⟩
      · exact ⟨outer, ho.trans (List.suffix_cons n inner), rfl⟩
    · rintro ⟨outer, ho, rfl⟩
      rcases List.suffix_cons_iff.1 ho with rfl | ho
      · exact .inl rfl
      · exact .inr ⟨outer, ho, rfl⟩

section
variable {names : List String} (h : ∀ n ∈ names, IsEntryName n)
include h

theorem ancestors_ofNames : ancestors (ofNames names) = ancestors.above names.reverse := by
  have hcomponents := components_ofNames h
  unfold components at hcomponents
  rw [if_pos (isAbsolute_ofNames names)] at hcomponents
  rw [ancestors, (List.cons.inj hcomponents).2]

theorem encloses_ofNames_iff {directory : String} : Encloses directory (ofNames names) ↔
    ∃ outer, outer <+: names ∧ directory = ofNames outer := by
  unfold Encloses IsAtOrAbove
  constructor
  · rintro ⟨⟨outer, ho, rfl⟩, hfirst⟩
    rw [components_ofNames ho, components_ofNames h, List.prefix_cons_inj] at hfirst
    exact ⟨outer, hfirst, rfl⟩
  · rintro ⟨outer, hfirst, rfl⟩
    have ho : ∀ n ∈ outer, IsEntryName n := fun n hn => h n (hfirst.subset hn)
    refine ⟨⟨outer, ho, rfl⟩, ?_⟩
    rw [components_ofNames ho, components_ofNames h, List.prefix_cons_inj]
    exact hfirst

end

theorem mem_ancestors_iff {path directory : String} (h : IsNormal path) :
    directory ∈ ancestors path ↔ Encloses directory path := by
  obtain ⟨names, hn, rfl⟩ := h
  rw [ancestors_ofNames hn, mem_above_iff, encloses_ofNames_iff hn]
  constructor
  · rintro ⟨outer, ho, rfl⟩
    exact ⟨outer.reverse, List.reverse_suffix.1 (by rwa [List.reverse_reverse]), rfl⟩
  · rintro ⟨outer, ho, rfl⟩
    exact ⟨outer.reverse, List.reverse_suffix.2 ho, by rw [List.reverse_reverse]⟩

theorem pairwise_above {inner : List String} (h : ∀ n ∈ inner, IsEntryName n) :
    (ancestors.above inner).Pairwise fun near far => Encloses far near := by
  induction inner with
  | nil => exact List.pairwise_singleton _ _
  | cons n inner ih =>
    have hin : ∀ m ∈ inner, IsEntryName m := fun m hm => h m (List.mem_cons_of_mem n hm)
    have hrev : ∀ m ∈ (n :: inner).reverse, IsEntryName m := fun m hm => h m (List.mem_reverse.1 hm)
    refine List.pairwise_cons.2 ⟨fun far hfar => ?_, ih hin⟩
    obtain ⟨outer, ho, rfl⟩ := mem_above_iff.1 hfar
    refine (encloses_ofNames_iff hrev).2 ⟨outer.reverse, ?_, rfl⟩
    exact List.reverse_prefix.2 (ho.trans (List.suffix_cons n inner))

theorem pairwise_ancestors {path : String} (h : IsNormal path) :
    (ancestors path).Pairwise fun near far => Encloses far near := by
  obtain ⟨names, hn, rfl⟩ := h
  rw [ancestors_ofNames hn]
  exact pairwise_above fun n hn' => hn n (List.mem_reverse.1 hn')

end Path

end ProjectAudit
