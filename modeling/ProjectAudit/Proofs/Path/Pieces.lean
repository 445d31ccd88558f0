import ProjectAudit.Proofs.Disk.Walk

/-!
# Paths by their pieces

The pieces of a path put a slash apart are the path again (`intercalate_pieces`).  Those that count
are segments (`isSegment_of_mem_pieces`), and a path with no others has its pieces as components
(`components_eq_pieces`).  A path all of whose pieces are names leads strictly downwards:

* `IsPlain.components_eq`     its components are its pieces;
* `IsPlain.display_eq`        it is displayed as it is;
* `IsPlain.components_join`   put below a root it adds its pieces to the components of the root.
-/

namespace ProjectAudit
open Text

namespace Path

/-- every piece is a name: none is empty, and none stays where it is or leads up -/
def IsPlain (path : String) : Prop :=
  ∀ piece ∈ pieces path, piece ≠ "" ∧ piece ≠ "." ∧ piece ≠ ".."

/-- the one path is the other or leads to a directory that the other leads through -/
def IsAtOrAbove (a b : String) : Prop := components a <+: components b

def IsAbove (a b : String) : Prop := IsAtOrAbove a b ∧ components a ≠ components b

/-- what counts between two slashes: a name or a step up -/
def IsSegment (piece : String) : Prop := piece ≠ "" ∧ piece ≠ "." ∧ '/' ∉ piece.toList

/-! ## pieces -/

theorem pieces_empty : pieces "" = [""] := rfl

theorem pieces_ne_nil (path : String) : pieces path ≠ [] := by
  unfold pieces
  rw [ne_eq, List.map_eq_nil_iff]
  exact split_ne_nil _

theorem pieces_append_slash (a b : String) : pieces (a ++ "/" ++ b) = pieces a ++ pieces b := by
  have ht : (a ++ "/" ++ b).toList = a.toList ++ '/' :: b.toList := by simp
  unfold pieces
  rw [ht, split_append_sep (by simp), List.map_append]

theorem pieces_intercalate {ps : List String} (hne : ps ≠ []) (h : ∀ p ∈ ps, pieces p = [p]) :
    pieces ("/".intercalate ps) = ps := by
  induction ps with
  | nil => exact absurd rfl hne
  | cons p ps ih =>
    have hp := h p List.mem_cons_self
    cases ps with
    | nil => exact hp
    | cons q ps =>
      rw [String.intercalate_cons_of_ne_nil (List.cons_ne_nil q ps), pieces_append_slash, hp,
        ih (List.cons_ne_nil q ps) fun k hk => h k (List.mem_cons_of_mem p hk)]
      rfl

/-- a path that starts with a slash has an empty piece before it -/
theorem empty_mem_pieces {path : String} (h : isAbsolute path = true) : "" ∈ pieces path := by
  obtain ⟨below, hb⟩ := List.isPrefixOf_iff_prefix.1 h
  unfold pieces
  rw [← hb, List.singleton_append, split_cons_of_sep (by simp)]
  exact List.mem_cons_self

theorem isAbsolute_eq_false_of_pieces {path : String} (h : "" ∉ pieces path) :
    isAbsolute path = false := by
  rw [Bool.eq_false_iff]
  exact fun ha => h (empty_mem_pieces ha)

/-- cutting at the slashes loses nothing but them -/
theorem intercalate_split (cs : List Char) : ['/'].intercalate (split (· = '/') cs) = cs := by
  induction cs with
  | nil => rfl
  | cons c cs ih =>
    by_cases hc : c = '/'
    · subst hc
      rw [split_cons_of_sep (by simp), List.intercalate_cons_of_ne_nil (split_ne_nil cs), ih]
      rfl
    · obtain ⟨piece, later, hs⟩ := exists_split (· = '/') cs
      rw [split_cons (by simpa using hc) hs]
      rw [hs] at ih
      cases later with
      | nil => simpa using ih
      | cons next later => simpa using ih

theorem intercalate_pieces (path : String) : "/".intercalate (pieces path) = path := by
  apply String.toList_inj.1
  have hid : (String.toList ∘ String.ofList : List Char → List Char) = id :=
    funext fun cs => String.toList_ofList
  rw [String.toList_intercalate, pieces, List.map_map, hid, List.map_id]
  exact intercalate_split path.toList

/-! ## components -/

theorem components_append_slash {a : String} (ha : a ≠ "") (b : String) :
    components (a ++ "/" ++ b) = components a ++ (pieces b).filter isProper := by
  have hne : a.toList ≠ [] := fun he => ha (String.toList_inj.1 he)
  have habs : isAbsolute (a ++ "/" ++ b) = isAbsolute a := by
    rw [String.append_assoc, isAbsolute_append hne]
  have hhead : (pieces a ++ pieces b).head? = (pieces a).head? := by
    rw [List.head?_append_of_ne_nil _ (pieces_ne_nil a)]
  unfold components
  rw [habs, pieces_append_slash, List.filter_append, hhead]
  split
  · rfl
  · split <;> rfl

theorem components_slash_append (b : String) :
    components ("/" ++ b) = "/" :: (pieces b).filter isProper := by
  have habs : isAbsolute ("/" ++ b) = true := by
    rw [isAbsolute_append (by decide)]
    decide
  have hp : pieces ("/" ++ b) = "" :: pieces b := by
    have h := pieces_append_slash "" b
    rwa [String.empty_append, pieces_empty, List.singleton_append] at h
  have hempty : isProper "" = false := by decide
  unfold components
  rw [if_pos habs, hp, List.filter_cons, hempty]
  rfl

/-- a path without empty pieces and dots has its pieces as components -/
theorem components_eq_pieces {path : String} (h : ∀ p ∈ pieces path, isProper p = true) :
    components path = pieces path := by
  have habs : isAbsolute path = false :=
    isAbsolute_eq_false_of_pieces fun hempty => Bool.false_ne_true (h "" hempty)
  have hhead : (pieces path).head? ≠ some "." := fun he =>
    Bool.false_ne_true (h "." (List.mem_of_head? he))
  unfold components
  rw [habs, if_neg Bool.false_ne_true, if_neg hhead, List.filter_eq_self.2 h]

/-- a component is the root, the place itself, or a piece of the path -/
theorem mem_of_mem_components {path component : String} (h : component ∈ components path) :
    component = "/" ∨ component = "." ∨ component ∈ pieces path := by
  unfold components at h
  split at h
  · rcases List.mem_cons.1 h with h | h
    · exact .inl h
    · exact .inr (.inr (List.mem_of_mem_filter h))
  · split at h
    · rcases List.mem_cons.1 h with h | h
      · exact .inr (.inl h)
      · exact .inr (.inr (List.mem_of_mem_filter h))
    · exact .inr (.inr (List.mem_of_mem_filter h))

/-! ## display -/

theorem mem_of_mem_intercalate {c : Char} {sep : String} {texts : List String}
    (h : c ∈ (sep.intercalate texts).toList) :
    c ∈ sep.toList ∨ ∃ text ∈ texts, c ∈ text.toList := by
  induction texts with
  | nil => cases h
  | cons text texts ih =>
    by_cases hne : texts = []
    · subst hne
      exact .inr ⟨text, List.mem_cons_self, h⟩
    · rw [String.intercalate_cons_of_ne_nil hne, String.toList_append, String.toList_append,
        List.mem_append, List.mem_append] at h
      rcases h with (h | h) | h
      · exact .inr ⟨text, List.mem_cons_self, h⟩
      · exact .inl h
      · rcases ih h with h | ⟨later, hl, h⟩
        · exact .inl h
        · exact .inr ⟨later, List.mem_cons_of_mem _ hl, h⟩

/-- a path is displayed in its own characters, slashes and dots apart -/
theorem mem_of_mem_display {path : String} {c : Char} (h : c ∈ (display path).toList) :
    c = '/' ∨ c = '.' ∨ c ∈ path.toList := by
  rcases mem_of_mem_intercalate h with hsep | ⟨component, hcomponent, hc⟩
  · exact .inl (List.mem_singleton.1 hsep)
  · rcases mem_of_mem_components hcomponent with rfl | rfl | hp
    · exact .inl (List.mem_singleton.1 hc)
    · exact .inr (.inl (List.mem_singleton.1 hc))
    · obtain ⟨piece, hm, rfl⟩ := List.mem_map.1 hp
      rw [String.toList_ofList] at hc
      exact .inr (.inr (mem_of_mem_split hm hc))

theorem not_mem_display {path : String} {c : Char} (hslash : c ≠ '/') (hdot : c ≠ '.')
    (h : c ∉ path.toList) : c ∉ (display path).toList := fun hc =>
  (mem_of_mem_display hc).elim hslash fun hc => hc.elim hdot h

/-! ## segments -/

namespace IsSegment
variable {piece : String}

theorem isProper (h : IsSegment piece) : Path.isProper piece = true := by
  simp [Path.isProper, h.1, h.2.1]

theorem pieces_eq (h : IsSegment piece) : pieces piece = [piece] := by
  have hslash : ∀ c ∈ piece.toList, decide (c = '/') = false := fun c hc =>
    decide_eq_false fun he => h.2.2 (he ▸ hc)
  rw [pieces, split_of_no_sep hslash, List.map_singleton, String.ofList_toList]

theorem components_eq (h : IsSegment piece) : components piece = [piece] := by
  rw [components_eq_pieces, h.pieces_eq]
  intro p hp
  rw [h.pieces_eq, List.mem_singleton] at hp
  exact hp ▸ h.isProper

end IsSegment

theorem isSegment_of_mem_pieces {path piece : String} (h : piece ∈ pieces path)
    (hp : isProper piece = true) : IsSegment piece := by
  obtain ⟨cs, hcs, rfl⟩ := List.mem_map.1 h
  simp only [isProper, ne_eq, Bool.and_eq_true, decide_eq_true_eq] at hp
  refine ⟨hp.1, hp.2, fun hslash => ?_⟩
  rw [String.toList_ofList] at hslash
  have hsep := not_sep_of_mem_split hcs hslash
  exact of_decide_eq_false hsep rfl

/-! ## plain paths -/

namespace IsPlain
variable {path : String} (h : IsPlain path)
include h

theorem ne_empty : path ≠ "" := by
  rintro rfl
  exact (h "" List.mem_cons_self).1 rfl

theorem isAbsolute_eq_false : isAbsolute path = false :=
  isAbsolute_eq_false_of_pieces fun hempty => (h "" hempty).1 rfl

theorem isProper_of_mem {piece : String} (hp : piece ∈ pieces path) : isProper piece = true := by
  obtain ⟨hempty, hdot, -⟩ := h piece hp
  simp [isProper, hempty, hdot]

theorem filter_pieces : (pieces path).filter isProper = pieces path :=
  List.filter_eq_self.2 fun _ hp => h.isProper_of_mem hp

theorem components_eq : components path = pieces path :=
  components_eq_pieces fun _ hp => h.isProper_of_mem hp

theorem display_eq : display path = path := by
  rw [display, h.components_eq, intercalate_pieces]

/-- whether or not the root is empty, ends in a slash, or starts with a slash or a dot -/
theorem components_join (root : String) :
    components (join root path) = components root ++ pieces path := by
  unfold join
  rw [h.isAbsolute_eq_false, if_neg Bool.false_ne_true]
  by_cases hempty : root = ""
  · subst hempty
    rw [if_pos (by decide), String.empty_append, h.components_eq]
    rfl
  · have hne : root.toList ≠ [] := fun he => hempty (String.toList_inj.1 he)
    have hlast := List.getLast?_eq_some_getLast hne
    split
    · -- the root ends in a slash, and what is before it may be nothing
      rename_i hslash
      rw [hlast, Option.all_some, decide_eq_true_eq] at hslash
      obtain ⟨base, rfl⟩ : ∃ base, root = base ++ "/" := by
        refine ⟨.ofList root.toList.dropLast, String.toList_inj.1 ?_⟩
        have hcut := List.dropLast_concat_getLast hne
        rw [hslash] at hcut
        rw [String.toList_append, String.toList_ofList]
        exact hcut.symm
      by_cases hbase : base = ""
      · subst hbase
        rw [String.empty_append, components_slash_append, h.filter_pieces]
        rfl
      · have hroot := components_append_slash hbase ""
        rw [String.append_empty] at hroot
        rw [components_append_slash hbase, hroot, h.filter_pieces, List.append_assoc]
        rfl
    · rw [components_append_slash hempty, h.filter_pieces]

end IsPlain

end Path

namespace IsEntryName
variable {n : String}

theorem isSegment (h : IsEntryName n) : Path.IsSegment n := ⟨h.1, h.2.1, h.2.2.2.1⟩

theorem pieces_eq (h : IsEntryName n) : Path.pieces n = [n] := h.isSegment.pieces_eq

end IsEntryName

end ProjectAudit
