import Mathlib.Logic.Relation
import ProjectAudit.Proofs.Path.Pieces
import ProjectAudit.Target

/-!
# Displayed paths

The components of a path are segments, with a slash or a dot in front of them or not.  With a slash
between two of them they have themselves as components (`components_intercalate`), so a displayed
path has lost none.  What it has lost are separators that say nothing: it is a spelling of the path
(`isRespelling_display`), and two paths are spellings of each other exactly if they have the same
components (`isRespelling_iff`).
-/

namespace ProjectAudit
namespace Path

/-- segments, which a slash or a dot may stand in front of -/
inductive AreComponents : List String → Prop
  | segments {ps : List String} (h : ∀ p ∈ ps, IsSegment p) : AreComponents ps
  | slash {ps : List String} (h : ∀ p ∈ ps, IsSegment p) : AreComponents ("/" :: ps)
  | dot {ps : List String} (h : ∀ p ∈ ps, IsSegment p) : AreComponents ("." :: ps)

/-- the second path is the first one without a separator that says nothing: the second of two
slashes, a dot after a slash, or a slash at the end, unless the path is only that slash -/
inductive DropsSeparator : String → String → Prop
  | doubled (a b : String) : DropsSeparator (a ++ "//" ++ b) (a ++ "/" ++ b)
  | dot (a b : String) : DropsSeparator (a ++ "/./" ++ b) (a ++ "/" ++ b)
  | lastDot (a : String) : DropsSeparator (a ++ "/.") (a ++ "/")
  | last {a : String} (h : a ≠ "") : DropsSeparator (a ++ "/") a

/-- the same path up to separators that say nothing -/
def IsRespelling : String → String → Prop := Relation.EqvGen DropsSeparator

/-! ## components put together -/

theorem areComponents_components (path : String) : AreComponents (components path) := by
  have hps : ∀ p ∈ (pieces path).filter isProper, IsSegment p := fun p hp =>
    isSegment_of_mem_pieces (List.mem_filter.1 hp).1 (List.mem_filter.1 hp).2
  unfold components
  split
  · exact .slash hps
  · split
    · exact .dot hps
    · exact .segments hps

theorem components_intercalate_cons {a : String} (ha : a ≠ "") {ps : List String}
    (h : ∀ p ∈ ps, IsSegment p) :
    components ("/".intercalate (a :: ps)) = components a ++ ps := by
  by_cases hne : ps = []
  · rw [hne, String.intercalate_singleton, List.append_nil]
  · rw [String.intercalate_cons_of_ne_nil hne, components_append_slash ha,
      pieces_intercalate hne fun p hp => (h p hp).pieces_eq,
      List.filter_eq_self.2 fun p hp => (h p hp).isProper]

theorem components_intercalate {cs : List String} (h : AreComponents cs) :
    components ("/".intercalate cs) = cs := by
  cases h with
  | segments h =>
    cases cs with
    | nil => rfl
    | cons p ps =>
      have hp := h p List.mem_cons_self
      rw [components_intercalate_cons hp.1 fun q hq => h q (List.mem_cons_of_mem p hq),
        hp.components_eq, List.singleton_append]
  | slash h => exact components_intercalate_cons (by decide) h
  | dot h => exact components_intercalate_cons (by decide) h

theorem components_display (path : String) : components (display path) = components path :=
  components_intercalate (areComponents_components path)

theorem display_display (path : String) : display (display path) = display path :=
  congrArg "/".intercalate (components_display path)

theorem display_eq_iff {a b : String} : display a = display b ↔ components a = components b := by
  constructor
  · intro h
    rw [← components_display a, h, components_display]
  · exact fun h => congrArg "/".intercalate h

/-! ## one separator that says nothing -/

/-- between two slashes side by side there is an empty piece -/
theorem append_doubled (a b : String) : a ++ "//" ++ b = a ++ "/" ++ ("" ++ "/" ++ b) :=
  String.toList_inj.1 (by simp)

theorem append_dot (a b : String) : a ++ "/./" ++ b = a ++ "/" ++ ("." ++ "/" ++ b) :=
  String.toList_inj.1 (by simp)

theorem append_lastDot (a : String) : a ++ "/." = a ++ "/" ++ "." :=
  String.toList_inj.1 (by simp)

/-- what follows a slash counts by its segments only -/
theorem components_append_slash_congr {b c : String}
    (h : (pieces b).filter isProper = (pieces c).filter isProper) (a : String) :
    components (a ++ "/" ++ b) = components (a ++ "/" ++ c) := by
  by_cases ha : a = ""
  · rw [ha, String.empty_append, components_slash_append, components_slash_append, h]
  · rw [components_append_slash ha, components_append_slash ha, h]

theorem filter_pieces_append_slash {p : String} (h : (pieces p).filter isProper = [])
    (b : String) : (pieces (p ++ "/" ++ b)).filter isProper = (pieces b).filter isProper := by
  rw [pieces_append_slash, List.filter_append, h, List.nil_append]

theorem DropsSeparator.components_eq {a b : String} (h : DropsSeparator a b) :
    components a = components b := by
  cases h with
  | doubled a b =>
    rw [append_doubled]
    exact components_append_slash_congr (filter_pieces_append_slash (by decide) b) a
  | dot a b =>
    rw [append_dot]
    exact components_append_slash_congr (filter_pieces_append_slash (by decide) b) a
  | lastDot a =>
    have hdot := components_append_slash_congr (b := ".") (c := "") (by decide) a
    rwa [← append_lastDot, String.append_empty] at hdot
  | last h =>
    have hslash := components_append_slash h ""
    rwa [String.append_empty, pieces_empty, List.filter_cons_of_neg (by decide),
      List.filter_nil, List.append_nil] at hslash

theorem IsRespelling.components_eq {a b : String} (h : IsRespelling a b) :
    components a = components b := by
  induction h with
  | rel a b h => exact h.components_eq
  | refl a => rfl
  | symm a b _ ih => exact ih.symm
  | trans a b c _ _ hab hbc => exact hab.trans hbc

/-! ## all separators that say nothing -/

theorem eq_empty_or_dot {p : String} (hp : isProper p = false) : p = "" ∨ p = "." := by
  simpa [isProper, or_iff_not_imp_left] using hp

/-- a piece that is no segment goes, with the slash in front of it -/
theorem isRespelling_of_not_isProper {a p : String} (ha : a ≠ "") (hp : isProper p = false)
    (ps : List String) :
    IsRespelling ("/".intercalate (a :: p :: ps)) ("/".intercalate (a :: ps)) := by
  have hlast : IsRespelling (a ++ "/") a := .rel _ _ (.last ha)
  cases ps with
  | nil =>
    rw [String.intercalate_cons_cons, String.intercalate_singleton, String.intercalate_singleton]
    rcases eq_empty_or_dot hp with rfl | rfl
    · rwa [String.append_empty]
    · rw [← append_lastDot]
      exact .trans _ _ _ (.rel _ _ (.lastDot a)) hlast
  | cons q ps =>
    rw [String.intercalate_cons_cons, String.intercalate_cons_cons, String.intercalate_cons_cons]
    rcases eq_empty_or_dot hp with rfl | rfl
    · rw [← append_doubled]
      exact .rel _ _ (.doubled a _)
    · rw [← append_dot]
      exact .rel _ _ (.dot a _)

theorem isRespelling_filter {a : String} (ha : a ≠ "") (ps : List String) :
    IsRespelling ("/".intercalate (a :: ps)) ("/".intercalate (a :: ps.filter isProper)) := by
  induction ps generalizing a with
  | nil => exact .refl _
  | cons p ps ih =>
    cases hp : isProper p with
    | true =>
      -- the segment stays, so the rest follows what now ends in it
      have hjoin (qs : List String) :
          "/".intercalate (a :: p :: qs) = "/".intercalate ((a ++ "/" ++ p) :: qs) := by
        rw [String.intercalate_cons_append, String.intercalate_cons_cons]
      rw [List.filter_cons_of_pos hp, hjoin, hjoin]
      exact ih (by simp [ha])
    | false =>
      rw [List.filter_cons_of_neg (by rw [hp]; exact Bool.false_ne_true)]
      exact .trans _ _ _ (isRespelling_of_not_isProper ha hp ps) (ih ha)

section
variable {path p : String} {ps : List String} (hps : pieces path = p :: ps)
  (h : isAbsolute path = false)
include hps h

theorem ne_empty_of_pieces (hne : path ≠ "") : p ≠ "" := by
  have hpath : "/".intercalate (p :: ps) = path := by rw [← hps, intercalate_pieces]
  rintro rfl
  cases ps with
  | nil => exact hne hpath.symm
  | cons q ps =>
    rw [String.intercalate_cons_cons, String.empty_append] at hpath
    rw [← hpath, isAbsolute_append (by decide)] at h
    exact absurd h (by decide)

theorem components_of_pieces (hp : p ≠ "") : components path = p :: ps.filter isProper := by
  unfold components
  rw [h, if_neg Bool.false_ne_true, hps, List.head?_cons]
  by_cases hdot : p = "."
  · rw [hdot, if_pos rfl, List.filter_cons_of_neg (by decide)]
  · have hproper : isProper p = true := by simp [isProper, hp, hdot]
    rw [if_neg fun he => hdot (Option.some.inj he), List.filter_cons_of_pos hproper]

end

theorem exists_of_isAbsolute {path : String} (h : isAbsolute path = true) :
    ∃ below, path = "/" ++ below := by
  obtain ⟨cs, hcs⟩ := List.isPrefixOf_iff_prefix.1 h
  exact ⟨.ofList cs, String.toList_inj.1 (by simp [← hcs])⟩

theorem isRespelling_display (path : String) : IsRespelling path (display path) := by
  cases habs : isAbsolute path with
  | true =>
    -- in the display another slash follows the root, as it follows every component but the last
    obtain ⟨below, rfl⟩ := exists_of_isAbsolute habs
    have hfilter := isRespelling_filter (a := "/") (by decide) (pieces below)
    rw [String.intercalate_cons_of_ne_nil (pieces_ne_nil below), intercalate_pieces,
      ← components_slash_append] at hfilter
    exact .trans _ _ _ (.symm _ _ (.rel _ _ (.doubled "" below))) hfilter
  | false =>
    by_cases hne : path = ""
    · rw [hne]
      exact .refl _
    · obtain ⟨p, ps, hps⟩ := List.exists_cons_of_ne_nil (pieces_ne_nil path)
      have hp := ne_empty_of_pieces hps habs hne
      have hfilter := isRespelling_filter hp ps
      rwa [← hps, intercalate_pieces, ← components_of_pieces hps habs hp] at hfilter

theorem isRespelling_iff {a b : String} : IsRespelling a b ↔ components a = components b := by
  constructor
  · exact IsRespelling.components_eq
  · intro h
    have hb := isRespelling_display b
    rw [← display_eq_iff.2 h] at hb
    exact .trans _ _ _ (isRespelling_display a) (.symm _ _ hb)

theorem components_eq_iff {path : String} {cs : List String} :
    components path = cs ↔ AreComponents cs ∧ IsRespelling path ("/".intercalate cs) := by
  constructor
  · rintro rfl
    exact ⟨areComponents_components path, isRespelling_display path⟩
  · rintro ⟨hcs, h⟩
    rw [h.components_eq, components_intercalate hcs]

end Path

namespace Target
open ProjectAudit.Path

/-- **A displayed path has lost nothing but separators that say nothing.**  It has the components of
the path, a slash or a dot in front included, so it is displayed as it is, and two targets are
displayed alike exactly if their paths have the same components, whatever their roots are.  That is
to say that the paths differ in doubled slashes, dots after a slash and slashes at the end only: the
components are the one list of segments, with a slash or a dot in front or not, that spells the
path. -/
theorem display_canonical (t : Target) :
    components t.display = components t.relative ∧
      { t with relative := t.display }.display = t.display ∧
      (∀ t' : Target, (t.display = t'.display ↔ components t.relative = components t'.relative) ∧
        (t.display = t'.display ↔ IsRespelling t.relative t'.relative)) ∧
      ∀ cs, components t.relative = cs ↔
        AreComponents cs ∧ IsRespelling t.relative ("/".intercalate cs) := by
  refine ⟨components_display t.relative, display_display t.relative, fun t' => ?_,
    fun cs => components_eq_iff⟩
  exact ⟨display_eq_iff, display_eq_iff.trans isRespelling_iff.symm⟩

/-- the root is a component of its own, so a second slash follows it -/
example : (Target.mk "" "/.//usr/./lib/..//").display = "//usr/lib/.." := by decide

end Target

end ProjectAudit
