import ProjectAudit.Proofs.Text.Blanks
import ProjectAudit.Proofs.Unicode.UpperCase

/-!
# The normal form of a text

The normal form is made of the words in upper case (`normalize_eq`), and these are its own words
(`words_normalize`): upper case keeps the blanks where they are (`split_isBlank_upper`), and words
one space apart are cut at the spaces only (`split_spaced`).  Two texts have the same normal form
exactly if they have the same words in upper case (`normalize_canonical`).
-/

namespace ProjectAudit.Text
variable {cs : List Char} {ws : List (List Char)}

/-! ## upper case -/

theorem upper_upper (cs : List Char) : upper (upper cs) = upper cs := by
  refine upper_eq_self fun x hx => ?_
  obtain ⟨c, -, hx⟩ := List.mem_flatMap.1 hx
  exact upperCase_of_mem_upperCase hx

/-- upper case makes no blank, and keeps those that are there -/
theorem split_isBlank_upper (cs : List Char) :
    split isBlank (upper cs) = (split isBlank cs).map upper := by
  induction cs with
  | nil => rfl
  | cons c cs ih =>
    rw [upper_cons]
    cases hc : isBlank c with
    | true =>
      rw [upperCase_of_isBlank hc, List.singleton_append, split_cons_of_sep hc,
        split_cons_of_sep hc, ih]
      rfl
    | false =>
      obtain ⟨piece, later, hs⟩ := exists_split isBlank cs
      rw [hs] at ih
      have hup : ∀ x ∈ upperCase c, isBlank x = false := by
        intro x hx
        rw [Bool.eq_false_iff]
        intro hb
        rw [isBlank_of_mem_upperCase hx hb, hc] at hb
        cases hb
      rw [split_append_of_no_sep hup ih, split_cons hc hs]
      rfl

theorem words_upper (cs : List Char) : words (upper cs) = (words cs).map upper := by
  have he : ∀ piece, (upper piece).isEmpty = piece.isEmpty := by
    intro piece
    rw [Bool.eq_iff_iff, List.isEmpty_iff, List.isEmpty_iff, upper_eq_nil_iff]
  unfold words
  rw [split_isBlank_upper, List.filter_map]
  simp only [Function.comp_def, he]

/-! ## words one space apart -/

/-- something without a blank -/
def IsWord (cs : List Char) : Prop := cs ≠ [] ∧ ∀ c ∈ cs, isBlank c = false

theorem isWord_of_mem_words {word : List Char} (h : word ∈ words cs) : IsWord word := by
  obtain ⟨hm, hne⟩ := List.mem_filter.1 h
  refine ⟨?_, fun c hc => not_sep_of_mem_split hm hc⟩
  rintro rfl
  cases hne

theorem IsWord.upper {word : List Char} (h : IsWord word) : IsWord (upper word) := by
  refine ⟨fun he => h.1 (upper_eq_nil_iff.1 he), fun x hx => ?_⟩
  obtain ⟨c, hc, hx⟩ := List.mem_flatMap.1 hx
  rw [Bool.eq_false_iff]
  intro hb
  rw [isBlank_of_mem_upperCase hx hb, h.2 c hc] at hb
  cases hb

theorem isWord_of_mem_map_upper {word : List Char} (h : word ∈ (words cs).map upper) :
    IsWord word := by
  obtain ⟨_, hw, rfl⟩ := List.mem_map.1 h
  exact (isWord_of_mem_words hw).upper

theorem spaced_cons {word : List Char} (hne : ws ≠ []) :
    spaced (word :: ws) = word ++ ' ' :: spaced ws := by
  obtain ⟨next, later, rfl⟩ := List.exists_cons_of_ne_nil hne
  rfl

theorem split_spaced (hne : ws ≠ []) (h : ∀ w ∈ ws, IsWord w) :
    split isBlank (spaced ws) = ws := by
  induction ws with
  | nil => exact absurd rfl hne
  | cons word ws ih =>
    have hword := split_of_no_sep (h word List.mem_cons_self).2
    by_cases hws : ws = []
    · rw [hws]
      exact hword
    · rw [spaced_cons hws, split_append_sep (by decide), hword,
        ih hws fun w hw => h w (List.mem_cons_of_mem _ hw), List.singleton_append]

theorem words_spaced (h : ∀ w ∈ ws, IsWord w) : words (spaced ws) = ws := by
  by_cases hne : ws = []
  · rw [hne]
    rfl
  · unfold words
    rw [split_spaced hne h, List.filter_eq_self]
    intro w hw
    rw [List.isEmpty_eq_false_iff.2 (h w hw).1]
    rfl

theorem upper_spaced (ws : List (List Char)) : upper (spaced ws) = spaced (ws.map upper) := by
  induction ws with
  | nil => rfl
  | cons word ws ih =>
    by_cases hws : ws = []
    · rw [hws]
      rfl
    · have hspace : upperCase ' ' = [' '] := upperCase_of_isBlank (by decide)
      have hmap : ws.map upper ≠ [] := by rwa [ne_eq, List.map_eq_nil_iff]
      rw [List.map_cons, spaced_cons hws, spaced_cons hmap, upper_append, upper_cons, hspace, ih,
        List.singleton_append]

theorem eq_space_of_mem_spaced {c : Char} (h : ∀ w ∈ ws, IsWord w) (hc : c ∈ spaced ws)
    (hb : isBlank c = true) : c = ' ' := by
  induction ws with
  | nil => cases hc
  | cons word ws ih =>
    have hword : c ∉ word := by
      intro hm
      rw [(h word List.mem_cons_self).2 c hm] at hb
      cases hb
    by_cases hws : ws = []
    · rw [hws] at hc
      exact absurd hc hword
    · rw [spaced_cons hws, List.mem_append, List.mem_cons] at hc
      rcases hc with hm | rfl | hm
      · exact absurd hm hword
      · rfl
      · exact ih (fun w hw => h w (List.mem_cons_of_mem _ hw)) hm

/-- every blank is a single space between two words -/
def IsSingleSpaced (cs : List Char) : Prop :=
  ∀ before c after, cs = before ++ c :: after → isBlank c = true →
    c = ' ' ∧ (∃ x start, before = start ++ [x] ∧ isBlank x = false) ∧
      ∃ y rest, after = y :: rest ∧ isBlank y = false

/-- what is beside a blank is a blank or nothing only if there is an empty piece -/
theorem not_isBlank_of_split {before after : List Char} {c : Char} (hc : isBlank c = true)
    (h : [] ∉ split isBlank (before ++ c :: after)) :
    (∃ x start, before = start ++ [x] ∧ isBlank x = false) ∧
      ∃ y rest, after = y :: rest ∧ isBlank y = false := by
  rw [split_append_sep hc, List.mem_append, not_or] at h
  obtain ⟨hbefore, hafter⟩ := h
  constructor
  · rcases List.eq_nil_or_concat before with rfl | ⟨start, x, rfl⟩
    · exact absurd List.mem_cons_self hbefore
    · refine ⟨x, start, List.concat_eq_append, ?_⟩
      rw [Bool.eq_false_iff]
      intro hx
      rw [List.concat_eq_append, split_append_sep hx, split_nil] at hbefore
      exact hbefore (List.mem_append_right _ List.mem_cons_self)
  · cases after with
    | nil => exact absurd List.mem_cons_self hafter
    | cons y rest =>
      refine ⟨y, rest, rfl, ?_⟩
      rw [Bool.eq_false_iff]
      intro hy
      rw [split_cons_of_sep hy] at hafter
      exact hafter List.mem_cons_self

theorem isSingleSpaced_spaced (h : ∀ w ∈ ws, IsWord w) : IsSingleSpaced (spaced ws) := by
  intro before c after hcs hc
  have hne : ws ≠ [] := by
    rintro rfl
    exact List.append_ne_nil_of_right_ne_nil _ (List.cons_ne_nil _ _) hcs.symm
  have hmem : c ∈ spaced ws := hcs ▸ List.mem_append_right _ List.mem_cons_self
  refine ⟨eq_space_of_mem_spaced h hmem hc, not_isBlank_of_split hc ?_⟩
  rw [← hcs, split_spaced hne h]
  exact fun hm => (h [] hm).1 rfl

/-! ## the normal form -/

theorem normalize_eq (cs : List Char) : normalize cs = spaced ((words cs).map upper) :=
  upper_spaced (words cs)

theorem words_normalize (cs : List Char) : words (normalize cs) = (words cs).map upper := by
  rw [normalize_eq]
  exact words_spaced fun _ hw => isWord_of_mem_map_upper hw

theorem normalize_eq_iff {ds : List Char} :
    normalize cs = normalize ds ↔ (words cs).map upper = (words ds).map upper := by
  constructor
  · intro h
    rw [← words_normalize, h, words_normalize]
  · intro h
    rw [normalize_eq, h, normalize_eq]

theorem map_upper_map_upper (ws : List (List Char)) : (ws.map upper).map upper = ws.map upper := by
  rw [List.map_map]
  exact List.map_congr_left fun w _ => upper_upper w

/-- **The normal form stands for all texts with the same words in upper case.**  Its words are
those of the text in upper case and in their order, with a single space between two of them and no
other blank.  So it is its own normal form, and it is that of the text in upper case. -/
theorem normalize_canonical (cs ds : List Char) :
    words (normalize cs) = (words cs).map upper ∧ IsSingleSpaced (normalize cs) ∧
      (normalize cs = normalize ds ↔ (words cs).map upper = (words ds).map upper) ∧
      normalize (normalize cs) = normalize cs ∧ normalize (upper cs) = normalize cs := by
  refine ⟨words_normalize cs, ?_, normalize_eq_iff, ?_, ?_⟩
  · rw [normalize_eq]
    exact isSingleSpaced_spaced fun _ hw => isWord_of_mem_map_upper hw
  · rw [normalize_eq_iff, words_normalize, map_upper_map_upper]
  · rw [normalize_eq_iff, words_upper, map_upper_map_upper]

/-- the letter ß grows to two, and the line ends and tabs go -/
example : normalize "  ß\tstraße\r\n".toList = "SS STRASSE".toList := by
  decide +kernel

end ProjectAudit.Text
