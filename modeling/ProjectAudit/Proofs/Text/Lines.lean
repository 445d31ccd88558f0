import ProjectAudit.Proofs.Text.Words
import ProjectAudit.Text.Lines

/-!
# Lines one at a time

Whether a text has a title or prose below one depends on its trimmed lines only
(`headingWithin_congr`, `hasProse_congr`), and a line feed between two texts keeps their lines apart
(`lines_append`, `lines_append_of_ended`).
-/

namespace ProjectAudit.Text

theorem endLines_cons {pieces : List (List Char)} (h : pieces ≠ []) (piece : List Char) :
    endLines (piece :: pieces) = dropReturn piece :: endLines pieces := by
  obtain ⟨next, later, rfl⟩ := List.exists_cons_of_ne_nil h
  rfl

theorem endLines_append {pieces : List (List Char)} (h : pieces ≠ [])
    (before : List (List Char)) :
    endLines (before ++ pieces) = before.map dropReturn ++ endLines pieces := by
  induction before with
  | nil => rfl
  | cons piece before ih =>
    rw [List.cons_append, endLines_cons (List.append_ne_nil_of_right_ne_nil _ h), ih]
    rfl

/-- the last piece before the line feed is ended by it, like all the others -/
theorem lines_append (a b : List Char) :
    lines (a ++ '\n' :: b) = (split (· = '\n') a).map dropReturn ++ lines b := by
  unfold lines
  rw [split_append_sep (by rfl) a b, endLines_append (split_ne_nil b)]

/-- a text that ends with its last line keeps its lines apart from those of the next -/
theorem lines_append_of_ended {before : List Char}
    (h : before = [] ∨ before.getLast? = some '\n') (cs : List Char) :
    lines (before ++ cs) = lines before ++ lines cs := by
  rcases h with rfl | h
  · rfl
  · obtain ⟨a, rfl⟩ := List.getLast?_eq_some_iff.1 h
    have hlines : lines (a ++ ['\n']) = (split (· = '\n') a).map dropReturn :=
      (lines_append a []).trans (List.append_nil _)
    rw [hlines, List.append_assoc, List.singleton_append, lines_append]

theorem dropReturn_append (cs : List Char) : dropReturn (cs ++ ['\r']) = cs := by
  unfold dropReturn
  rw [List.getLast?_concat, if_pos rfl, List.dropLast_concat]

theorem dropReturn_eq_self {cs : List Char} (h : '\r' ∉ cs) : dropReturn cs = cs :=
  if_neg fun he => h (List.mem_of_getLast? he)

theorem trim_dropReturn (cs : List Char) : trim (dropReturn cs) = trim cs := by
  by_cases h : cs.getLast? = some '\r'
  · obtain ⟨before, rfl⟩ := List.getLast?_eq_some_iff.1 h
    rw [dropReturn_append, trim_append_of_isBlank (by decide)]
  · rw [dropReturn, if_neg h]

theorem dropReturn_isPrefix (cs : List Char) : dropReturn cs <+: cs := by
  unfold dropReturn
  split
  · exact List.dropLast_prefix cs
  · exact List.prefix_rfl

/-- a line is a piece, perhaps without its last character -/
theorem exists_piece_of_mem_endLines {pieces : List (List Char)} {line : List Char}
    (h : line ∈ endLines pieces) : ∃ piece ∈ pieces, line <+: piece := by
  induction pieces with
  | nil => cases h
  | cons piece pieces ih =>
    by_cases hp : pieces = []
    · subst hp
      rw [endLines] at h
      split at h
      · cases h
      · exact ⟨piece, List.mem_cons_self, List.mem_singleton.1 h ▸ List.prefix_rfl⟩
    · rw [endLines_cons hp, List.mem_cons] at h
      rcases h with rfl | h
      · exact ⟨piece, List.mem_cons_self, dropReturn_isPrefix piece⟩
      · obtain ⟨other, ho, hl⟩ := ih h
        exact ⟨other, List.mem_cons_of_mem _ ho, hl⟩

theorem mem_of_mem_lines {cs line : List Char} {c : Char} (h : line ∈ lines cs) (hc : c ∈ line) :
    c ∈ cs := by
  obtain ⟨piece, hp, hl⟩ := exists_piece_of_mem_endLines h
  exact mem_of_mem_split hp (hl.subset hc)

theorem newline_not_mem_of_mem_lines {cs line : List Char} (h : line ∈ lines cs) :
    '\n' ∉ line := by
  obtain ⟨piece, hp, hl⟩ := exists_piece_of_mem_endLines h
  intro hn
  have hsep := not_sep_of_mem_split hp (hl.subset hn)
  exact of_decide_eq_false hsep rfl

/-! ## titles and prose -/

theorem headingWithin_congr {cs ds : List Char} (h : (lines cs).map trim = (lines ds).map trim)
    (window : Nat) : headingWithin window cs = headingWithin window ds := by
  have key : ∀ xs : List Char,
      headingWithin window xs = (((lines xs).map trim).take window).any isTitle := by
    intro xs
    rw [← List.map_take, List.any_map]
    rfl
  rw [key, key, h]

theorem hasProse_congr {length : Nat} {titled : Bool} {ls ks : List (List Char)}
    (h : ls.map trim = ks.map trim) : hasProse length titled ls = hasProse length titled ks := by
  induction ls generalizing titled ks with
  | nil =>
    rw [List.map_nil] at h
    rw [List.map_eq_nil_iff.1 h.symm]
  | cons l ls ih =>
    cases ks with
    | nil => cases h
    | cons k ks =>
      obtain ⟨hl, hls⟩ := List.cons.inj h
      show (if isTitle (trim l) then hasProse length true ls
        else (titled && length < byteLength (trim l) && !isHeading (trim l)) ||
          hasProse length titled ls) = _
      rw [hl, ih hls, ih hls]
      rfl

end ProjectAudit.Text
