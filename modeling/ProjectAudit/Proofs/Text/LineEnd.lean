import ProjectAudit.Proofs.Text.Casing
import ProjectAudit.Proofs.Text.Lines
import ProjectAudit.Proofs.Text.Search

/-!
# Line ends

`crlf` puts a carriage return before every line feed of a text.

* `occursIn_crlf`, `occurrences_crlf`: what has no line end in itself is found as often;
* `upper_crlf`, `lower_crlf`: the case mappings keep the line ends;
* `words_crlf`: the words are the same;
* `map_trim_lines_crlf`: the lines are the same once they are trimmed;
* `lines_crlf`: they are the same as they stand, if the text has no carriage return of its own.
-/

namespace ProjectAudit.Text

def crlf (cs : List Char) : List Char := cs.flatMap fun c => if c = '\n' then ['\r', '\n'] else [c]

theorem crlf_newline_cons (cs : List Char) : crlf ('\n' :: cs) = '\r' :: '\n' :: crlf cs := rfl

theorem crlf_cons {c : Char} (h : c ≠ '\n') (cs : List Char) : crlf (c :: cs) = c :: crlf cs := by
  unfold crlf
  rw [List.flatMap_cons, if_neg h, List.singleton_append]

theorem crlf_append (a b : List Char) : crlf (a ++ b) = crlf a ++ crlf b := List.flatMap_append

theorem crlf_eq_self {cs : List Char} (h : '\n' ∉ cs) : crlf cs = cs := by
  induction cs with
  | nil => rfl
  | cons c cs ih =>
    have hc : c ≠ '\n' := fun e => h (e ▸ List.mem_cons_self)
    rw [crlf_cons hc, ih fun hm => h (List.mem_cons_of_mem _ hm)]

/-- without a carriage return and without a line feed -/
def isOneLine (cs : List Char) : Bool := '\n' ∉ cs && '\r' ∉ cs

section
variable {p : List Char}

theorem isOneLine_iff : isOneLine p = true ↔ '\n' ∉ p ∧ '\r' ∉ p := by
  unfold isOneLine
  rw [Bool.and_eq_true, decide_eq_true_eq, decide_eq_true_eq]

theorem isOneLine_cons {c : Char} (h : isOneLine (c :: p) = true) :
    c ≠ '\n' ∧ c ≠ '\r' ∧ isOneLine p = true := by
  obtain ⟨hn, hr⟩ := isOneLine_iff.1 h
  refine ⟨fun e => hn (e ▸ List.mem_cons_self), fun e => hr (e ▸ List.mem_cons_self), ?_⟩
  exact isOneLine_iff.2
    ⟨fun hm => hn (List.mem_cons_of_mem _ hm), fun hm => hr (List.mem_cons_of_mem _ hm)⟩

/-! ## searching -/

theorem prefix_crlf_iff (hp : isOneLine p = true) (cs : List Char) : p <+: crlf cs ↔ p <+: cs := by
  induction p generalizing cs with
  | nil => exact ⟨fun _ => List.nil_prefix, fun _ => List.nil_prefix⟩
  | cons x p ih =>
    obtain ⟨hn, hr, hp'⟩ := isOneLine_cons hp
    cases cs with
    | nil => exact Iff.rfl
    | cons c cs =>
      by_cases hc : c = '\n'
      · rw [hc, crlf_newline_cons, List.cons_prefix_cons, List.cons_prefix_cons]
        exact ⟨fun h => absurd h.1 hr, fun h => absurd h.1 hn⟩
      · rw [crlf_cons hc, List.cons_prefix_cons, List.cons_prefix_cons, ih hp']

/-- what is written for a line feed starts no text that is one line -/
theorem not_prefix_of_isOneLine (hp : isOneLine p = true) (hne : p ≠ []) (cs : List Char) :
    ¬ p <+: '\r' :: cs ∧ ¬ p <+: '\n' :: cs := by
  obtain ⟨x, p, rfl⟩ := List.exists_cons_of_ne_nil hne
  obtain ⟨hn, hr, -⟩ := isOneLine_cons hp
  exact ⟨fun h => hr (List.cons_prefix_cons.1 h).1, fun h => hn (List.cons_prefix_cons.1 h).1⟩

theorem infix_crlf_iff (hp : isOneLine p = true) (cs : List Char) : p <:+: crlf cs ↔ p <:+: cs := by
  by_cases hne : p = []
  · rw [hne]
    exact ⟨fun _ => List.nil_infix, fun _ => List.nil_infix⟩
  induction cs with
  | nil => exact Iff.rfl
  | cons c cs ih =>
    by_cases hc : c = '\n'
    · have hr := (not_prefix_of_isOneLine hp hne ('\n' :: crlf cs)).1
      have hn := fun xs => (not_prefix_of_isOneLine hp hne xs).2
      rw [hc, crlf_newline_cons, List.infix_cons_iff, List.infix_cons_iff, List.infix_cons_iff, ih]
      constructor
      · rintro (h | h | h)
        · exact absurd h hr
        · exact absurd h (hn _)
        · exact .inr h
      · rintro (h | h)
        · exact absurd h (hn _)
        · exact .inr (.inr h)
    · rw [List.infix_cons_iff, ← ih, ← prefix_crlf_iff hp, crlf_cons hc, List.infix_cons_iff]

theorem occursIn_crlf (hp : isOneLine p = true) (cs : List Char) :
    occursIn p (crlf cs) = occursIn p cs := by
  rw [Bool.eq_iff_iff, occursIn_iff, occursIn_iff, infix_crlf_iff hp]

theorem countFrom_crlf (hp : isOneLine p = true) (hne : p ≠ []) (cs : List Char) :
    countFrom p 0 (crlf cs) = countFrom p 0 cs := by
  induction cs using marker_induction hne with
  | nil => rfl
  | found later ih =>
    rw [crlf_append, crlf_eq_self (isOneLine_iff.1 hp).1, countFrom_append hne,
      countFrom_append hne, ih]
  | next c cs hpre ih =>
    by_cases hc : c = '\n'
    · have hr := (not_prefix_of_isOneLine hp hne ('\n' :: crlf cs)).1
      have hl := (not_prefix_of_isOneLine hp hne (crlf cs)).2
      subst hc
      rw [crlf_newline_cons, countFrom_cons hr, countFrom_cons hl, countFrom_cons hpre, ih]
    · have hpre' : ¬ p <+: c :: crlf cs := by
        rwa [← crlf_cons hc, prefix_crlf_iff hp]
      rw [crlf_cons hc, countFrom_cons hpre', countFrom_cons hpre, ih]

theorem occurrences_crlf (hp : isOneLine p = true) (hne : p ≠ []) (cs : List Char) :
    occurrences p (crlf cs) = occurrences p cs := by
  unfold occurrences
  rw [List.isEmpty_eq_false_iff.2 hne, if_neg Bool.false_ne_true, if_neg Bool.false_ne_true,
    countFrom_crlf hp hne cs]

end

/-! ## case -/

theorem upper_crlf (cs : List Char) : upper (crlf cs) = crlf (upper cs) := by
  induction cs with
  | nil => rfl
  | cons c cs ih =>
    by_cases hc : c = '\n'
    · rw [hc, crlf_newline_cons, upper_cons, upper_cons, upper_cons, ih,
        upperCase_of_isBlank (c := '\r') (by decide), upperCase_of_isBlank (c := '\n') (by decide)]
      rfl
    · have hmem : '\n' ∉ upperCase c := fun h =>
        hc (isBlank_of_mem_upperCase h (by decide)).symm
      rw [crlf_cons hc, upper_cons, upper_cons, crlf_append, crlf_eq_self hmem, ih]

theorem isCaseIgnorable_lineEnd : isCaseIgnorable '\r' = false ∧ isCaseIgnorable '\n' = false := by
  decide +kernel

theorem isCased_lineEnd : isCased '\r' = false ∧ isCased '\n' = false := by
  decide +kernel

theorem casedAhead_crlf (cs : List Char) : casedAhead (crlf cs) = casedAhead cs := by
  induction cs with
  | nil => rfl
  | cons c cs ih =>
    by_cases hc : c = '\n'
    · rw [hc, crlf_newline_cons, casedAhead_cons isCaseIgnorable_lineEnd.1,
        casedAhead_cons isCaseIgnorable_lineEnd.2, isCased_lineEnd.1, isCased_lineEnd.2]
    · rw [crlf_cons hc]
      cases hi : isCaseIgnorable c with
      | true => rw [casedAhead_cons_of_ignorable hi, casedAhead_cons_of_ignorable hi, ih]
      | false => rw [casedAhead_cons hi, casedAhead_cons hi]

theorem lowerAt_crlf (casedBefore : Bool) (c : Char) (after : List Char) :
    lowerAt casedBefore c (crlf after) = lowerAt casedBefore c after := by
  unfold lowerAt
  rw [casedAhead_crlf]

theorem newline_not_mem_lowerAt {c : Char} (hc : c ≠ '\n') (casedBefore : Bool)
    (after : List Char) : '\n' ∉ lowerAt casedBefore c after := by
  unfold lowerAt
  split
  · split <;> decide
  · exact fun h => hc (isBlank_of_mem_lowerCase h (by decide)).symm

/-- no line end is case-ignorable, so what is known of the text before is the same behind both -/
theorem casedAfter_lineEnd (casedBefore : Bool) :
    casedAfter casedBefore '\r' = false ∧ casedAfter casedBefore '\n' = false := by
  unfold casedAfter
  rw [isCaseIgnorable_lineEnd.1, isCaseIgnorable_lineEnd.2, isCased_lineEnd.1, isCased_lineEnd.2]
  exact ⟨rfl, rfl⟩

theorem lowerFrom_crlf (casedBefore : Bool) (cs : List Char) :
    lowerFrom casedBefore (crlf cs) = crlf (lowerFrom casedBefore cs) := by
  induction cs generalizing casedBefore with
  | nil => rfl
  | cons c cs ih =>
    by_cases hc : c = '\n'
    · subst hc
      rw [crlf_newline_cons, lowerFrom, lowerFrom, lowerFrom,
        lowerAt_of_isBlank (c := '\r') (by decide), lowerAt_of_isBlank (c := '\n') (by decide),
        lowerAt_of_isBlank (c := '\n') (by decide), (casedAfter_lineEnd _).2,
        (casedAfter_lineEnd _).2, ih]
      rfl
    · rw [crlf_cons hc, lowerFrom, lowerFrom, lowerAt_crlf, ih, crlf_append,
        crlf_eq_self (newline_not_mem_lowerAt hc _ _)]

theorem lower_crlf (cs : List Char) : lower (crlf cs) = crlf (lower cs) := lowerFrom_crlf false cs

/-! ## words -/

/-- a line end is cut at twice, which makes one more empty piece -/
theorem split_isBlank_crlf (cs : List Char) : ∃ piece later later',
    split isBlank cs = piece :: later ∧ split isBlank (crlf cs) = piece :: later' ∧
      later'.filter (!·.isEmpty) = later.filter (!·.isEmpty) := by
  induction cs with
  | nil => exact ⟨[], [], [], rfl, rfl, rfl⟩
  | cons c cs ih =>
    obtain ⟨piece, later, later', hs, hs', hf⟩ := ih
    by_cases hc : c = '\n'
    · subst hc
      refine ⟨[], piece :: later, [] :: piece :: later', ?_, ?_, ?_⟩
      · rw [split_cons_of_sep (by decide), hs]
      · rw [crlf_newline_cons, split_cons_of_sep (by decide), split_cons_of_sep (by decide), hs']
      · show List.filter (!·.isEmpty) (piece :: later') = _
        rw [List.filter_cons, List.filter_cons, hf]
    · rw [crlf_cons hc]
      cases hb : isBlank c with
      | true =>
        refine ⟨[], piece :: later, piece :: later', ?_, ?_, ?_⟩
        · rw [split_cons_of_sep hb, hs]
        · rw [split_cons_of_sep hb, hs']
        · rw [List.filter_cons, List.filter_cons, hf]
      | false => exact ⟨c :: piece, later, later', split_cons hb hs, split_cons hb hs', hf⟩

theorem words_crlf (cs : List Char) : words (crlf cs) = words cs := by
  obtain ⟨piece, later, later', hs, hs', hf⟩ := split_isBlank_crlf cs
  rw [words_of_split hs, words_of_split hs', List.filter_cons, List.filter_cons, hf]

theorem isAllBlank_crlf (cs : List Char) : isAllBlank (crlf cs) = isAllBlank cs := by
  induction cs with
  | nil => rfl
  | cons c cs ih =>
    unfold isAllBlank at ih ⊢
    by_cases hc : c = '\n'
    · rw [hc, crlf_newline_cons, List.all_cons, List.all_cons, List.all_cons, ih]
      rfl
    · rw [crlf_cons hc, List.all_cons, List.all_cons, ih]

/-! ## lines -/

/-- a carriage return behind every piece but the last -/
def withReturns : List (List Char) → List (List Char)
  | [] => []
  | [piece] => [piece]
  | piece :: next :: later => (piece ++ ['\r']) :: withReturns (next :: later)

theorem withReturns_cons {pieces : List (List Char)} (h : pieces ≠ []) (piece : List Char) :
    withReturns (piece :: pieces) = (piece ++ ['\r']) :: withReturns pieces := by
  obtain ⟨next, later, rfl⟩ := List.exists_cons_of_ne_nil h
  rfl

theorem withReturns_ne_nil {pieces : List (List Char)} (h : pieces ≠ []) :
    withReturns pieces ≠ [] := by
  obtain ⟨piece, later, rfl⟩ := List.exists_cons_of_ne_nil h
  cases later <;> exact List.cons_ne_nil _ _

theorem split_cons_of_ne {c : Char} {cs piece : List Char} {later : List (List Char)}
    (hc : c ≠ '\n') (h : split (· = '\n') cs = piece :: later) :
    split (· = '\n') (c :: cs) = (c :: piece) :: later := by
  refine split_cons ?_ h
  exact decide_eq_false hc

theorem split_crlf (cs : List Char) :
    split (· = '\n') (crlf cs) = withReturns (split (· = '\n') cs) := by
  induction cs with
  | nil => rfl
  | cons c cs ih =>
    by_cases hc : c = '\n'
    · subst hc
      rw [crlf_newline_cons, split_cons_of_sep (c := '\n') (by decide) cs,
        withReturns_cons (split_ne_nil cs), ← ih]
      exact split_cons (by decide) (split_cons_of_sep (by decide) _)
    · obtain ⟨piece, later, hs⟩ := exists_split (· = '\n') cs
      rw [crlf_cons hc, split_cons_of_ne hc hs]
      rw [hs] at ih
      cases later with
      | nil => exact split_cons_of_ne hc ih
      | cons next later => exact split_cons_of_ne hc ih

/-- the pieces as lines, none of which loses a carriage return -/
def wholeLines : List (List Char) → List (List Char)
  | [] => []
  | [piece] => if piece.isEmpty then [] else [piece]
  | piece :: next :: later => piece :: wholeLines (next :: later)

theorem endLines_withReturns (pieces : List (List Char)) :
    endLines (withReturns pieces) = wholeLines pieces := by
  induction pieces with
  | nil => rfl
  | cons piece pieces ih =>
    cases pieces with
    | nil => rfl
    | cons next later =>
      have hne := List.cons_ne_nil next later
      rw [withReturns_cons hne, endLines_cons (withReturns_ne_nil hne), dropReturn_append, ih]
      rfl

theorem endLines_eq_wholeLines {pieces : List (List Char)} (h : ∀ piece ∈ pieces, '\r' ∉ piece) :
    endLines pieces = wholeLines pieces := by
  induction pieces with
  | nil => rfl
  | cons piece pieces ih =>
    cases pieces with
    | nil => rfl
    | cons next later =>
      rw [endLines_cons (List.cons_ne_nil _ _), dropReturn_eq_self (h piece List.mem_cons_self),
        ih fun piece hm => h piece (List.mem_cons_of_mem _ hm)]
      rfl

theorem map_trim_endLines (pieces : List (List Char)) :
    (endLines pieces).map trim = (wholeLines pieces).map trim := by
  induction pieces with
  | nil => rfl
  | cons piece pieces ih =>
    cases pieces with
    | nil => rfl
    | cons next later =>
      rw [endLines_cons (List.cons_ne_nil _ _), List.map_cons, trim_dropReturn, ih]
      rfl

theorem lines_crlf_eq_wholeLines (cs : List Char) :
    lines (crlf cs) = wholeLines (split (· = '\n') cs) := by
  unfold lines
  rw [split_crlf, endLines_withReturns]

theorem map_trim_lines_crlf (cs : List Char) :
    (lines (crlf cs)).map trim = (lines cs).map trim := by
  rw [lines_crlf_eq_wholeLines, ← map_trim_endLines]
  rfl

theorem lines_crlf {cs : List Char} (h : '\r' ∉ cs) : lines (crlf cs) = lines cs := by
  rw [lines_crlf_eq_wholeLines]
  exact (endLines_eq_wholeLines fun piece hp hr => h (mem_of_mem_split hp hr)).symm

end ProjectAudit.Text
