import Mathlib.Data.List.TakeWhile
import ProjectAudit.Proofs.Text.Split
import ProjectAudit.Text.Casing

/-!
# Words and trimming of longer texts

* `trim_append_of_isBlank`: a blank behind a text is trimmed away;
* `isPrefix_trim_append`: a longer text is trimmed to a longer one;
* `isInfix_spaced_words`: the words of a text, one space apart, stand in any text around it.

Characters around a text may join its first and its last word, so the last of these goes by the
text behind a character that is no blank (`glued`).
-/

namespace ProjectAudit.Text

/-! ## trimming -/

theorem trim_eq_nil {cs : List Char} (h : ∀ c ∈ cs, isBlank c = true) : trim cs = [] := by
  have he : cs.dropWhile isBlank = [] := List.dropWhile_eq_nil_iff.2 h
  show (List.dropWhile isBlank (cs.dropWhile isBlank).reverse).reverse = []
  rw [he]
  rfl

/-- trimming keeps to the end of a text that is not blank -/
theorem trimStart_append {cs : List Char} (h : ¬ ∀ c ∈ cs, isBlank c = true) (later : List Char) :
    trimStart (cs ++ later) = trimStart cs ++ later := by
  have hne : (cs.dropWhile isBlank).isEmpty = false := by
    rw [List.isEmpty_eq_false_iff]
    exact fun he => h (List.dropWhile_eq_nil_iff.1 he)
  unfold trimStart
  rw [List.dropWhile_append, hne]
  rfl

theorem trimEnd_append_of_isBlank {c : Char} (h : isBlank c = true) (cs : List Char) :
    trimEnd (cs ++ [c]) = trimEnd cs := by
  unfold trimEnd
  rw [List.reverse_append, List.reverse_singleton, List.singleton_append,
    List.dropWhile_cons_of_pos h]

theorem trim_append_of_isBlank {c : Char} (h : isBlank c = true) (cs : List Char) :
    trim (cs ++ [c]) = trim cs := by
  by_cases hb : ∀ d ∈ cs, isBlank d = true
  · have hbc : ∀ d ∈ cs ++ [c], isBlank d = true := by
      intro d hd
      rcases List.mem_append.1 hd with hd | hd
      · exact hb d hd
      · rwa [List.mem_singleton.1 hd]
    rw [trim_eq_nil hb, trim_eq_nil hbc]
  · unfold trim
    rw [trimStart_append hb, trimEnd_append_of_isBlank h]

theorem isPrefix_trimEnd (cs : List Char) : trimEnd cs <+: cs := by
  have h := List.dropWhile_suffix isBlank (l := cs.reverse)
  rwa [← List.reverse_prefix, List.reverse_reverse] at h

theorem isPrefix_trimEnd_append (cs later : List Char) :
    trimEnd cs <+: trimEnd (cs ++ later) := by
  unfold trimEnd
  rw [List.reverse_append, List.dropWhile_append]
  split
  · exact List.prefix_rfl
  · rw [List.reverse_append, List.reverse_reverse]
    exact (isPrefix_trimEnd cs).trans (List.prefix_append _ _)

theorem isPrefix_trim_append (cs later : List Char) : trim cs <+: trim (cs ++ later) := by
  by_cases hb : ∀ d ∈ cs, isBlank d = true
  · rw [trim_eq_nil hb]
    exact List.nil_prefix
  · unfold trim
    rw [trimStart_append hb]
    exact isPrefix_trimEnd_append _ _

/-! ## words -/

section
variable {c d : Char} {cs : List Char}

theorem words_of_split {piece : List Char} {later : List (List Char)}
    (h : split isBlank cs = piece :: later) :
    words cs = (piece :: later).filter fun piece => !piece.isEmpty := by
  unfold words
  rw [h]

theorem words_cons_of_isBlank (h : isBlank c = true) : words (c :: cs) = words cs := by
  unfold words
  rw [split_cons_of_sep h]
  rfl

/-- a character that is no blank starts a word -/
theorem exists_words (h : isBlank c = false) : ∃ word later, words (c :: cs) = word :: later := by
  obtain ⟨piece, later, hs⟩ := exists_split isBlank cs
  exact ⟨_, _, words_of_split (split_cons h hs)⟩

theorem words_cons_cons_of_isBlank (hc : isBlank c = false) (hd : isBlank d = true) :
    words (c :: d :: cs) = [c] :: words cs :=
  words_of_split (split_cons hc (split_cons_of_sep hd cs))

theorem words_cons_cons {word : List Char} {later : List (List Char)} (hc : isBlank c = false)
    (hd : isBlank d = false) (h : words (d :: cs) = word :: later) :
    words (c :: d :: cs) = (c :: word) :: later := by
  obtain ⟨piece, pieces, hs⟩ := exists_split isBlank cs
  rw [words_of_split (split_cons hd hs)] at h
  rw [words_of_split (split_cons hc (split_cons hd hs))]
  obtain ⟨rfl, rfl⟩ := List.cons.inj h
  rfl

end

/-! ## words one space apart -/

theorem spaced_cons_cons (c : Char) (word : List Char) (later : List (List Char)) :
    spaced ((c :: word) :: later) = c :: spaced (word :: later) := by
  cases later <;> rfl

/-- the words behind a character that is no blank, which joins the first unless a blank does
not let it -/
def glued : List Char → List Char
  | [] => []
  | c :: cs =>
    if isBlank c then if words cs = [] then [] else ' ' :: spaced (words cs) else c :: glued cs

theorem glued_cons_of_isBlank {c : Char} (h : isBlank c = true) (cs : List Char) :
    glued (c :: cs) = if words cs = [] then [] else ' ' :: spaced (words cs) := by
  rw [glued, if_pos h]

theorem glued_cons {c : Char} (h : isBlank c = false) (cs : List Char) :
    glued (c :: cs) = c :: glued cs := by
  rw [glued, h, if_neg Bool.false_ne_true]

theorem spaced_words_cons {c : Char} (hc : isBlank c = false) (cs : List Char) :
    spaced (words (c :: cs)) = c :: glued cs := by
  induction cs generalizing c with
  | nil => rw [words_of_split (split_cons hc split_nil)]; rfl
  | cons d cs ih =>
    cases hd : isBlank d with
    | true =>
      rw [words_cons_cons_of_isBlank hc hd, glued_cons_of_isBlank hd]
      cases words cs with
      | nil => rfl
      | cons word later => rfl
    | false =>
      obtain ⟨word, later, hw⟩ : ∃ word later, words (d :: cs) = word :: later :=
        exists_words hd
      have hi := ih hd
      rw [hw] at hi
      rw [words_cons_cons hc hd hw, spaced_cons_cons, hi, glued_cons hd]

theorem isSuffix_glued (cs : List Char) : spaced (words cs) <:+ glued cs := by
  cases cs with
  | nil => exact List.nil_suffix
  | cons c cs =>
    cases hc : isBlank c with
    | true =>
      rw [words_cons_of_isBlank hc, glued_cons_of_isBlank hc]
      by_cases hw : words cs = []
      · rw [if_pos hw, hw]
        exact List.nil_suffix
      · rw [if_neg hw]
        exact List.suffix_cons _ _
    | false =>
      have he : spaced (words (c :: cs)) = glued (c :: cs) := by
        rw [spaced_words_cons hc, glued_cons hc]
      exact he ▸ List.suffix_rfl

theorem isSuffix_spaced_words (before cs : List Char) :
    spaced (words cs) <:+ spaced (words (before ++ cs)) := by
  induction before with
  | nil => exact List.suffix_rfl
  | cons c before ih =>
    rw [List.cons_append]
    cases hc : isBlank c with
    | true => rwa [words_cons_of_isBlank hc]
    | false =>
      rw [spaced_words_cons hc]
      exact ih.trans ((isSuffix_glued _).trans (List.suffix_cons _ _))

theorem words_append_ne_nil {cs : List Char} (h : words cs ≠ []) (later : List Char) :
    words (cs ++ later) ≠ [] := by
  induction cs with
  | nil => exact absurd rfl h
  | cons c cs ih =>
    rw [List.cons_append]
    cases hc : isBlank c with
    | true =>
      rw [words_cons_of_isBlank hc] at h ⊢
      exact ih h
    | false =>
      obtain ⟨word, below, hw⟩ : ∃ word below, words (c :: (cs ++ later)) = word :: below :=
        exists_words hc
      rw [hw]
      exact List.cons_ne_nil _ _

theorem isPrefix_spaced_words_and_glued (cs later : List Char) :
    spaced (words cs) <+: spaced (words (cs ++ later)) ∧ glued cs <+: glued (cs ++ later) := by
  induction cs with
  | nil => exact ⟨List.nil_prefix, List.nil_prefix⟩
  | cons c cs ih =>
    obtain ⟨hs, hg⟩ := ih
    rw [List.cons_append]
    cases hc : isBlank c with
    | true =>
      refine ⟨?_, ?_⟩
      · rwa [words_cons_of_isBlank hc, words_cons_of_isBlank hc]
      · rw [glued_cons_of_isBlank hc, glued_cons_of_isBlank hc]
        by_cases hw : words cs = []
        · rw [if_pos hw]
          exact List.nil_prefix
        · rw [if_neg hw, if_neg (words_append_ne_nil hw later)]
          exact List.cons_prefix_cons.2 ⟨rfl, hs⟩
    | false =>
      have hcons := List.cons_prefix_cons.2 ⟨(rfl : c = c), hg⟩
      refine ⟨?_, ?_⟩
      · rwa [spaced_words_cons hc, spaced_words_cons hc]
      · rwa [glued_cons hc, glued_cons hc]

theorem isInfix_spaced_words (before cs later : List Char) :
    spaced (words cs) <:+: spaced (words (before ++ cs ++ later)) := by
  have hp := (isPrefix_spaced_words_and_glued cs later).1
  have hs := isSuffix_spaced_words before (cs ++ later)
  rw [List.append_assoc]
  exact hp.isInfix.trans hs.isInfix

end ProjectAudit.Text
