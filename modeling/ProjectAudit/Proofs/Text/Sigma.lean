import ProjectAudit.Proofs.Text.Casing

/-!
# The sigmas of a piece of a text

Which of the two small sigmas a capital one becomes depends on the text on both sides of it.  In a
piece of a text it is settled if the piece holds as much of these sides as it takes (`isSettled`).
So the lower case of a piece stands in the lower case of every text around the piece exactly if all
its capital sigmas are settled (`infix_lower_iff`).
-/

namespace ProjectAudit.Text

/-! ## a piece between two texts -/

/-- what is known after a piece, by what is known before it -/
def casedFrom (casedBefore : Bool) (cs : List Char) : Bool := cs.foldl casedAfter casedBefore

/-- the lower case of a piece that another text comes after -/
def lowerBetween : Bool → List Char → List Char → List Char
  | _, [], _ => []
  | casedBefore, c :: cs, after =>
    lowerAt casedBefore c (cs ++ after) ++ lowerBetween (casedAfter casedBefore c) cs after

theorem casedFrom_cons (casedBefore : Bool) (c : Char) (cs : List Char) :
    casedFrom casedBefore (c :: cs) = casedFrom (casedAfter casedBefore c) cs := by
  rw [casedFrom, List.foldl_cons, ← casedFrom]

theorem casedFrom_append (casedBefore : Bool) (a b : List Char) :
    casedFrom casedBefore (a ++ b) = casedFrom (casedFrom casedBefore a) b := List.foldl_append

theorem casedFrom_concat (casedBefore : Bool) (cs : List Char) (c : Char) :
    casedFrom casedBefore (cs ++ [c]) = casedAfter (casedFrom casedBefore cs) c := by
  rw [casedFrom_append, casedFrom_cons, casedFrom, List.foldl_nil]

theorem lowerFrom_append (casedBefore : Bool) (a b : List Char) :
    lowerFrom casedBefore (a ++ b) =
      lowerBetween casedBefore a b ++ lowerFrom (casedFrom casedBefore a) b := by
  induction a generalizing casedBefore with
  | nil => rfl
  | cons c a ih =>
    rw [List.cons_append, lowerFrom, ih, lowerBetween, casedFrom_cons, List.append_assoc]

theorem lowerBetween_append (casedBefore : Bool) (a b after : List Char) :
    lowerBetween casedBefore (a ++ b) after =
      lowerBetween casedBefore a (b ++ after) ++
        lowerBetween (casedFrom casedBefore a) b after := by
  induction a generalizing casedBefore with
  | nil => rfl
  | cons c a ih =>
    rw [List.cons_append, lowerBetween, ih, lowerBetween, casedFrom_cons, List.append_assoc,
      List.append_assoc]

theorem lowerBetween_nil (casedBefore : Bool) (cs : List Char) :
    lowerBetween casedBefore cs [] = lowerFrom casedBefore cs := by
  have h := lowerFrom_append casedBefore cs []
  rw [List.append_nil] at h
  rw [h]
  exact (List.append_nil _).symm

theorem map_foldSigma_lowerBetween (casedBefore : Bool) (cs after : List Char) :
    (lowerBetween casedBefore cs after).map foldSigma = cs.flatMap foldedLower := by
  induction cs generalizing casedBefore with
  | nil => rfl
  | cons c cs ih =>
    rw [lowerBetween, List.map_append, map_foldSigma_lowerAt, ih, List.flatMap_cons]

/-- only the sigmas of a piece depend on what stands around it -/
theorem map_foldSigma_lowerBetween_eq (casedBefore : Bool) (cs after : List Char) :
    (lowerBetween casedBefore cs after).map foldSigma = (lower cs).map foldSigma := by
  rw [map_foldSigma_lowerBetween, lower, map_foldSigma_lowerFrom]

/-! ## what a piece tells of its sides -/

/-- tells nothing about whether a cased character comes first -/
def isOpen (cs : List Char) : Bool := cs.all isCaseIgnorable

/-- a capital sigma between these texts becomes a final one -/
def isFinalBetween (before after : List Char) : Bool :=
  casedFrom false before && !casedAhead after

/-- a sigma that a cased character comes after is never final; nor is one that none comes before;
and one that has its sides in the piece stays what it is -/
def isSettled (before after : List Char) : Bool :=
  casedAhead after || (!isOpen before && (!casedFrom false before || !isOpen after))

theorem isOpen_cons {c : Char} {cs : List Char} :
    isOpen (c :: cs) = true ↔ isCaseIgnorable c = true ∧ isOpen cs = true := by
  rw [isOpen, List.all_cons, Bool.and_eq_true, ← isOpen]

theorem casedFrom_of_isOpen {cs : List Char} (h : isOpen cs = true) (casedBefore : Bool) :
    casedFrom casedBefore cs = casedBefore := by
  induction cs generalizing casedBefore with
  | nil => rfl
  | cons c cs ih =>
    obtain ⟨hc, hcs⟩ := isOpen_cons.1 h
    rw [casedFrom_cons, ih hcs, casedAfter, if_pos hc]

theorem casedFrom_of_not_isOpen {cs : List Char} (h : isOpen cs = false) (a b : Bool) :
    casedFrom a cs = casedFrom b cs := by
  induction cs generalizing a b with
  | nil => cases h
  | cons c cs ih =>
    rw [casedFrom_cons, casedFrom_cons]
    cases hc : isCaseIgnorable c with
    | false => simp only [casedAfter, hc, Bool.false_eq_true, if_false]
    | true =>
      have hcs : isOpen cs = false := by
        rw [Bool.eq_false_iff] at h ⊢
        exact fun ho => h (isOpen_cons.2 ⟨hc, ho⟩)
      exact ih hcs _ _

theorem casedAhead_append (a b : List Char) :
    casedAhead (a ++ b) = if isOpen a then casedAhead b else casedAhead a := by
  induction a with
  | nil => rfl
  | cons c a ih =>
    rw [List.cons_append, isOpen, List.all_cons]
    cases hc : isCaseIgnorable c with
    | false =>
      rw [casedAhead_cons hc, casedAhead_cons hc]
      rfl
    | true =>
      rw [casedAhead_cons_of_ignorable hc, casedAhead_cons_of_ignorable hc, ih]
      rfl

/-- a settled sigma is final in every text around the piece, or in none -/
theorem isFinalBetween_of_isSettled {before after : List Char} (h : isSettled before after = true)
    (x y : List Char) :
    isFinalBetween (x ++ before) (after ++ y) = isFinalBetween before after := by
  unfold isFinalBetween
  rw [casedFrom_append, casedAhead_append]
  unfold isSettled at h
  cases hb : isOpen before with
  | true =>
    rw [hb] at h
    have ha : casedAhead after = true := by simpa using h
    have hc : isOpen after = false := by
      rw [Bool.eq_false_iff]
      intro ho
      have he := casedAhead_append after []
      rw [List.append_nil, if_pos ho, ha] at he
      cases he
    simp [ha, hc]
  | false =>
    rw [casedFrom_of_not_isOpen hb (casedFrom false x) false]
    rw [hb] at h
    cases hc : isOpen after with
    | false => rfl
    | true =>
      have he := casedAhead_append after []
      rw [List.append_nil, if_pos hc] at he
      rw [hc, he] at h
      have hf : casedFrom false before = false := by simpa [casedAhead] using h
      rw [hf]
      rfl

/-- a text that ends and begins with a cased character, or the empty one -/
def cased (b : Bool) : List Char := if b then ['a'] else []

theorem casedFrom_cased (b : Bool) : casedFrom false (cased b) = b := by
  cases b <;> decide +kernel

theorem casedAhead_cased (b : Bool) : casedAhead (cased b) = b := by
  cases b <;> decide +kernel

/-- a sigma that is not settled can be made final or not by what stands around the piece -/
theorem isSettled_of_forall {before after : List Char}
    (h : ∀ b d, isFinalBetween (cased b ++ before) (after ++ cased d) =
      isFinalBetween before after) : isSettled before after = true := by
  have key : ∀ b d, (casedFrom b before && !(if isOpen after then d else casedAhead after)) =
      (casedFrom false before && !casedAhead after) := by
    intro b d
    have hbd := h b d
    unfold isFinalBetween at hbd
    rwa [casedFrom_append, casedFrom_cased, casedAhead_append, casedAhead_cased] at hbd
  unfold isSettled
  cases hb : isOpen before with
  | true =>
    have h1 := key true (casedAhead after)
    rw [casedFrom_of_isOpen hb, casedFrom_of_isOpen hb] at h1
    cases ha : casedAhead after with
    | true => rfl
    | false => simp [ha] at h1
  | false =>
    cases hc : isOpen after with
    | false => simp
    | true =>
      have h1 := key false true
      rw [hc, if_pos rfl] at h1
      cases ha : casedAhead after with
      | true => rfl
      | false => simpa [ha] using h1.symm

/-! ## the lower case of a piece in that of a text -/

theorem lowerAt_capitalSigma (casedBefore : Bool) (after : List Char) :
    lowerAt casedBefore capitalSigma after =
      if casedBefore && !casedAhead after then [finalSigma] else [smallSigma] := if_pos rfl

theorem lowerBetween_of_isSettled {p : List Char}
    (h : ∀ before after, p = before ++ capitalSigma :: after → isSettled before after = true)
    (x y : List Char) : lowerBetween (casedFrom false x) p y = lower p := by
  -- the characters of the piece are read one by one; `done` are those before the next one
  have key : ∀ done rest, p = done ++ rest →
      lowerBetween (casedFrom false (x ++ done)) rest y =
        lowerFrom (casedFrom false done) rest := by
    intro done rest
    induction rest generalizing done with
    | nil => exact fun _ => rfl
    | cons c rest ih =>
      intro hp
      have hc : lowerAt (casedFrom false (x ++ done)) c (rest ++ y) =
          lowerAt (casedFrom false done) c rest := by
        by_cases hs : c = capitalSigma
        · subst hs
          have hf := isFinalBetween_of_isSettled (h done rest hp) x y
          unfold isFinalBetween at hf
          rw [lowerAt_capitalSigma, lowerAt_capitalSigma, hf]
        · rw [lowerAt, lowerAt, if_neg hs, if_neg hs]
      have hnext := ih (done ++ [c]) (by rw [hp, List.append_assoc, List.singleton_append])
      rw [← List.append_assoc, casedFrom_concat, casedFrom_concat] at hnext
      rw [lowerBetween, lowerFrom, hc, hnext]
  have hp := key [] p rfl
  rwa [List.append_nil] at hp

theorem lower_append_append (x p y : List Char) : lower (x ++ p ++ y) =
    lowerBetween false x (p ++ y) ++ lowerBetween (casedFrom false x) p y ++
      lowerFrom (casedFrom (casedFrom false x) p) y := by
  rw [lower, List.append_assoc, lowerFrom_append, lowerFrom_append, List.append_assoc]

/-- one of the two small sigmas -/
def isSmallSigma (c : Char) : Bool := foldSigma c = smallSigma

theorem foldSigma_of_not_isSmallSigma {c : Char} (h : isSmallSigma c = false) :
    foldSigma c = c := by
  unfold isSmallSigma foldSigma at *
  split at h
  · cases h
  · rename_i hc
    exact if_neg hc

/-- texts that differ in their sigmas alone are equal if these are -/
theorem eq_of_map_foldSigma {p q : List Char} (hm : p.map foldSigma = q.map foldSigma)
    (hs : p.filter isSmallSigma = q.filter isSmallSigma) : p = q := by
  induction p generalizing q with
  | nil => exact (List.map_eq_nil_iff.1 hm.symm).symm
  | cons c p ih =>
    cases q with
    | nil => cases hm
    | cons d q =>
      obtain ⟨hcd, hpq⟩ := List.cons.inj hm
      have hsame : isSmallSigma c = isSmallSigma d := by
        unfold isSmallSigma
        rw [hcd]
      rw [List.filter_cons, List.filter_cons, ← hsame] at hs
      cases hc : isSmallSigma c with
      | true =>
        rw [hc, if_pos rfl, if_pos rfl] at hs
        obtain ⟨hcd', hs⟩ := List.cons.inj hs
        rw [hcd', ih hpq hs]
      | false =>
        rw [hc, if_neg Bool.false_ne_true, if_neg Bool.false_ne_true] at hs
        rw [foldSigma_of_not_isSmallSigma hc,
          foldSigma_of_not_isSmallSigma (hsame.symm.trans hc)] at hcd
        rw [hcd, ih hpq hs]

/-- if all sigmas of a text are in one place, this is where a piece with as many of them stands -/
theorem eq_of_infix_of_map_foldSigma {p q a b : List Char} (ha : isSigmaFree a = true)
    (hb : isSigmaFree b = true) (hm : p.map foldSigma = q.map foldSigma)
    (h : p <:+: a ++ q ++ b) : p = q := by
  have hnone : ∀ cs, isSigmaFree cs = true → cs.filter isSmallSigma = [] := by
    intro cs hcs
    obtain ⟨hs, hf⟩ := isSigmaFree_iff.1 hcs
    refine List.filter_eq_nil_iff.2 fun c hc he => ?_
    unfold isSmallSigma foldSigma at he
    split at he
    · rename_i hfin
      exact hf (hfin ▸ hc)
    · exact hs (of_decide_eq_true he ▸ hc)
  have hlength : (p.filter isSmallSigma).length = (q.filter isSmallSigma).length := by
    have hcount : ∀ cs : List Char, (cs.filter isSmallSigma).length =
        ((cs.map foldSigma).filter (· = smallSigma)).length := by
      intro cs
      rw [List.filter_map, List.length_map]
      rfl
    rw [hcount, hcount, hm]
  have hin := h.filter isSmallSigma
  rw [List.filter_append, List.filter_append, hnone a ha, hnone b hb, List.nil_append,
    List.append_nil] at hin
  exact eq_of_map_foldSigma hm (hin.eq_of_length hlength)

theorem lowerBetween_cased (casedBefore b : Bool) (after : List Char) :
    lowerBetween casedBefore (cased b) after = cased b := by
  have ha : ∀ rest, lowerAt casedBefore 'a' rest = ['a'] := by
    intro rest
    rw [lowerAt, if_neg (by decide)]
    rfl
  cases b with
  | false => rfl
  | true => rw [cased, if_pos rfl, lowerBetween, lowerBetween, ha, List.append_nil]

theorem lowerFrom_cased (casedBefore b : Bool) : lowerFrom casedBefore (cased b) = cased b := by
  rw [← lowerBetween_nil, lowerBetween_cased]

theorem isSigmaFree_cased (b : Bool) : isSigmaFree (cased b) = true := by
  cases b <;> decide

/-- if a piece keeps its lower case where a sigma stands, the sigma is as final as it was -/
theorem isFinalBetween_of_lowerBetween {before after x y : List Char}
    (h : lowerBetween (casedFrom false x) (before ++ capitalSigma :: after) y =
      lower (before ++ capitalSigma :: after)) :
    isFinalBetween (x ++ before) (after ++ y) = isFinalBetween before after := by
  rw [lower, lowerFrom_append, lowerBetween_append] at h
  have hl : (lowerBetween (casedFrom false x) before (capitalSigma :: after ++ y)).length =
      (lowerBetween false before (capitalSigma :: after)).length := by
    have hm := congrArg List.length
      ((map_foldSigma_lowerBetween (casedFrom false x) before (capitalSigma :: after ++ y)).trans
        (map_foldSigma_lowerBetween false before (capitalSigma :: after)).symm)
    rwa [List.length_map, List.length_map] at hm
  have hs := (List.append_inj h hl).2
  rw [lowerBetween, lowerFrom, lowerAt_capitalSigma, lowerAt_capitalSigma, ← casedFrom_append] at hs
  change (if isFinalBetween (x ++ before) (after ++ y) then [finalSigma] else [smallSigma]) ++ _ =
    (if isFinalBetween before after then [finalSigma] else [smallSigma]) ++ _ at hs
  have hne : finalSigma ≠ smallSigma := by decide
  cases hf : isFinalBetween (x ++ before) (after ++ y) <;>
    cases hf' : isFinalBetween before after <;> simp [hf, hf', hne, hne.symm] at hs ⊢

/-- the lower case of a piece stands in that of every text around it exactly if no sigma of the
piece depends on what stands there -/
theorem infix_lower_iff {p : List Char} :
    (∀ cs, p <:+: cs → lower p <:+: lower cs) ↔
      ∀ before after, p = before ++ capitalSigma :: after → isSettled before after = true := by
  constructor
  · rintro h before after rfl
    refine isSettled_of_forall fun b d => isFinalBetween_of_lowerBetween ?_
    have hin := h _ (List.infix_append (cased b) (before ++ capitalSigma :: after) (cased d))
    rw [lower_append_append, lowerBetween_cased, lowerFrom_cased] at hin
    refine (eq_of_infix_of_map_foldSigma (isSigmaFree_cased b) (isSigmaFree_cased d) ?_ hin).symm
    exact (map_foldSigma_lowerBetween_eq _ _ _).symm
  · rintro h cs ⟨x, y, rfl⟩
    rw [lower_append_append, lowerBetween_of_isSettled h]
    exact List.infix_append _ _ _

end ProjectAudit.Text
