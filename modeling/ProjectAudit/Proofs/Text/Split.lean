import ProjectAudit.Text.Split

/-!
# Cutting what is put together

Cutting a text that is joined at a separator gives the pieces of both sides (`split_append_sep`); of
two texts that are joined as they are, the last piece of one and the first of the other become one
(`split_append`).  Without a separator there is one piece.
-/

namespace ProjectAudit.Text
variable {α : Type} {isSep : α → Bool}

theorem exists_split (isSep : α → Bool) (cs : List α) :
    ∃ piece later, split isSep cs = piece :: later := ⟨_, _, rfl⟩

/-- an element that is no separator joins the first piece -/
theorem split_cons {c : α} {cs piece : List α} {later : List (List α)} (hc : isSep c = false)
    (h : split isSep cs = piece :: later) : split isSep (c :: cs) = (c :: piece) :: later := by
  obtain ⟨h1, h2⟩ := List.cons.inj h
  rw [split_cons_of_not_sep hc, h1, h2]

theorem split_append_sep {c : α} (h : isSep c = true) (a b : List α) :
    split isSep (a ++ c :: b) = split isSep a ++ split isSep b := by
  induction a with
  | nil => rw [List.nil_append, split_cons_of_sep h, split_nil, List.singleton_append]
  | cons d a ih =>
    rw [List.cons_append]
    cases hd : isSep d with
    | true => rw [split_cons_of_sep hd, split_cons_of_sep hd, ih, List.cons_append]
    | false =>
      obtain ⟨piece, later, ha⟩ := exists_split isSep a
      rw [ha, List.cons_append] at ih
      rw [split_cons hd ih, split_cons hd ha, List.cons_append]

/-- the last piece of a text goes on with the first piece of the next -/
theorem split_append {b piece : List α} {pieces : List (List α)}
    (hb : split isSep b = piece :: pieces) (a : List α) : ∃ before last,
    split isSep a = before ++ [last] ∧
      split isSep (a ++ b) = before ++ (last ++ piece) :: pieces := by
  induction a with
  | nil => exact ⟨[], [], rfl, hb⟩
  | cons c a ih =>
    obtain ⟨before, last, ha, hab⟩ := ih
    rw [List.cons_append]
    cases hc : isSep c with
    | true =>
      refine ⟨[] :: before, last, ?_, ?_⟩
      · rw [split_cons_of_sep hc, ha, List.cons_append]
      · rw [split_cons_of_sep hc, hab, List.cons_append]
    | false =>
      cases before with
      | nil => exact ⟨[], c :: last, split_cons hc ha, split_cons hc hab⟩
      | cons first before =>
        exact ⟨(c :: first) :: before, last, split_cons hc ha, split_cons hc hab⟩

theorem split_of_no_sep {cs : List α} (h : ∀ c ∈ cs, isSep c = false) : split isSep cs = [cs] := by
  induction cs with
  | nil => rfl
  | cons c cs ih =>
    have hcs := ih fun d hd => h d (List.mem_cons_of_mem _ hd)
    exact split_cons (h c List.mem_cons_self) hcs

/-- a text without a separator joins the first piece of the next -/
theorem split_append_of_no_sep {a b piece : List α} {later : List (List α)}
    (ha : ∀ c ∈ a, isSep c = false) (hb : split isSep b = piece :: later) :
    split isSep (a ++ b) = (a ++ piece) :: later := by
  induction a with
  | nil => exact hb
  | cons c a ih =>
    have hab := ih fun d hd => ha d (List.mem_cons_of_mem _ hd)
    exact split_cons (ha c List.mem_cons_self) hab

theorem mem_of_mem_split {c : α} {cs piece : List α} (hp : piece ∈ split isSep cs)
    (hc : c ∈ piece) : c ∈ cs := by
  induction cs generalizing piece with
  | nil =>
    rw [split_nil, List.mem_singleton] at hp
    rwa [hp] at hc
  | cons d cs ih =>
    cases hd : isSep d with
    | true =>
      rw [split_cons_of_sep hd, List.mem_cons] at hp
      rcases hp with rfl | hp
      · cases hc
      · exact List.mem_cons_of_mem _ (ih hp hc)
    | false =>
      obtain ⟨first, later, hs⟩ := exists_split isSep cs
      rw [split_cons hd hs, List.mem_cons] at hp
      rcases hp with rfl | hp
      · rcases List.mem_cons.1 hc with rfl | hc
        · exact List.mem_cons_self
        · exact List.mem_cons_of_mem _ (ih (by rw [hs]; exact List.mem_cons_self) hc)
      · exact List.mem_cons_of_mem _ (ih (by rw [hs]; exact List.mem_cons_of_mem _ hp) hc)

theorem not_sep_of_mem_split {c : α} {cs piece : List α} (hp : piece ∈ split isSep cs)
    (hc : c ∈ piece) : isSep c = false := by
  induction cs generalizing piece with
  | nil =>
    rw [split_nil, List.mem_singleton] at hp
    rw [hp] at hc
    cases hc
  | cons d cs ih =>
    cases hd : isSep d with
    | true =>
      rw [split_cons_of_sep hd, List.mem_cons] at hp
      rcases hp with rfl | hp
      · cases hc
      · exact ih hp hc
    | false =>
      obtain ⟨first, later, hs⟩ := exists_split isSep cs
      rw [split_cons hd hs, List.mem_cons] at hp
      rcases hp with rfl | hp
      · rcases List.mem_cons.1 hc with rfl | hc
        · exact hd
        · exact ih (by rw [hs]; exact List.mem_cons_self) hc
      · exact ih (by rw [hs]; exact List.mem_cons_of_mem _ hp) hc

end ProjectAudit.Text
