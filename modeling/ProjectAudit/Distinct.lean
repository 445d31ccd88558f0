/-!
# Lists without repetition

`distinct` keeps each element of a list once.
-/

namespace ProjectAudit
variable {α : Type} [DecidableEq α]

def distinct (xs : List α) : List α := xs.foldr List.insert []

theorem mem_distinct {xs : List α} {x : α} : x ∈ distinct xs ↔ x ∈ xs := by
  induction xs with
  | nil => simp [distinct]
  | cons y ys ih =>
    rw [distinct, List.foldr_cons, List.mem_insert_iff, List.mem_cons]
    exact or_congr Iff.rfl ih

theorem nodup_distinct (xs : List α) : (distinct xs).Nodup := by
  induction xs with
  | nil => simp [distinct]
  | cons y ys ih =>
    rw [distinct, List.foldr_cons, List.insert]
    split
    · exact ih
    · exact List.nodup_cons.2 ⟨by simp_all [distinct], ih⟩

end ProjectAudit
