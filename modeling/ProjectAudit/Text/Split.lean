/-!
# Cutting a text at separators

`split isSep cs` cuts `cs` at every separator; the separators are dropped and the pieces between
them are kept, empty ones too, so that there is one piece more than there are separators.  It cuts
characters or bytes alike.
-/

namespace ProjectAudit.Text
variable {α : Type} {isSep : α → Bool}

/-- the piece before the first separator, and the pieces after it -/
def splitParts (isSep : α → Bool) (cs : List α) : List α × List (List α) :=
  cs.foldr
    (fun c (piece, later) => if isSep c then ([], piece :: later) else (c :: piece, later))
    ([], [])

def split (isSep : α → Bool) (cs : List α) : List (List α) :=
  (splitParts isSep cs).1 :: (splitParts isSep cs).2

/-! ## one element at a time -/

theorem split_nil : split isSep [] = [[]] := rfl

theorem split_cons_of_sep {c : α} (h : isSep c = true) (cs : List α) :
    split isSep (c :: cs) = [] :: split isSep cs := by
  simp [split, splitParts, h]

theorem split_cons_of_not_sep {c : α} (h : isSep c = false) (cs : List α) :
    split isSep (c :: cs) = (c :: (splitParts isSep cs).1) :: (splitParts isSep cs).2 := by
  simp [split, splitParts, h]

theorem split_ne_nil (cs : List α) : split isSep cs ≠ [] := by simp [split]

end ProjectAudit.Text
