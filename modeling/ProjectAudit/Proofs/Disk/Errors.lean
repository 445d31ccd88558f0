import ProjectAudit.Disk.Tree

/-!
# Why a walk can fail

A tree has only so many reasons for not answering, and each of them has a message of its own, into
which nothing from the tree or from the path goes (`Tree.hasNamedErrors_disk`).
-/

namespace ProjectAudit

/-- the error has a message of its own -/
def FileError.IsNamed (e : FileError) : Prop := ∀ description, e ≠ .other description

namespace Tree
variable {t : Tree} {here cwd : Place} {path : String} {e : FileError}

theorem isNamed_of_route (h : route path = .error e) : e.IsNamed := by
  rintro description rfl
  unfold route at h
  split at h
  · cases h
  · split at h
    · cases h
    · split at h <;> cases h

theorem isNamed_of_advance {steps : List Step} (h : advance here steps = .error e) :
    e.IsNamed := by
  induction steps generalizing here with
  | nil => cases h
  | cons step steps ih =>
    cases step with
    | stay => exact ih h
    | up => exact ih h
    | into name =>
      rintro description rfl
      unfold advance at h
      split at h
      · cases h
      · split at h
        · cases h
        · cases h
        · exact ih h description rfl
        · split at h <;> cases h

/-- from one link to the next -/
theorem isNamed_of_walk {links : Nat} {steps : List Step}
    (h : t.walk links here steps = .error e) : e.IsNamed := by
  induction links, here, steps using walk.induct t with
  | case1 links here steps e' ha =>
    rw [walk.eq_def, ha] at h
    cases h
    exact isNamed_of_advance ha
  | case2 links here steps found ha =>
    rw [walk.eq_def, ha] at h
    cases h
  | case3 here steps directory target rest ha =>
    rw [walk.eq_def, ha] at h
    cases h
    rintro description hd
    cases hd
  | case4 here steps directory target rest ha links e' hr =>
    rw [walk.eq_def, ha] at h
    simp only [hr] at h
    cases h
    exact isNamed_of_route hr
  | case5 here steps directory target rest ha links r hr ih =>
    rw [walk.eq_def, ha] at h
    simp only [hr] at h
    exact ih h

theorem isNamed_of_resolve (h : t.resolve cwd path = .error e) : e.IsNamed := by
  unfold resolve at h
  split at h
  · rename_i hr
    cases h
    exact isNamed_of_route hr
  · exact isNamed_of_walk h

theorem isNamed_of_text {found : Found} (h : found.text = .error e) : e.IsNamed := by
  rintro description rfl
  unfold Found.text at h
  split at h
  · split at h <;> cases h
  · cases h

end Tree

/-! ## disks -/

/-- whatever is asked, an answer that is missing is missing for a reason with a fixed message -/
structure Disk.HasNamedErrors (disk : Disk) : Prop where
  stat : ∀ path e, disk.stat path = .error e → e.IsNamed
  read : ∀ path e, disk.read path = .error e → e.IsNamed

theorem Tree.hasNamedErrors_disk (t : Tree) (cwd : Place) : (t.disk cwd).HasNamedErrors where
  stat path e h := by
    change (t.resolve cwd path).map Found.kind = .error e at h
    cases hr : t.resolve cwd path with
    | ok found =>
      rw [hr] at h
      cases h
    | error e' =>
      rw [hr] at h
      cases h
      exact isNamed_of_resolve hr
  read path e h := by
    change t.resolve cwd path >>= Found.text = .error e at h
    cases hr : t.resolve cwd path with
    | ok found =>
      rw [hr] at h
      exact isNamed_of_text h
    | error e' =>
      rw [hr] at h
      cases h
      exact isNamed_of_resolve hr

end ProjectAudit
